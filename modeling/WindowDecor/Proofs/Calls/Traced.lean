import WindowDecor.WindowManager

/-!
# Window managers that keep track of their calls

Operations are written over an arbitrary window manager, so they can be run on one that passes every
call on to another and writes it down.  What it has written down in the end is what the operation
asked of the other one, whichever that is.

* `ManagerCall` — a call with what was passed and what came back.
* `Traced` — a state, and the calls that led to it.  It is a window manager where the state is.
* `Answered` — a list of calls is what a window manager answers from one state to another.
* **`Traces`** — an operation does the same whether or not its calls are written down, and something
  holds of them and of its result.  It is put together like the operation (`Traces.pure`,
  `Traces.bind`, `Traces.ask_bind`), so a proof follows the operation's own steps.
* `callsOf` — the calls that an operation makes.
-/

namespace WindowDecor

/-- A call of a window manager, and its answer where it has one. -/
inductive ManagerCall where
  | monitorOf (w : WindowHandle) (answer : Option MonitorHandle)
  | workArea (m : MonitorHandle) (answer : Except CallFailure Rect)
  | bounds (w : WindowHandle) (answer : Except CallFailure Rect)
  | move (w : WindowHandle) (origin : Point)
  | resize (w : WindowHandle) (width height : Int32)
  | flash (w : WindowHandle) (count : UInt32)
  | extractIcons (path : FilePath) (answer : ExtractedIcons)
  | setIcon (w : WindowHandle) (slot : IconClass) (icon : IconHandle)
  | style (w : WindowHandle) (answer : WindowStyle)
  | setStyle (w : WindowHandle) (style : WindowStyle)
  | setProgress (bar : WindowHandle) (state : ProgressState)

/-- A window manager's state, and the calls that were made of it, in order. -/
structure Traced (σ : Type) where
  state : σ
  calls : List ManagerCall

namespace Traced

variable {σ α : Type}

/-- No calls yet. -/
def start (s : σ) : Traced σ := ⟨s, []⟩

/-- Makes a call and writes it down with its answer. -/
def ask (call : StateM σ α) (note : α → ManagerCall) : StateM (Traced σ) α := fun t =>
  ((call t.state).1, ⟨(call t.state).2, t.calls ++ [note (call t.state).1]⟩)

end Traced

variable {σ α β : Type} [WindowManager σ]

instance : WindowManager (Traced σ) where
  monitorOf w := Traced.ask (WindowManager.monitorOf w) (.monitorOf w)
  workArea m := Traced.ask (WindowManager.workArea m) (.workArea m)
  bounds w := Traced.ask (WindowManager.bounds w) (.bounds w)
  move w origin := Traced.ask (WindowManager.move w origin) fun _ => .move w origin
  resize w width height :=
    Traced.ask (WindowManager.resize w width height) fun _ => .resize w width height
  flash w count := Traced.ask (WindowManager.flash w count) fun _ => .flash w count
  extractIcons path := Traced.ask (WindowManager.extractIcons path) (.extractIcons path)
  setIcon w slot icon := Traced.ask (WindowManager.setIcon w slot icon) fun _ => .setIcon w slot icon
  style w := Traced.ask (WindowManager.style w) (.style w)
  setStyle w style := Traced.ask (WindowManager.setStyle w style) fun _ => .setStyle w style
  setProgress bar state :=
    Traced.ask (WindowManager.setProgress bar state) fun _ => .setProgress bar state

/-! ## Answers -/

/-- Made in the state `s`, the call gets the answer that it carries, and `s'` is the state after
it. -/
def ManagerCall.Answers (s s' : σ) : ManagerCall → Prop
  | .monitorOf w answer => WindowManager.monitorOf w s = (answer, s')
  | .workArea m answer => WindowManager.workArea m s = (answer, s')
  | .bounds w answer => WindowManager.bounds w s = (answer, s')
  | .move w origin => WindowManager.move w origin s = ((), s')
  | .resize w width height => WindowManager.resize w width height s = ((), s')
  | .flash w count => WindowManager.flash w count s = ((), s')
  | .extractIcons path answer => WindowManager.extractIcons path s = (answer, s')
  | .setIcon w slot icon => WindowManager.setIcon w slot icon s = ((), s')
  | .style w answer => WindowManager.style w s = (answer, s')
  | .setStyle w flags => WindowManager.setStyle w flags s = ((), s')
  | .setProgress bar state => WindowManager.setProgress bar state s = ((), s')

/-- Made one after the other from the first state on, the calls get their answers, and lead to the
last one. -/
inductive Answered : σ → List ManagerCall → σ → Prop
  | nil (s : σ) : Answered s [] s
  | cons {s s₁ s₂ : σ} {call : ManagerCall} {calls : List ManagerCall} (hcall : call.Answers s s₁)
      (hcalls : Answered s₁ calls s₂) : Answered s (call :: calls) s₂

/-- Two stretches of answered calls are one. -/
theorem Answered.append {s s₁ s₂ : σ} {calls later : List ManagerCall}
    (h : Answered s calls s₁) (hlater : Answered s₁ later s₂) : Answered s (calls ++ later) s₂ := by
  induction h with
  | nil s => exact hlater
  | cons hcall _ ih => exact .cons hcall (ih hlater)

/-! ## Operations -/

/-- `traced` does what `plain` does, and makes calls of which, together with the result, `trace`
holds. -/
def Traces (trace : List ManagerCall → α → Prop) (traced : StateM (Traced σ) α)
    (plain : StateM σ α) : Prop :=
  ∀ t, ∃ calls, traced t = ((plain t.state).1, ⟨(plain t.state).2, t.calls ++ calls⟩) ∧
    Answered t.state calls (plain t.state).2 ∧ trace calls (plain t.state).1

namespace Traces

variable {trace : List ManagerCall → β → Prop} {first : List ManagerCall → α → Prop}

theorem pure {b : β} (h : trace [] b) :
    Traces trace (Pure.pure b : StateM (Traced σ) β) (Pure.pure b) := by
  intro t
  refine ⟨[], ?_, .nil _, h⟩
  rw [List.append_nil]
  rfl

/-- What holds of all calls may be weakened. -/
theorem mono {trace' : List ManagerCall → β → Prop} {traced : StateM (Traced σ) β}
    {plain : StateM σ β} (h : Traces trace traced plain)
    (himplies : ∀ calls b, trace calls b → trace' calls b) : Traces trace' traced plain := by
  intro t
  obtain ⟨calls, hsame, hanswered, htrace⟩ := h t
  exact ⟨calls, hsame, hanswered, himplies _ _ htrace⟩

/-- What comes after an operation has the calls before it in mind. -/
theorem bind {traced : StateM (Traced σ) α} {plain : StateM σ α}
    {traced' : α → StateM (Traced σ) β} {plain' : α → StateM σ β} (h : Traces first traced plain)
    (hnext : ∀ a before, first before a →
      Traces (fun after b => trace (before ++ after) b) (traced' a) (plain' a)) :
    Traces trace (traced >>= traced') (plain >>= plain') := by
  intro t
  obtain ⟨before, hfirst, hanswered, hbefore⟩ := h t
  obtain ⟨after, hsecond, hanswered', hafter⟩ := hnext _ before hbefore
    ⟨(plain t.state).2, t.calls ++ before⟩
  refine ⟨before ++ after, ?_, hanswered.append hanswered', hafter⟩
  rw [← List.append_assoc]
  refine Eq.trans ?_ hsecond
  show traced' (traced t).1 (traced t).2 = _
  rw [hfirst]

/-- A single call. -/
theorem ask {call : StateM σ α} {note : α → ManagerCall}
    (hnote : ∀ s, (note (call s).1).Answers s (call s).2) :
    Traces (fun calls a => calls = [note a]) (Traced.ask call note) call :=
  fun t => ⟨_, rfl, .cons (hnote t.state) (.nil _), rfl⟩

/-- A call at the beginning of an operation. -/
theorem ask_bind {call : StateM σ α} {note : α → ManagerCall}
    {traced' : α → StateM (Traced σ) β} {plain' : α → StateM σ β}
    (hnote : ∀ s, (note (call s).1).Answers s (call s).2)
    (hnext : ∀ a, Traces (fun calls b => trace (note a :: calls) b) (traced' a) (plain' a)) :
    Traces trace (Traced.ask call note >>= traced') (call >>= plain') := by
  refine bind (ask hnote) fun a before hbefore => ?_
  subst hbefore
  exact hnext a

end Traces

/-- The calls that an operation makes, from a state on. -/
def callsOf (traced : StateM (Traced σ) α) (s : σ) : List ManagerCall := (traced (.start s)).2.calls

/-- What an operation traces, of the calls that are written down from the beginning. -/
theorem Traces.callsOf {trace : List ManagerCall → α → Prop} {traced : StateM (Traced σ) α}
    {plain : StateM σ α} (h : Traces trace traced plain) (s : σ) :
    (traced (.start s)).1 = (plain s).1 ∧ (traced (.start s)).2.state = (plain s).2 ∧
      Answered s (callsOf traced s) (plain s).2 ∧ trace (callsOf traced s) (plain s).1 := by
  obtain ⟨calls, hsame, hanswered, htrace⟩ := h (.start s)
  have hcalls : WindowDecor.callsOf traced s = calls := by
    rw [WindowDecor.callsOf, hsame]
    rfl
  rw [hcalls, hsame]
  exact ⟨rfl, rfl, hanswered, htrace⟩

end WindowDecor
