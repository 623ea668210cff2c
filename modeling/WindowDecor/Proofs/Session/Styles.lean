import WindowDecor.Proofs.Icons.Slots

/-!
# Styles

A window has the style that it was created with until its frame is fixed.  Then two bits are cleared,
and from there on the style stays as it is, however often the frame is fixed again.  How often that
was can be told from the number of times that the style was written.

* `WindowStyle.bit`, `WindowStyle.fixed` — single bits of a style, and a style whose window had its
  frame fixed a number of times.
* `Adapter.fixes?` — the window whose frame an action fixes; `Session.timesFixed` counts over a run.
* `Desktop.styling?_perform`, `Adapter.styling?_requests`, `Session.styling?_after` — **nothing else
  writes a style**, as far as an action, what an adapter asks for, and a run.
* **`Session.stylesKept_after`** — what follows for windows that were created in the run
  (`Session.StylesKept`).
-/

namespace WindowDecor

/-! ## Bits -/

namespace WindowStyle

/-- One bit of a style. -/
def bit (a : WindowStyle) (i : Nat) : Bool := a.bits.toBitVec.getLsbD i

@[simp]
theorem bit_without (a b : WindowStyle) (i : Nat) : (a.without b).bit i = (a.bit i && !b.bit i) := by
  simp only [bit, without, inter, complement, UInt32.toBitVec_and, UInt32.toBitVec_not,
    BitVec.getLsbD_and, BitVec.getLsbD_not]
  by_cases hi : i < 32
  · simp [hi]
  · simp [hi, BitVec.getLsbD_of_ge a.bits.toBitVec i (by omega)]

/-- The sizing border is bit 18, and the maximize button is bit 16. -/
@[simp]
theorem bit_resizeAffordances (i : Nat) : resizeAffordances.bit i = decide (i = 16 ∨ i = 18) := by
  by_cases hi : i < 32
  · have hbits : ∀ i < 32, resizeAffordances.bit i = decide (i = 16 ∨ i = 18) := by decide
    exact hbits i hi
  · rw [bit, BitVec.getLsbD_of_ge _ i (by omega)]
    exact (decide_eq_false (by omega)).symm

/-- **Fixing a frame clears two bits** and keeps the others. -/
@[simp] theorem bit_withoutResizeAffordances (a : WindowStyle) (i : Nat) :
    a.withoutResizeAffordances.bit i = (a.bit i && decide (i ≠ 16 ∧ i ≠ 18)) := by
  simp [withoutResizeAffordances]

@[simp] theorem without_without (a b : WindowStyle) : (a.without b).without b = a.without b := by
  simp only [without, inter, complement, UInt32.and_assoc, UInt32.and_self]

/-- The style of a window whose frame was fixed a number of times. -/
def fixed (a : WindowStyle) (count : Nat) : WindowStyle :=
  if count = 0 then a else a.withoutResizeAffordances

/-- Only the first time makes a difference. -/
@[simp]
theorem fixed_fixed (a : WindowStyle) (m n : Nat) : (a.fixed m).fixed n = a.fixed (m + n) := by
  cases m with
  | zero => rw [Nat.zero_add]; rfl
  | succ m =>
    cases n with
    | zero => rfl
    | succ n => exact without_without a resizeAffordances

/-- Bits 16 and 18 are clear once the frame was fixed, and no other bit changes. -/
@[simp] theorem bit_fixed (a : WindowStyle) (count i : Nat) :
    (a.fixed count).bit i = (a.bit i && decide (count = 0 ∨ i ≠ 16 ∧ i ≠ 18)) := by
  simp only [fixed]
  split
  · next h => simp [h]
  · next h => rw [bit_withoutResizeAffordances]; simp [h]

end WindowStyle

/-! ## Who writes styles -/

/-- A window's style, and how often it was written. -/
def Window.styling (window : Window) : WindowStyle × Nat := (window.style, window.styleWrites)

/-- Whether an action neither writes a window's style nor destroys it. -/
def DesktopAction.keepsStyle (w : WindowHandle) : DesktopAction → Bool
  | .destroyWindow v | .setStyle v _ => decide (w ≠ v)
  | _ => true

namespace Desktop

/-- The style of the window that a handle names, and how often it was written. -/
def styling? (d : Desktop) (w : WindowHandle) : Option (WindowStyle × Nat) :=
  (d.window? w).map (·.styling)

variable {d : Desktop} {w : WindowHandle} {old : WindowStyle × Nat}

theorem styling?_of_window? {window : Window} (h : d.window? w = some window) :
    d.styling? w = some (window.style, window.styleWrites) := by
  rw [styling?, h]
  rfl

theorem exists_window_of_styling? {style : WindowStyle} {writes : Nat}
    (h : d.styling? w = some (style, writes)) :
    ∃ window, d.window? w = some window ∧ window.style = style ∧ window.styleWrites = writes := by
  obtain ⟨window, hwindow, hstyling⟩ := Option.map_eq_some_iff.mp h
  exact ⟨window, hwindow, Prod.mk.inj hstyling⟩

theorem styling?_changeWindow (hold : d.styling? w = some old) (v : WindowHandle)
    {change : Window → Window} (hhandle : ∀ window, (change window).handle = window.handle)
    (hstyling : ∀ window, (change window).styling = window.styling) :
    (d.changeWindow v change).styling? w = some old :=
  (d.view_changeWindow Window.styling v w hhandle fun window _ => hstyling window).trans hold

/-- **No other action has to do with a window's style.** -/
theorem styling?_perform (hold : d.styling? w = some old) {action : DesktopAction}
    (hkeeps : action.keepsStyle w) : (d.perform action).1.styling? w = some old := by
  cases action with
  | addWindow bounds style =>
    obtain ⟨window, hwindow, rfl⟩ := Option.map_eq_some_iff.mp hold
    show ((d.addWindow bounds style).2.window? w).map _ = _
    rw [window?_addWindow, hwindow, Option.some_or, Option.map_some]
  | destroyWindow v =>
    have hv : w ≠ v := of_decide_eq_true hkeeps
    show ((d.destroyWindow v).window? w).map _ = _
    rw [window?_destroyWindow, if_neg hv]
    exact hold
  | setStyle v style =>
    have hv : w ≠ v := of_decide_eq_true hkeeps
    show ((d.setStyle v style).window? w).map _ = _
    rw [window?_setStyle, if_neg hv]
    exact hold
  | failWindowBounds v => exact styling?_changeWindow hold v (fun _ => rfl) fun _ => rfl
  | move v origin => exact styling?_changeWindow hold v (fun _ => rfl) fun _ => rfl
  | resize v width height => exact styling?_changeWindow hold v (fun _ => rfl) fun _ => rfl
  | setIcon v slot icon =>
    exact styling?_changeWindow hold v (fun window => window.handle_setIcon icon slot)
      fun window => by simp [Window.styling]
  | _ => exact hold

theorem styling?_performAll (hold : d.styling? w = some old) {actions : List DesktopAction}
    (hkeeps : ∀ action ∈ actions, action.keepsStyle w) :
    (d.performAll actions).styling? w = some old :=
  performAll_induction (motive := fun d => d.styling? w = some old) hold
    fun action haction _ hd => styling?_perform hd (hkeeps action haction)

/-- Centering moves a window, if anything. -/
theorem styling?_centerRequests (hold : d.styling? w = some old) (v : WindowHandle) :
    (d.performAll (d.centerRequests v)).styling? w = some old := by
  refine styling?_performAll hold fun r hr => ?_
  obtain ⟨origin, rfl⟩ := eq_move_of_mem_centerRequests hr
  rfl

/-- Fixing a frame reads a style and writes it, once each and of the same window. -/
theorem styling?_fixStyleRequests {style : WindowStyle} {writes : Nat}
    (hold : d.styling? w = some (style, writes)) (v : WindowHandle) :
    (d.performAll (d.fixStyleRequests v)).styling? w =
      if v = w then some (style.withoutResizeAffordances, writes + 1)
      else some (style, writes) := by
  split
  · next hv =>
    subst hv
    obtain ⟨window, hwindow, rfl, rfl⟩ := exists_window_of_styling? hold
    have hread : d.style v = window.style := by
      rw [Desktop.style, hwindow, Option.map_some, Option.getD_some]
    show ((d.setStyle v (d.style v).withoutResizeAffordances).window? v).map _ = _
    rw [window?_setStyle, if_pos rfl, hwindow, hread]
    rfl
  · next hv => exact styling?_perform hold (decide_eq_true (Ne.symm hv))

end Desktop

namespace Decorator

variable {desktop : Desktop} {w : WindowHandle} {old : WindowStyle × Nat} (d : Decorator)
  (program : ProgramFile)

theorem styling?_iconRequests (hold : desktop.styling? w = some old) (v : WindowHandle) :
    (desktop.performAll (d.iconRequests v)).styling? w = some old := by
  refine Desktop.styling?_performAll hold fun r hr => ?_
  obtain ⟨assignment, -, rfl⟩ := List.mem_map.mp hr
  rfl

theorem styling?_ownIconRequests (hold : desktop.styling? w = some old) (v : WindowHandle) :
    (desktop.performAll (d.ownIconRequests program desktop v)).styling? w = some old := by
  refine Desktop.styling?_performAll hold fun r hr => ?_
  rcases d.ownIconRequests_cases program desktop v hr with ⟨slot, icon, rfl⟩ | ⟨path, rfl⟩
  · rfl
  · rfl

end Decorator

namespace Adapter

/-- The window whose frame an action fixes. -/
def fixes? (a : Adapter) : DecoratorAction → Option WindowHandle
  | .fixStyle w => some w
  | .prepare w =>
      match a.kind with
      | .plain => none
      | .reporting => some w
  | _ => none

/-- **An adapter clears two bits of the window whose frame it fixes**, and writes no other style. -/
theorem styling?_requests (a : Adapter) (program : ProgramFile) {desktop : Desktop}
    (action : DecoratorAction) {w : WindowHandle} {style : WindowStyle} {writes : Nat}
    (hold : desktop.styling? w = some (style, writes)) :
    (desktop.performAll (a.requests program desktop action)).styling? w =
      if a.fixes? action = some w then some (style.withoutResizeAffordances, writes + 1)
      else some (style, writes) := by
  obtain ⟨kind, d⟩ := a
  cases action with
  | resize v width height =>
    exact Desktop.styling?_changeWindow hold v (fun _ => rfl) fun _ => rfl
  | center v => exact Desktop.styling?_centerRequests hold v
  | plainCenter v => exact Desktop.styling?_centerRequests hold v
  | fixStyle v =>
    simp only [fixes?, Option.some.injEq]
    exact Desktop.styling?_fixStyleRequests hold v
  | applyIcons v =>
    cases kind with
    | plain => exact d.styling?_iconRequests hold v
    | reporting => exact d.styling?_ownIconRequests program hold v
  | plainApplyIcons v => exact d.styling?_iconRequests hold v
  | loadIconsFrom path => cases kind <;> exact hold
  | loadOwnIcons =>
    cases kind with
    | plain => exact hold
    | reporting =>
      simp only [requests, Decorator.loadRequests]
      cases d.iconSource program <;> exact hold
  | prepare v =>
    cases kind with
    | plain => exact hold
    | reporting =>
      simp only [requests, Decorator.prepareRequests, Desktop.performAll_append, fixes?,
        Option.some.injEq]
      have hframe := Desktop.styling?_fixStyleRequests (d.styling?_ownIconRequests program hold v) v
      split
      · next hv =>
        rw [if_pos hv] at hframe
        exact Desktop.styling?_centerRequests hframe v
      · next hv =>
        rw [if_neg hv] at hframe
        exact Desktop.styling?_centerRequests hframe v
  | _ => exact hold

end Adapter

/-! ## Runs -/

/-- Whether a step neither writes a window's style directly nor destroys the window. -/
def Step.keepsStyle (w : WindowHandle) : Step → Bool
  | .desktop action => action.keepsStyle w
  | _ => true

namespace Session

/-- The window whose frame a step fixes. -/
def fixes? (s : Session) : Step → Option WindowHandle
  | .adapter index action => s.adapters[index]?.bind (·.fixes? action)
  | _ => none

/-- How often a run fixes a window's frame. -/
def timesFixed (s : Session) (w : WindowHandle) : List Step → Nat
  | [] => 0
  | step :: steps =>
      (if s.fixes? step = some w then 1 else 0) + timesFixed (s.step step).1 w steps

variable {s : Session} {w : WindowHandle} {style : WindowStyle} {writes : Nat}

/-- **A step writes the style of a window just when it fixes its frame.** -/
theorem styling?_step (hold : s.desktop.styling? w = some (style, writes)) {step : Step}
    (hkeeps : step.keepsStyle w) :
    (s.step step).1.desktop.styling? w =
      if s.fixes? step = some w then some (style.withoutResizeAffordances, writes + 1)
      else some (style, writes) := by
  cases step with
  | desktop action => exact Desktop.styling?_perform hold hkeeps
  | newAdapter kind settings => cases settings <;> exact hold
  | adapter index action =>
    cases ha : s.adapters[index]? with
    | none =>
      simp only [Session.step, fixes?, ha]
      exact hold
    | some a =>
      rw [step_adapter ha]
      simp only [fixes?, ha, Option.bind_some]
      exact a.styling?_requests s.program action hold
  | _ => exact hold

/-- **A run fixes a window's frame, and otherwise leaves its style alone.** -/
theorem styling?_after (hold : s.desktop.styling? w = some (style, writes)) {steps : List Step}
    (hkeeps : ∀ step ∈ steps, step.keepsStyle w) :
    (s.after steps).desktop.styling? w =
      some (style.fixed (s.timesFixed w steps), writes + s.timesFixed w steps) := by
  induction steps generalizing s style writes with
  | nil => exact hold
  | cons step rest ih =>
    have hrest : ∀ step ∈ rest, step.keepsStyle w :=
      fun step hstep => hkeeps step (List.mem_cons_of_mem _ hstep)
    have hfirst := styling?_step hold (hkeeps step List.mem_cons_self)
    rw [after_cons, timesFixed]
    split
    · next hfixes =>
      rw [if_pos hfixes] at hfirst
      rw [ih hfirst hrest, ← style.fixed_fixed, Nat.add_assoc]
      rfl
    · next hnot =>
      rw [if_neg hnot] at hfirst
      rw [ih hfirst hrest, Nat.zero_add]

/-- Asking an adapter is not writing a style directly. -/
theorem keepsStyle_of_fixes? {step : Step} {v : WindowHandle} (h : s.fixes? step = some v)
    (w : WindowHandle) : step.keepsStyle w := by
  cases step with
  | adapter index action => rfl
  | _ => cases h

/-- Where no step destroys the window or writes a style directly, every step keeps its style. -/
theorem keepsStyle_of_notMem {steps : List Step} (hkeep : .desktop (.destroyWindow w) ∉ steps)
    (hadapters : ∀ v style, .desktop (.setStyle v style) ∉ steps) :
    ∀ step ∈ steps, step.keepsStyle w := by
  intro step hstep
  cases step with
  | desktop action =>
    cases action with
    | destroyWindow v => exact decide_eq_true fun h => hkeep (h ▸ hstep)
    | setStyle v style => exact absurd hstep (hadapters v style)
    | _ => rfl
  | _ => rfl

/-! ## Windows that a run created -/

/-- What a run makes sure of about styles. -/
structure StylesKept (s : Session) (steps : List Step) : Prop where
  /-- A window has the style that it was created with, less two bits if its frame was fixed since,
  and its style was written that often. -/
  counted : ∀ {w window}, (s.after steps).desktop.window? w = some window →
    ∃ earlier bounds style later, steps = earlier ++ .desktop (.addWindow bounds style) :: later ∧
      ((s.after earlier).desktop.addWindow bounds style).1 = w ∧
      .desktop (.destroyWindow w) ∉ later ∧
      let count := (s.after (earlier ++ [.desktop (.addWindow bounds style)])).timesFixed w later
      window.style = (if count = 0 then style else style.withoutResizeAffordances) ∧
        (∀ i, window.style.bit i = (style.bit i && decide (count = 0 ∨ i ≠ 16 ∧ i ≠ 18))) ∧
        window.styleWrites = count
  /-- Whatever adapters do to a window, no bit of its style comes back, and all but two stay. -/
  bits : ∀ {w window later}, (s.after steps).desktop.window? w = some window →
    (∀ step ∈ later, step.keepsStyle w) →
      ∃ new, (s.after (steps ++ later)).desktop.window? w = some new ∧ ∀ i,
        (window.style.bit i = false → new.style.bit i = false) ∧
          (i ≠ 16 → i ≠ 18 → new.style.bit i = window.style.bit i)
  /-- Once a window's frame was fixed, its style stays the same. -/
  settled : ∀ {w window step later}, (s.after steps).desktop.window? w = some window →
    (s.after steps).fixes? step = some w → (∀ step ∈ later, step.keepsStyle w) →
      ∃ new, (s.after (steps ++ step :: later)).desktop.window? w = some new ∧
        new.style = window.style.withoutResizeAffordances
  /-- No step writes the style of a window whose frame it does not fix. -/
  others : ∀ {w window step}, (s.after steps).desktop.window? w = some window →
    step.keepsStyle w → (s.after steps).fixes? step ≠ some w →
      ∃ new, (s.after (steps ++ [step])).desktop.window? w = some new ∧
        new.style = window.style ∧ new.styleWrites = window.styleWrites

/-- **Windows keep their styles**, up to two bits that fixing the frame clears for good.  The style
of a window can also be set directly; such steps are left out here. -/
theorem stylesKept_after (program : ProgramFile) (steps : List Step)
    (hfew : additions steps < 2 ^ 60)
    (hadapters : ∀ w style, .desktop (.setStyle w style) ∉ steps) :
    (new program).StylesKept steps := by
  constructor
  case counted =>
    intro w window hwindow
    obtain ⟨earlier, bounds, style, later, rfl, hw, hkeep, hmade⟩ :=
      exists_created program hfew hwindow
    have hkeeps : ∀ step ∈ later, step.keepsStyle w :=
      keepsStyle_of_notMem hkeep fun v style hmem => hadapters v style (by simp [hmem])
    have hstyling := styling?_after (Desktop.styling?_of_window? hmade) hkeeps
    rw [after_append, after_cons] at hwindow
    obtain ⟨last, hlast, hstyle, hwrites⟩ := Desktop.exists_window_of_styling? hstyling
    obtain rfl := Option.some.inj (hlast.symm.trans hwindow)
    refine ⟨earlier, bounds, style, later, rfl, hw, hkeep, ?_⟩
    rw [after_snoc]
    refine ⟨hstyle, fun i => ?_, hwrites.trans (Nat.zero_add _)⟩
    rw [hstyle, WindowStyle.bit_fixed]
    rfl
  case bits =>
    intro w window later hwindow hkeeps
    obtain ⟨last, hlast, hstyle, -⟩ :=
      Desktop.exists_window_of_styling? (styling?_after (Desktop.styling?_of_window? hwindow) hkeeps)
    rw [after_append]
    refine ⟨last, hlast, fun i => ⟨fun hcleared => ?_, fun hbig hsmall => ?_⟩⟩
    · rw [hstyle, WindowStyle.bit_fixed, hcleared, Bool.false_and]
    · rw [hstyle, WindowStyle.bit_fixed, decide_eq_true (.inr ⟨hbig, hsmall⟩), Bool.and_true]
  case settled =>
    intro w window step later hwindow hfixes hkeeps
    have hstep := styling?_step (Desktop.styling?_of_window? hwindow) (keepsStyle_of_fixes? hfixes w)
    rw [if_pos hfixes] at hstep
    obtain ⟨last, hlast, hstyle, -⟩ := Desktop.exists_window_of_styling? (styling?_after hstep hkeeps)
    rw [after_append, after_cons]
    -- the frame was fixed once, and then any number of times
    refine ⟨last, hlast, hstyle.trans ((window.style.fixed_fixed 1 _).trans ?_)⟩
    rw [Nat.add_comm]
    rfl
  case others =>
    intro w window step hwindow hkeeps hnot
    have hstep := styling?_step (Desktop.styling?_of_window? hwindow) hkeeps
    rw [if_neg hnot] at hstep
    rw [after_snoc]
    exact Desktop.exists_window_of_styling? hstep

/-- A window with all bits set, another one with none, and a handle that was given out to neither.
The first is prepared before it is created, and afterwards its frame is fixed twice. -/
theorem stylesKept_allBits :
    let steps : List Step :=
      [.newAdapter .plain (.ok .default), .newAdapter .reporting (.ok .default),
        .adapter 1 (.prepare ⟨0x10004⟩), .desktop (.addWindow ⟨⟨0, 400⟩, ⟨0, 300⟩⟩ ⟨0xFFFFFFFF⟩),
        .desktop (.addWindow ⟨⟨0, 400⟩, ⟨0, 300⟩⟩ .none), .adapter 1 (.prepare ⟨0x10004⟩),
        .adapter 0 (.prepare ⟨0x10008⟩), .adapter 0 (.fixStyle ⟨0x10004⟩),
        .adapter 0 (.fixStyle ⟨0x10000⟩), .adapter 2 (.fixStyle ⟨0x10008⟩)]
    additions steps < 2 ^ 60 ∧ (∀ w style, .desktop (.setStyle w style) ∉ steps) ∧
      (new (.error "")).StylesKept steps ∧
      ((new (.error "")).after steps).desktop.windows.map Window.styling =
        [(⟨0xFFFAFFFF⟩, 2), (.none, 0)] := by
  intro steps
  have hfew : additions steps < 2 ^ 60 := by decide
  have hadapters : ∀ w style, .desktop (.setStyle w style) ∉ steps := by simp [steps]
  exact ⟨hfew, hadapters, stylesKept_after (.error "") steps hfew hadapters, by decide⟩

end Session

end WindowDecor
