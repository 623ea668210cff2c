import Mathlib.Algebra.Group.Nat.Defs
import Mathlib.Data.List.Induction
import WindowDecor.Proofs.Session.Requests

/-!
# What the desktop knows of its history

A handle is good from the step that gave it out until its window is destroyed, and a reading fails
once it was made to fail.  The desktop keeps this as data: a window that is there or not, and a flag
on each window and monitor.  Here the data is tied to the history of a session.

* `Session.after` — the session that a list of steps leads to.
* `Session.Since` — a run did something, and these are the steps since.
* `Session.Live`, `Session.BoundsFailed`, `Session.InfoFailed` — the history of a window and of a
  monitor, said of the steps alone.
* `additions` — how many handles were given out.  They are numbered in that order, so before the
  counter overflows **no handle is given out twice** (`Session.not_since_of_issued`).
* **`Session.window?_isSome_iff_live`, `Session.boundsFail_iff`, `Session.infoFails_iff`** — what the
  desktop has is what its history says.

The flags need the numbering: a handle that was given out twice would be new and failed at once.
-/

namespace WindowDecor

/-! ## Runs -/

namespace Session

/-- The session after a list of steps. -/
def after (s : Session) (steps : List Step) : Session := (s.run steps).1

@[simp] theorem after_nil (s : Session) : s.after [] = s := rfl

@[simp] theorem after_cons (s : Session) (step : Step) (steps : List Step) :
    s.after (step :: steps) = (s.step step).1.after steps := rfl

@[simp] theorem after_append (s : Session) (steps later : List Step) :
    s.after (steps ++ later) = (s.after steps).after later := by
  induction steps generalizing s with
  | nil => rfl
  | cons step rest ih =>
    rw [List.cons_append, after_cons, after_cons]
    exact ih _

theorem after_snoc (s : Session) (steps : List Step) (step : Step) :
    s.after (steps ++ [step]) = ((s.after steps).step step).1 := by
  rw [after_append, after_cons, after_nil]

/-- What no request changes, only a step on the desktop itself can change. -/
theorem view_step {α : Type} (view : Desktop → α)
    (hview : ∀ target (r : DesktopAction) d, r.isRequestFor target → view (d.perform r).1 = view d)
    (s : Session) (step : Step) :
    (∃ action, step = .desktop action) ∨
      (∀ action, step ≠ .desktop action) ∧ view (s.step step).1.desktop = view s.desktop := by
  rcases s.step_desktop step with
    ⟨action, hstep, -⟩ | ⟨_, action, requests, rfl, hrequests, hd⟩ | ⟨hother, hd⟩
  · exact .inl ⟨action, hstep⟩
  · refine .inr ⟨by simp, ?_⟩
    rw [hd]
    refine Desktop.performAll_induction (motive := fun d => view d = view s.desktop) rfl ?_
    intro r hr d hd
    rw [hview _ r d (hrequests r hr), hd]
  · exact .inr ⟨hother, congrArg view hd⟩

/-! ## What happened, and what happened since -/

/-- In a run of `steps`, one step was an instance of `event`, and `later` are the steps after it. -/
def Since (s : Session) (event : Session → Step → Prop) (steps later : List Step) : Prop :=
  ∃ earlier step, steps = earlier ++ step :: later ∧ event (s.after earlier) step

theorem not_since_nil (s : Session) (event : Session → Step → Prop) (later : List Step) :
    ¬ s.Since event [] later := by
  rintro ⟨earlier, step, h, -⟩
  simp at h

/-- One step more is one step more since, unless it is the step in question. -/
theorem since_snoc {s : Session} {event : Session → Step → Prop} {steps : List Step} {step : Step}
    {since : List Step → Prop} :
    (∃ later, s.Since event (steps ++ [step]) later ∧ since later) ↔
      event (s.after steps) step ∧ since [] ∨
        ∃ later, s.Since event steps later ∧ since (later ++ [step]) := by
  constructor
  · rintro ⟨later, ⟨earlier, first, hsteps, hevent⟩, hsince⟩
    rcases List.eq_nil_or_concat later with rfl | ⟨init, last, rfl⟩
    · obtain ⟨rfl, hlast⟩ := List.append_inj' hsteps rfl
      obtain rfl : step = first := List.singleton_inj.mp hlast
      exact .inl ⟨hevent, hsince⟩
    · rw [List.concat_eq_append] at hsteps hsince
      have hsplit : steps ++ [step] = (earlier ++ first :: init) ++ [last] := by simpa using hsteps
      obtain ⟨rfl, hlast⟩ := List.append_inj' hsplit rfl
      obtain rfl : step = last := List.singleton_inj.mp hlast
      exact .inr ⟨init, ⟨earlier, first, rfl, hevent⟩, hsince⟩
  · rintro (⟨hevent, hsince⟩ | ⟨later, ⟨earlier, first, rfl, hevent⟩, hsince⟩)
    · exact ⟨[], ⟨steps, step, rfl, hevent⟩, hsince⟩
    · exact ⟨later ++ [step], ⟨earlier, first, by simp, hevent⟩, hsince⟩

/-- A run did something if its first step did, or the rest of it. -/
theorem exists_since_cons {s : Session} {event : Session → Step → Prop} {step : Step}
    {steps : List Step} : (∃ later, s.Since event (step :: steps) later) ↔
      event s step ∨ ∃ later, (s.step step).1.Since event steps later := by
  constructor
  · rintro ⟨later, earlier, asked, hsteps, hevent⟩
    cases earlier with
    | nil =>
      obtain ⟨rfl, rfl⟩ := List.cons.inj hsteps
      exact .inl hevent
    | cons first earlier =>
      obtain ⟨rfl, rfl⟩ := List.cons.inj hsteps
      exact .inr ⟨later, earlier, asked, rfl, hevent⟩
  · rintro (hevent | ⟨later, earlier, asked, rfl, hevent⟩)
    · exact ⟨steps, [], step, rfl, hevent⟩
    · exact ⟨later, step :: earlier, asked, rfl, hevent⟩

/-- The step creates the window `w`. -/
def IssuesWindow (w : WindowHandle) (s : Session) (step : Step) : Prop :=
  ∃ bounds style, step = .desktop (.addWindow bounds style) ∧
    (s.desktop.addWindow bounds style).1 = w

/-- The step creates the monitor `m`. -/
def IssuesMonitor (m : MonitorHandle) (s : Session) (step : Step) : Prop :=
  ∃ geometry workArea, step = .desktop (.addMonitor geometry workArea) ∧
    (s.desktop.addMonitor geometry workArea).1 = m

/-- The window was created and not destroyed since. -/
def Live (s : Session) (steps : List Step) (w : WindowHandle) : Prop :=
  ∃ later, s.Since (IssuesWindow w) steps later ∧ .desktop (.destroyWindow w) ∉ later

/-- Since the window was created, reading its bounds was made to fail. -/
def BoundsFailed (s : Session) (steps : List Step) (w : WindowHandle) : Prop :=
  ∃ later, s.Since (IssuesWindow w) steps later ∧ .desktop (.failWindowBounds w) ∈ later

/-- Since the monitor was created, reading its work area was made to fail. -/
def InfoFailed (s : Session) (steps : List Step) (m : MonitorHandle) : Prop :=
  ∃ later, s.Since (IssuesMonitor m) steps later ∧ .desktop (.failMonitorInfo m) ∈ later

end Session

/-! ## Numbering

The counter advances by four with each monitor and each window, and with nothing else.  Up to
`2 ^ 60` of them it cannot overflow, so the number of a handle says how many came before it.
-/

/-- Whether an action gives out a handle. -/
def DesktopAction.adds : DesktopAction → Bool
  | .addMonitor _ _ | .addWindow _ _ => true
  | _ => false

/-- What adapters ask for gives out no handles. -/
theorem DesktopAction.adds_of_isRequestFor {target : Option WindowHandle} {r : DesktopAction}
    (hr : r.isRequestFor target) : r.adds = false := by
  cases r <;> simp_all [isRequestFor, adds]

/-- Whether a step gives out a handle. -/
def Step.adds : Step → Bool
  | .desktop action => action.adds
  | _ => false

/-- How many monitors and windows are added. -/
def additions (steps : List Step) : Nat := steps.countP Step.adds

@[simp] theorem additions_append (steps later : List Step) :
    additions (steps ++ later) = additions steps + additions later :=
  List.countP_append

@[simp] theorem additions_singleton (step : Step) :
    additions [step] = if step.adds then 1 else 0 := by
  cases h : step.adds <;> simp [additions, h]

/-- Only additions count handles on, in steps of four. -/
theorem Desktop.lastHandle_perform (d : Desktop) (action : DesktopAction) :
    (d.perform action).1.lastHandle =
      if action.adds then d.lastHandle + 4 else d.lastHandle := by
  cases action <;> rfl

namespace Session

theorem lastHandle_step (s : Session) (step : Step) :
    (s.step step).1.desktop.lastHandle =
      if step.adds then s.desktop.lastHandle + 4 else s.desktop.lastHandle := by
  have hview : ∀ target (r : DesktopAction) (d : Desktop), r.isRequestFor target →
      (d.perform r).1.lastHandle = d.lastHandle := by
    intro target r d hr
    rw [Desktop.lastHandle_perform, DesktopAction.adds_of_isRequestFor hr]
    rfl
  rcases view_step (·.lastHandle) hview s step with ⟨action, rfl⟩ | ⟨hother, hsame⟩
  · exact s.desktop.lastHandle_perform action
  · cases step with
    | desktop action => exact absurd rfl (hother action)
    | _ => exact hsame

/-- **The counter says how many handles were given out.** -/
theorem toInt_lastHandle_after (program : ProgramFile) (steps : List Step)
    (hfew : additions steps ≤ 2 ^ 60) :
    ((new program).after steps).desktop.lastHandle.toInt = 4 * additions steps := by
  induction steps using List.reverseRecOn with
  | nil => rfl
  | append_singleton steps step ih =>
    rw [additions_append, additions_singleton] at hfew ⊢
    have hlast := ih (by omega)
    have hfour : (4 : Int64).toInt = 4 := by decide
    rw [after_snoc, lastHandle_step]
    cases hadds : step.adds with
    | false => simpa [hadds] using hlast
    | true =>
      simp only [hadds, if_true] at hfew ⊢
      rw [Int64.toInt_add, hlast, hfour, Int.bmod_eq_of_le (by omega) (by omega)]
      omega

/-- The number of the handle that is given out after some steps. -/
theorem toInt_nextHandle_after (program : ProgramFile) (steps : List Step)
    (hfew : additions steps < 2 ^ 60) :
    ((new program).after steps).desktop.nextHandle.toInt = 0x10000 + 4 * (additions steps + 1) := by
  have hlast := toInt_lastHandle_after program steps (by omega)
  have hfour : (4 : Int64).toInt = 4 := by decide
  have hbase : (0x10000 : Int64).toInt = 0x10000 := by decide
  rw [Desktop.nextHandle, Int64.toInt_add, Int64.toInt_add, hlast, hfour, hbase]
  rw [Int.bmod_eq_of_le (n := 4 * (additions steps : Int) + 4) (by omega) (by omega),
    Int.bmod_eq_of_le (by omega) (by omega)]
  omega

/-- An event that happens at most when the next handle, and so its number, is given out. -/
def Numbers (event : Session → Step → Prop) (raw : Int64) : Prop :=
  ∀ s step, event s step → step.adds ∧ s.desktop.nextHandle = raw

/-- A window's handle is the number it was created under. -/
theorem numbers_issuesWindow (w : WindowHandle) : Numbers (IssuesWindow w) w.raw := by
  rintro s step ⟨bounds, style, rfl, rfl⟩
  exact ⟨rfl, rfl⟩

theorem numbers_issuesMonitor (m : MonitorHandle) : Numbers (IssuesMonitor m) m.raw := by
  rintro s step ⟨geometry, workArea, rfl, rfl⟩
  exact ⟨rfl, rfl⟩

/-- **No handle is given out twice.** -/
theorem not_since_of_issued {program : ProgramFile} {event : Session → Step → Prop} {raw : Int64}
    (hnumbers : Numbers event raw) {steps later : List Step} {step : Step}
    (hfew : additions steps < 2 ^ 60) (hnow : event ((new program).after steps) step) :
    ¬ (new program).Since event steps later := by
  rintro ⟨earlier, first, rfl, hthen⟩
  have hraw := (hnumbers _ _ hnow).2
  obtain ⟨hadds, hraw'⟩ := hnumbers _ _ hthen
  have hmore : additions (earlier ++ first :: later) =
      additions earlier + 1 + additions later := by
    rw [← List.singleton_append, additions_append, additions_append, additions_singleton, if_pos hadds]
    omega
  have hnext := toInt_nextHandle_after program _ hfew
  have hnext' := toInt_nextHandle_after program earlier (by omega)
  rw [hraw] at hnext
  rw [hraw'] at hnext'
  omega

end Session

/-! ## Flags

Whether reading a window's bounds fails, and whether reading a monitor's work area does, as far as
there is such a window or monitor.  Creating it clears the flag, and one action sets it.
-/

namespace Desktop

/-- Whether reading the window's bounds fails; nothing if there is no such window. -/
def boundsFlag? (d : Desktop) (w : WindowHandle) : Option Bool := (d.window? w).map (·.boundsFail)

/-- Whether reading the monitor's work area fails; nothing if there is no such monitor. -/
def infoFlag? (d : Desktop) (m : MonitorHandle) : Option Bool := (d.monitor? m).map (·.infoFails)

/-- Most changes of a window keep its flag. -/
theorem boundsFlag?_changeWindow (d : Desktop) (v w : WindowHandle) {change : Window → Window}
    (hhandle : ∀ window, (change window).handle = window.handle)
    (hflag : ∀ window, (change window).boundsFail = window.boundsFail) :
    (d.changeWindow v change).boundsFlag? w = d.boundsFlag? w :=
  d.view_changeWindow Window.boundsFail v w hhandle fun window _ => hflag window

/-- A flag after something was created: clear on the new thing, and as it was on an older one. -/
theorem flag_of_created {old? : Option Bool} {isNew : Prop} [Decidable isNew] {flag : Bool}
    (h : old?.or (if isNew then some false else none) = some flag) :
    isNew ∧ flag = false ∨ old? = some flag := by
  cases old? with
  | none =>
    simp only [Option.none_or, Option.ite_none_right_eq_some, Option.some.injEq] at h
    exact .inl ⟨h.1, h.2.symm⟩
  | some old => exact .inr h

/-- **What each action does to the flag of a window.** -/
theorem boundsFlag?_perform (d : Desktop) (action : DesktopAction) (w : WindowHandle) :
    (d.perform action).1.boundsFlag? w =
      match action with
      | .addWindow bounds style =>
          (d.boundsFlag? w).or (if w = (d.addWindow bounds style).1 then some false else none)
      | .destroyWindow v => if w = v then none else d.boundsFlag? w
      | .failWindowBounds v => if w = v then (d.boundsFlag? w).map fun _ => true else d.boundsFlag? w
      | _ => d.boundsFlag? w := by
  cases action with
  | addWindow bounds style =>
    simp only [perform, boundsFlag?, window?_addWindow]
    cases d.window? w with
    | none => split <;> rfl
    | some window => rfl
  | destroyWindow v =>
    simp only [perform, boundsFlag?, window?_destroyWindow]
    split <;> rfl
  | failWindowBounds v =>
    simp only [perform, boundsFlag?, window?_failWindowBounds]
    by_cases h : w = v
    · subst h
      cases d.window? w <;> simp
    · simp [h]
  | move v origin => exact d.boundsFlag?_changeWindow v w (fun _ => rfl) fun _ => rfl
  | resize v width height => exact d.boundsFlag?_changeWindow v w (fun _ => rfl) fun _ => rfl
  | setStyle v style => exact d.boundsFlag?_changeWindow v w (fun _ => rfl) fun _ => rfl
  | setIcon v slot icon =>
    exact d.view_setIcon Window.boundsFail v w fun window => window.boundsFail_setIcon icon slot
  | _ => rfl

/-- **What each action does to the flag of a monitor.** -/
theorem infoFlag?_perform (d : Desktop) (action : DesktopAction) (m : MonitorHandle) :
    (d.perform action).1.infoFlag? m =
      match action with
      | .addMonitor geometry workArea =>
          (d.infoFlag? m).or (if m = (d.addMonitor geometry workArea).1 then some false else none)
      | .failMonitorInfo v => if m = v then (d.infoFlag? m).map fun _ => true else d.infoFlag? m
      | _ => d.infoFlag? m := by
  cases action with
  | addMonitor geometry workArea =>
    simp only [perform, infoFlag?, monitor?_addMonitor]
    cases d.monitor? m with
    | none => split <;> rfl
    | some monitor => rfl
  | failMonitorInfo v =>
    simp only [perform, infoFlag?, monitor?_failMonitorInfo]
    by_cases h : m = v
    · subst h
      cases d.monitor? m <;> simp
    · simp [h]
  | _ => rfl

/-- No request of an adapter has to do with whether bounds can be read. -/
theorem boundsFlag?_request (w : WindowHandle) (target : Option WindowHandle) (r : DesktopAction)
    (d : Desktop) (hr : r.isRequestFor target) :
    (d.perform r).1.boundsFlag? w = d.boundsFlag? w := by
  rw [boundsFlag?_perform]
  cases r <;> simp_all [DesktopAction.isRequestFor]

theorem infoFlag?_request (m : MonitorHandle) (target : Option WindowHandle) (r : DesktopAction)
    (d : Desktop) (hr : r.isRequestFor target) : (d.perform r).1.infoFlag? m = d.infoFlag? m := by
  rw [infoFlag?_perform]
  cases r <;> simp_all [DesktopAction.isRequestFor]

end Desktop

namespace Session

/-- A flag that is clear on what `event` creates, that `sets` sets, and that nothing else changes
while the thing is there, tells whether `sets` was done since. -/
theorem flag_iff (flag? : Desktop → Option Bool) {event : Session → Step → Prop} {raw : Int64}
    {sets : Step} (hempty : flag? .empty = none) (hnumbers : Numbers event raw)
    (hstep : ∀ s step flag, flag? (s.step step).1.desktop = some flag →
      event s step ∧ flag = false ∨
        ∃ old, flag? s.desktop = some old ∧ (flag = true ↔ old = true ∨ step = sets))
    (program : ProgramFile) (steps : List Step) (hfew : additions steps < 2 ^ 60) {flag : Bool}
    (hflag : flag? ((new program).after steps).desktop = some flag) :
    (∃ later, (new program).Since event steps later) ∧
      (flag = true ↔ ∃ later, (new program).Since event steps later ∧ sets ∈ later) := by
  induction steps using List.reverseRecOn generalizing flag with
  | nil =>
    rw [after_nil, new, hempty] at hflag
    cases hflag
  | append_singleton steps step ih =>
    rw [additions_append] at hfew
    have hfew' : additions steps < 2 ^ 60 := by omega
    rw [after_snoc] at hflag
    rcases hstep _ _ _ hflag with ⟨hevent, rfl⟩ | ⟨old, hold, hiff⟩
    · refine ⟨⟨[], steps, step, rfl, hevent⟩, ?_⟩
      rw [since_snoc]
      -- an older creation would have given out the same handle
      have hnone : ∀ later, ¬ (new program).Since event steps later :=
        fun _ => not_since_of_issued hnumbers hfew' hevent
      simp [hnone]
    · obtain ⟨⟨later, hsince⟩, hold_iff⟩ := ih hfew' hold
      have hsince' : ∃ later, (new program).Since event (steps ++ [step]) later ∧ True :=
        since_snoc.mpr (.inr ⟨later, hsince, trivial⟩)
      refine ⟨by simpa using hsince', ?_⟩
      rw [since_snoc, hiff, hold_iff]
      simp only [List.not_mem_nil, and_false, false_or, List.mem_append, List.mem_singleton]
      constructor
      · rintro (⟨later, hsince, hmem⟩ | rfl)
        · exact ⟨later, hsince, .inl hmem⟩
        · exact ⟨later, hsince, .inr rfl⟩
      · rintro ⟨later, hsince, hmem | rfl⟩
        · exact .inl ⟨later, hsince, hmem⟩
        · exact .inr rfl

/-! ## Windows -/

/-- What each step does to the flag of a window. -/
theorem boundsFlag?_step {s : Session} {step : Step} {w : WindowHandle} {flag : Bool}
    (h : (s.step step).1.desktop.boundsFlag? w = some flag) :
    IssuesWindow w s step ∧ flag = false ∨
      ∃ old, s.desktop.boundsFlag? w = some old ∧
        (flag = true ↔ old = true ∨ step = .desktop (.failWindowBounds w)) := by
  rcases view_step (·.boundsFlag? w) (Desktop.boundsFlag?_request w) s step with
    ⟨action, rfl⟩ | ⟨hother, hsame⟩
  · replace h : (s.desktop.perform action).1.boundsFlag? w = some flag := h
    rw [Desktop.boundsFlag?_perform] at h
    cases action with
    | addWindow bounds style =>
      rcases Desktop.flag_of_created h with ⟨hw, rfl⟩ | hold
      · exact .inl ⟨⟨bounds, style, rfl, hw.symm⟩, rfl⟩
      · exact .inr ⟨flag, hold, by simp⟩
    | destroyWindow v =>
      simp only [Option.ite_none_left_eq_some] at h
      exact .inr ⟨flag, h.2, by simp⟩
    | failWindowBounds v =>
      right
      by_cases hv : w = v
      · subst hv
        simp only [if_true, Option.map_eq_some_iff] at h
        obtain ⟨old, hold, rfl⟩ := h
        exact ⟨old, hold, by simp⟩
      · simp only [hv, if_false] at h
        exact ⟨flag, h, by simp [Ne.symm hv]⟩
    | _ => exact .inr ⟨flag, h, by simp⟩
  · rw [hsame] at h
    exact .inr ⟨flag, h, by simp [hother]⟩

/-- What each step does to a window's being there. -/
theorem isSome_boundsFlag?_step (s : Session) (step : Step) (w : WindowHandle) :
    ((s.step step).1.desktop.boundsFlag? w).isSome ↔
      IssuesWindow w s step ∨
        (s.desktop.boundsFlag? w).isSome ∧ step ≠ .desktop (.destroyWindow w) := by
  rcases view_step (·.boundsFlag? w) (Desktop.boundsFlag?_request w) s step with
    ⟨action, rfl⟩ | ⟨hother, hsame⟩
  · show ((s.desktop.perform action).1.boundsFlag? w).isSome ↔ _
    rw [Desktop.boundsFlag?_perform]
    cases action with
    | addWindow bounds style =>
      by_cases hw : w = (s.desktop.addWindow bounds style).1
      · simp [IssuesWindow, hw]
      · simp [IssuesWindow, hw, Ne.symm hw]
    | destroyWindow v =>
      by_cases hv : w = v
      · simp [IssuesWindow, hv]
      · simp [IssuesWindow, hv, Ne.symm hv]
    | failWindowBounds v =>
      by_cases hv : w = v
      · simp [IssuesWindow, hv]
      · simp [IssuesWindow, hv]
    | _ => simp [IssuesWindow]
  · rw [hsame]
    simp [IssuesWindow, hother]

/-- **A window is there just when it was created and not destroyed since.** -/
theorem window?_isSome_iff_live (program : ProgramFile) (steps : List Step) (w : WindowHandle) :
    (((new program).after steps).desktop.window? w).isSome ↔ (new program).Live steps w := by
  suffices hflag : (((new program).after steps).desktop.boundsFlag? w).isSome ↔
      (new program).Live steps w by
    rw [← hflag, Desktop.boundsFlag?, Option.isSome_map]
  induction steps using List.reverseRecOn with
  | nil =>
    have hnone : ∀ later, ¬ (new program).Since (IssuesWindow w) [] later :=
      not_since_nil _ _
    simp only [Live, hnone, false_and, exists_false, iff_false]
    exact Bool.noConfusion
  | append_singleton steps step ih =>
    rw [after_snoc, isSome_boundsFlag?_step, ih]
    simp only [Live]
    rw [since_snoc]
    simp only [List.not_mem_nil, not_false_eq_true, and_true, List.mem_append,
      List.mem_singleton, not_or]
    constructor
    · rintro (hnow | ⟨⟨later, hsince, hmem⟩, hne⟩)
      · exact .inl hnow
      · exact .inr ⟨later, hsince, hmem, Ne.symm hne⟩
    · rintro (hnow | ⟨later, hsince, hmem, hne⟩)
      · exact .inl hnow
      · exact .inr ⟨⟨later, hsince, hmem⟩, Ne.symm hne⟩

/-- **A window's bounds cannot be read just when that was brought about since it was created.** -/
theorem boundsFail_iff (program : ProgramFile) (steps : List Step) (hfew : additions steps < 2 ^ 60)
    {w : WindowHandle} {window : Window}
    (hwindow : ((new program).after steps).desktop.window? w = some window) :
    window.boundsFail = true ↔ (new program).BoundsFailed steps w := by
  refine (flag_iff (·.boundsFlag? w) rfl (numbers_issuesWindow w) ?_ program steps hfew
    ?_).2
  · exact fun _ _ _ => boundsFlag?_step
  · simp [Desktop.boundsFlag?, hwindow]

/-! ## Monitors -/

/-- What each step does to the flag of a monitor. -/
theorem infoFlag?_step {s : Session} {step : Step} {m : MonitorHandle} {flag : Bool}
    (h : (s.step step).1.desktop.infoFlag? m = some flag) :
    IssuesMonitor m s step ∧ flag = false ∨
      ∃ old, s.desktop.infoFlag? m = some old ∧
        (flag = true ↔ old = true ∨ step = .desktop (.failMonitorInfo m)) := by
  rcases view_step (·.infoFlag? m) (Desktop.infoFlag?_request m) s step with
    ⟨action, rfl⟩ | ⟨hother, hsame⟩
  · replace h : (s.desktop.perform action).1.infoFlag? m = some flag := h
    rw [Desktop.infoFlag?_perform] at h
    cases action with
    | addMonitor geometry workArea =>
      rcases Desktop.flag_of_created h with ⟨hm, rfl⟩ | hold
      · exact .inl ⟨⟨geometry, workArea, rfl, hm.symm⟩, rfl⟩
      · exact .inr ⟨flag, hold, by simp⟩
    | failMonitorInfo v =>
      right
      by_cases hv : m = v
      · subst hv
        simp only [if_true, Option.map_eq_some_iff] at h
        obtain ⟨old, hold, rfl⟩ := h
        exact ⟨old, hold, by simp⟩
      · simp only [hv, if_false] at h
        exact ⟨flag, h, by simp [Ne.symm hv]⟩
    | _ => exact .inr ⟨flag, h, by simp⟩
  · rw [hsame] at h
    exact .inr ⟨flag, h, by simp [hother]⟩

/-- **A monitor's work area cannot be read just when that was brought about since it was added.** -/
theorem infoFails_iff (program : ProgramFile) (steps : List Step) (hfew : additions steps < 2 ^ 60)
    {m : MonitorHandle} {monitor : Monitor}
    (hmonitor : ((new program).after steps).desktop.monitor? m = some monitor) :
    monitor.infoFails = true ↔ (new program).InfoFailed steps m := by
  refine (flag_iff (·.infoFlag? m) rfl (numbers_issuesMonitor m) ?_ program steps hfew
    ?_).2
  · exact fun _ _ _ => infoFlag?_step
  · simp [Desktop.infoFlag?, hmonitor]

end Session

end WindowDecor
