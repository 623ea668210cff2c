import Mathlib.Data.List.Nodup
import Mathlib.Data.List.Perm.Subperm
import Mathlib.Data.List.Range
import WindowDecor.Proofs.Session.History

/-!
# Handles are given out once

One counter numbers windows and monitors alike, and a destroyed window's number is not used again.
So a handle means one thing for as long as a session lasts, and the changes that name a window or a
monitor reach that one.

* `Session.issued` — the numbers that a run gave out, read off its answers.
* `Session.map_toInt_issued` — **they are the next ones in order**, whatever else the run did.
* `Desktop.raws`, `Session.raws_subperm_issued` — the numbers of what is there are among them, each
  as often as it was given out; so no two things on a desktop share one.
* `Desktop.destroyWindow_of_split` and its neighbours — on such a desktop a change reaches one entry.
* **`Session.handlesDistinct_after`** — all of it, for every run (`Session.HandlesDistinct`).
-/

namespace WindowDecor

/-! ## What was given out -/

/-- The number of the handle that an answer names. -/
def DesktopResult.raw? : DesktopResult → Option Int64
  | .window handle => some handle.raw
  | .monitor (some handle) => some handle.raw
  | _ => none

/-- The number of the handle in an answer that gives one out. -/
def StepResult.raw? : StepResult → Option Int64
  | .desktop result => result.raw?
  | _ => none

namespace Session

/-- The number that a step gives out: the one in its answer, if it adds something. -/
def issued? (s : Session) (step : Step) : Option Int64 :=
  if step.adds then (s.step step).2.result.raw? else none

/-- The numbers that a run gives out, in order. -/
def issued (s : Session) : List Step → List Int64
  | [] => []
  | step :: steps => (s.issued? step).toList ++ issued (s.step step).1 steps

theorem issued_snoc (s : Session) (steps : List Step) (step : Step) :
    s.issued (steps ++ [step]) = s.issued steps ++ ((s.after steps).issued? step).toList := by
  induction steps generalizing s with
  | nil => simp [issued]
  | cons first rest ih =>
    rw [List.cons_append, issued, issued, ih, after_cons, List.append_assoc]

/-- A step that adds something gives out the next number, and no other gives one out. -/
theorem issued?_eq (s : Session) (step : Step) :
    s.issued? step = if step.adds then some s.desktop.nextHandle else none := by
  cases step with
  | desktop action => cases action <;> rfl
  | _ => rfl

/-- **Numbers are given out in order**, four apart, to windows and monitors alike. -/
theorem map_toInt_issued (program : ProgramFile) (steps : List Step)
    (hfew : additions steps < 2 ^ 60) :
    ((new program).issued steps).map Int64.toInt =
      (List.range (additions steps)).map fun n : Nat => 0x10000 + 4 * ((n : Int) + 1) := by
  induction steps using List.reverseRecOn with
  | nil => rfl
  | append_singleton steps step ih =>
    rw [additions_append, additions_singleton] at hfew ⊢
    have hearlier := ih (by omega)
    rw [issued_snoc, issued?_eq, List.map_append, hearlier]
    cases hadds : step.adds with
    | false => simp
    | true =>
      have hnext := toInt_nextHandle_after program steps (by omega)
      simp [List.range_succ, hnext]

variable (program : ProgramFile) {steps : List Step}

/-- As many numbers are given out as things are added. -/
theorem length_issued (hfew : additions steps < 2 ^ 60) :
    ((new program).issued steps).length = additions steps := by
  have hlength := congrArg List.length (map_toInt_issued program steps hfew)
  simpa using hlength

/-- No number is given out twice. -/
theorem nodup_issued (hfew : additions steps < 2 ^ 60) : ((new program).issued steps).Nodup := by
  refine List.Nodup.of_map Int64.toInt ?_
  rw [map_toInt_issued program steps hfew]
  refine List.nodup_range.map fun m n h => ?_
  omega

/-- The null handle is never given out. -/
theorem ne_zero_of_mem_issued (hfew : additions steps < 2 ^ 60) {raw : Int64}
    (hraw : raw ∈ (new program).issued steps) : raw ≠ 0 := by
  have hmem : raw.toInt ∈ ((new program).issued steps).map Int64.toInt :=
    List.mem_map_of_mem hraw
  rw [map_toInt_issued program steps hfew] at hmem
  obtain ⟨n, -, hn⟩ := List.mem_map.mp hmem
  rintro rfl
  have hzero : (0 : Int64).toInt = 0 := by decide
  omega

theorem nextHandle_notMem_issued (hfew : additions steps < 2 ^ 60) :
    ((new program).after steps).desktop.nextHandle ∉ (new program).issued steps := by
  intro hmem
  replace hmem := List.mem_map_of_mem (f := Int64.toInt) hmem
  rw [map_toInt_issued program steps hfew, toInt_nextHandle_after program steps hfew] at hmem
  obtain ⟨n, hn, heq⟩ := List.mem_map.mp hmem
  rw [List.mem_range] at hn
  omega

end Session

/-! ## What is there -/

namespace Desktop

/-- The numbers of the windows and the monitors that are there. -/
def raws (d : Desktop) : List Int64 :=
  d.windows.map (·.handle.raw) ++ d.monitors.map (·.handle.raw)

/-- A change that keeps handles keeps the numbers in use. -/
theorem raws_changeWindow (d : Desktop) (w : WindowHandle) {change : Window → Window}
    (hkeep : ∀ window, (change window).handle = window.handle) :
    (d.changeWindow w change).raws = d.raws := by
  simp only [raws, changeWindow, List.map_map]
  congr 1
  refine List.map_congr_left fun window _ => ?_
  simp only [Function.comp]
  split
  · rw [hkeep]
  · rfl

@[simp] theorem raws_failMonitorInfo (d : Desktop) (m : MonitorHandle) :
    (d.failMonitorInfo m).raws = d.raws := by
  simp only [raws, failMonitorInfo, List.map_map]
  congr 1
  refine List.map_congr_left fun monitor _ => ?_
  simp only [Function.comp]
  split <;> rfl

/-- Numbers come with what is added and go with what is destroyed, and in no other way. -/
theorem raws_perform_of_kept (d : Desktop) {action : DesktopAction} (hadds : action.adds = false)
    (hdestroy : ∀ w, action ≠ .destroyWindow w) : (d.perform action).1.raws = d.raws := by
  cases action with
  | addMonitor geometry workArea => cases hadds
  | addWindow bounds style => cases hadds
  | destroyWindow w => exact absurd rfl (hdestroy w)
  | failWindowBounds w => exact d.raws_changeWindow w fun _ => rfl
  | failMonitorInfo m => exact d.raws_failMonitorInfo m
  | move w origin => exact d.raws_changeWindow w fun _ => rfl
  | resize w width height => exact d.raws_changeWindow w fun _ => rfl
  | setStyle w style => exact d.raws_changeWindow w fun _ => rfl
  | setIcon w slot icon => exact d.raws_changeWindow w fun window => window.handle_setIcon icon slot
  | _ => rfl

/-- Adapters leave the numbers in use as they are. -/
theorem raws_request (target : Option WindowHandle) (r : DesktopAction) (d : Desktop)
    (hr : r.isRequestFor target) : (d.perform r).1.raws = d.raws := by
  refine d.raws_perform_of_kept (DesktopAction.adds_of_isRequestFor hr) ?_
  rintro w rfl
  cases hr

/-- **Nothing has a number that it was not given.** -/
theorem raws_perform_subperm (d : Desktop) (action : DesktopAction) :
    (d.perform action).1.raws.Subperm
      (d.raws ++ if action.adds then [d.nextHandle] else []) := by
  by_cases hdestroy : ∃ w, action = .destroyWindow w
  · obtain ⟨w, rfl⟩ := hdestroy
    have hfewer : (d.perform (.destroyWindow w)).1.raws.Sublist d.raws :=
      (List.filter_sublist.map _).append_right _
    simpa [DesktopAction.adds] using hfewer.subperm
  cases hadds : action.adds with
  | false =>
    rw [d.raws_perform_of_kept hadds fun w h => hdestroy ⟨w, h⟩]
    exact (List.sublist_append_left _ _).subperm
  | true =>
    cases action with
    | addMonitor geometry workArea =>
      have hnew : (d.perform (.addMonitor geometry workArea)).1.raws = d.raws ++ [d.nextHandle] := by
        simp [perform, addMonitor, raws]
      exact hnew ▸ List.Subperm.refl _
    | addWindow bounds style =>
      -- the new number comes behind those of the windows, so before those of the monitors
      have hnew : (d.perform (.addWindow bounds style)).1.raws =
          d.windows.map (·.handle.raw) ++ ([d.nextHandle] ++ d.monitors.map (·.handle.raw)) := by
        simp [perform, addWindow, raws, Window.fresh]
      rw [hnew, raws, List.append_assoc]
      exact (List.perm_append_comm.append_left _).subperm
    | _ => cases hadds

end Desktop

namespace Session

/-- A step brings in no number but the one that it gives out. -/
theorem raws_step_subperm (s : Session) (step : Step) :
    (s.step step).1.desktop.raws.Subperm (s.desktop.raws ++ (s.issued? step).toList) := by
  rcases view_step (·.raws) Desktop.raws_request s step with ⟨action, rfl⟩ | ⟨-, hsame⟩
  · rw [issued?_eq]
    have hgiven : (if action.adds then [s.desktop.nextHandle] else []) =
        (if action.adds then some s.desktop.nextHandle else none).toList := by
      split <;> rfl
    exact hgiven ▸ s.desktop.raws_perform_subperm action
  · rw [hsame]
    exact (List.sublist_append_left _ _).subperm

/-- **What is there has numbers that were given out**, and no two things have one that was given out
once. -/
theorem raws_subperm_issued (program : ProgramFile) (steps : List Step) :
    ((new program).after steps).desktop.raws.Subperm ((new program).issued steps) := by
  induction steps using List.reverseRecOn with
  | nil => exact List.Subperm.refl []
  | append_singleton steps step ih =>
    rw [after_snoc, issued_snoc]
    exact (raws_step_subperm _ step).trans (ih.append (List.Subperm.refl _))

variable (program : ProgramFile) {steps : List Step}

/-- No two things have the same number, be they windows or monitors. -/
theorem nodup_raws (hfew : additions steps < 2 ^ 60) :
    ((new program).after steps).desktop.raws.Nodup := by
  obtain ⟨part, hperm, hsublist⟩ := raws_subperm_issued program steps
  exact hperm.nodup_iff.mp ((nodup_issued program hfew).sublist hsublist)

end Session

/-! ## Changes reach one entry -/

section Entries

variable {α κ : Type} {key : α → κ} {before later : List α} {x : α}

/-- In a list without repeated keys, an entry's key is not that of another. -/
theorem key_ne_of_nodup (hnodup : ((before ++ x :: later).map key).Nodup) :
    ∀ y ∈ before ++ later, key y ≠ key x := by
  rw [List.map_append, List.map_cons, List.nodup_middle, ← List.map_append] at hnodup
  intro y hy heq
  exact (List.nodup_cons.mp hnodup).1 (heq ▸ List.mem_map_of_mem hy)

variable [DecidableEq κ]

/-- There, a change of the entries with one key changes one entry. -/
theorem map_change_of_nodup (hnodup : ((before ++ x :: later).map key).Nodup) (change : α → α) :
    (before ++ x :: later).map (fun y => if key y = key x then change y else y) =
      before ++ change x :: later := by
  have hne := key_ne_of_nodup hnodup
  have hothers : ∀ part : List α, (∀ y ∈ part, y ∈ before ++ later) →
      part.map (fun y => if key y = key x then change y else y) = part := by
    intro part hpart
    refine (List.map_congr_left fun y hy => ?_).trans (List.map_id part)
    exact if_neg (hne y (hpart y hy))
  rw [List.map_append, List.map_cons, if_pos rfl,
    hothers before fun y hy => List.mem_append_left _ hy,
    hothers later fun y hy => List.mem_append_right _ hy]

/-- There, leaving out one key leaves out one entry. -/
theorem filter_ne_of_nodup (hnodup : ((before ++ x :: later).map key).Nodup) :
    (before ++ x :: later).filter (fun y => key y ≠ key x) = before ++ later := by
  have hne := key_ne_of_nodup hnodup
  have hothers : (before ++ later).filter (fun y => key y ≠ key x) = before ++ later :=
    List.filter_eq_self.mpr fun y hy => by simpa using hne y hy
  rw [List.filter_append, List.filter_cons_of_neg (by simp), ← List.filter_append, hothers]

end Entries

namespace Desktop

variable {d : Desktop}

theorem nodup_windows (hnodup : d.raws.Nodup) : (d.windows.map (·.handle)).Nodup := by
  refine List.Nodup.of_map WindowHandle.raw ?_
  rw [List.map_map]
  exact (List.nodup_append.mp hnodup).1

theorem nodup_monitors (hnodup : d.raws.Nodup) : (d.monitors.map (·.handle)).Nodup := by
  refine List.Nodup.of_map MonitorHandle.raw ?_
  rw [List.map_map]
  exact (List.nodup_append.mp hnodup).2.1

section Windows

variable {before later : List Window} {window : Window}

/-- A change reaches the one entry that has the handle. -/
theorem changeWindow_of_split (hnodup : d.raws.Nodup) (hsplit : d.windows = before ++ window :: later)
    (change : Window → Window) :
    d.changeWindow window.handle change =
      { d with windows := before ++ change window :: later } := by
  have hkeys := nodup_windows hnodup
  rw [hsplit] at hkeys
  rw [changeWindow, hsplit, map_change_of_nodup hkeys]

/-- Destroying a window takes away the one entry that has the handle. -/
theorem destroyWindow_of_split (hnodup : d.raws.Nodup)
    (hsplit : d.windows = before ++ window :: later) :
    d.destroyWindow window.handle = { d with windows := before ++ later } := by
  have hkeys := nodup_windows hnodup
  rw [hsplit] at hkeys
  rw [destroyWindow, hsplit, filter_ne_of_nodup hkeys]

end Windows

theorem failMonitorInfo_of_split (hnodup : d.raws.Nodup) {before later : List Monitor}
    {monitor : Monitor} (hsplit : d.monitors = before ++ monitor :: later) :
    d.failMonitorInfo monitor.handle =
      { d with monitors := before ++ { monitor with infoFails := true } :: later } := by
  have hkeys := nodup_monitors hnodup
  rw [hsplit] at hkeys
  rw [failMonitorInfo, hsplit, map_change_of_nodup hkeys]

/-! ### Additions under a new number -/

/-- A number that is not in use names no window. -/
theorem window?_eq_none_of_notMem {w : WindowHandle} (hw : w.raw ∉ d.raws) :
    d.window? w = none := by
  refine List.find?_eq_none.mpr fun window hwindow heq => hw ?_
  obtain rfl : window.handle = w := by simpa using heq
  exact List.mem_append_left _ (List.mem_map_of_mem hwindow)

theorem monitor?_eq_none_of_notMem {m : MonitorHandle} (hm : m.raw ∉ d.raws) :
    d.monitor? m = none := by
  refine List.find?_eq_none.mpr fun monitor hmonitor heq => hm ?_
  obtain rfl : monitor.handle = m := by simpa using heq
  exact List.mem_append_right _ (List.mem_map_of_mem hmonitor)

/-- A window under a new number is found there, and the others where they were. -/
theorem window?_addWindow_of_fresh (hfresh : d.nextHandle ∉ d.raws) (bounds : Rect)
    (style : WindowStyle) (v : WindowHandle) :
    (d.addWindow bounds style).2.window? v =
      if v = (d.addWindow bounds style).1 then
        some (.fresh (d.addWindow bounds style).1 bounds style)
      else d.window? v := by
  have hnone : d.window? (d.addWindow bounds style).1 = none := window?_eq_none_of_notMem hfresh
  rw [window?_addWindow]
  split
  · next hv => rw [hv, hnone, Option.none_or]
  · exact Option.or_none

theorem monitor?_addMonitor_of_fresh (hfresh : d.nextHandle ∉ d.raws) (geometry workArea : Rect)
    (v : MonitorHandle) :
    (d.addMonitor geometry workArea).2.monitor? v =
      if v = (d.addMonitor geometry workArea).1 then
        some ⟨(d.addMonitor geometry workArea).1, geometry, workArea, false⟩
      else d.monitor? v := by
  have hnone : d.monitor? (d.addMonitor geometry workArea).1 = none :=
    monitor?_eq_none_of_notMem hfresh
  rw [monitor?_addMonitor]
  split
  · next hv => rw [hv, hnone, Option.none_or]
  · exact Option.or_none

/-! ### Changes of what is not there -/

/-- No entry has a handle under which nothing is found. -/
theorem handle_ne_of_window?_eq_none {w : WindowHandle} (hnone : d.window? w = none) :
    ∀ window ∈ d.windows, window.handle ≠ w := by
  intro window hwindow heq
  have hnot := List.find?_eq_none.mp hnone window hwindow
  simp [heq] at hnot

/-- Changing a window that is not there changes nothing. -/
theorem changeWindow_of_none {w : WindowHandle} (hnone : d.window? w = none)
    (change : Window → Window) : d.changeWindow w change = d := by
  have hothers := handle_ne_of_window?_eq_none hnone
  have hsame : d.windows.map (fun window => if window.handle = w then change window else window) =
      d.windows :=
    (List.map_congr_left fun window h => if_neg (hothers window h)).trans (List.map_id _)
  rw [changeWindow, hsame]

theorem destroyWindow_of_none {w : WindowHandle} (hnone : d.window? w = none) :
    d.destroyWindow w = d := by
  have hothers := handle_ne_of_window?_eq_none hnone
  have hsame : d.windows.filter (·.handle ≠ w) = d.windows :=
    List.filter_eq_self.mpr fun window h => by simpa using hothers window h
  rw [destroyWindow, hsame]

theorem failMonitorInfo_of_none {m : MonitorHandle} (hnone : d.monitor? m = none) :
    d.failMonitorInfo m = d := by
  have hothers : ∀ monitor ∈ d.monitors, monitor.handle ≠ m := by
    intro monitor hmonitor heq
    have hnot := List.find?_eq_none.mp hnone monitor hmonitor
    simp [heq] at hnot
  have hsame : d.monitors.map
      (fun monitor => if monitor.handle = m then { monitor with infoFails := true } else monitor) =
      d.monitors :=
    (List.map_congr_left fun monitor h => if_neg (hothers monitor h)).trans (List.map_id _)
  rw [failMonitorInfo, hsame]

/-! ### Monitors stay -/

/-- The monitors with what never changes about them. -/
def screens (d : Desktop) : List (MonitorHandle × Rect × Rect) :=
  d.monitors.map fun monitor => (monitor.handle, monitor.geometry, monitor.workArea)

/-- What an action does to the list of monitors: it stays, or has one more at its end. -/
theorem screens_perform (d : Desktop) (action : DesktopAction) :
    (d.perform action).1.screens = d.screens ++
      match action with
      | .addMonitor geometry workArea => [((d.addMonitor geometry workArea).1, geometry, workArea)]
      | _ => [] := by
  cases action with
  | addMonitor geometry workArea => simp [perform, screens, addMonitor]
  | failMonitorInfo m =>
    simp only [perform, screens, failMonitorInfo, List.map_map, List.append_nil]
    refine List.map_congr_left fun monitor _ => ?_
    simp only [Function.comp]
    split <;> rfl
  | _ => exact (List.append_nil _).symm

theorem screens_request (target : Option WindowHandle) (r : DesktopAction) (d : Desktop)
    (hr : r.isRequestFor target) : (d.perform r).1.screens = d.screens := by
  rw [screens_perform]
  cases r <;> simp_all [DesktopAction.isRequestFor]

end Desktop

namespace Session

/-- A step takes no monitor away. -/
theorem screens_prefix_step (s : Session) (step : Step) :
    s.desktop.screens <+: (s.step step).1.desktop.screens := by
  rcases view_step (·.screens) Desktop.screens_request s step with ⟨action, rfl⟩ | ⟨-, hsame⟩
  · show s.desktop.screens <+: (s.desktop.perform action).1.screens
    rw [Desktop.screens_perform]
    exact List.prefix_append _ _
  · exact hsame ▸ List.prefix_refl _

/-- **A monitor stays where it is**, in its place in the list. -/
theorem screens_prefix_after (s : Session) (steps : List Step) :
    s.desktop.screens <+: (s.after steps).desktop.screens := by
  induction steps generalizing s with
  | nil => exact List.prefix_refl _
  | cons step steps ih => exact (s.screens_prefix_step step).trans (ih _)

/-- A monitor that was added is there, as it was added. -/
theorem mem_monitors_of_added (s : Session) (earlier later : List Step)
    (geometry workArea : Rect) :
    ∃ monitor ∈ (s.after (earlier ++ .desktop (.addMonitor geometry workArea) :: later)).desktop.monitors,
      monitor.handle = ((s.after earlier).desktop.addMonitor geometry workArea).1 ∧
        monitor.geometry = geometry ∧ monitor.workArea = workArea := by
  rw [after_append, after_cons]
  have hstays := screens_prefix_after
    ((s.after earlier).step (.desktop (.addMonitor geometry workArea))).1 later
  have hadded := Desktop.screens_perform (s.after earlier).desktop (.addMonitor geometry workArea)
  have hmem := hstays.subset (hadded ▸ List.mem_append_right _ List.mem_cons_self)
  obtain ⟨monitor, hmonitor, heq⟩ := List.mem_map.mp hmem
  simp only [Prod.mk.injEq] at heq
  exact ⟨monitor, hmonitor, heq⟩

/-- What every run makes sure of about handles. -/
structure HandlesDistinct (s : Session) (steps : List Step) : Prop where
  /-- Each monitor and each window that is added is given a number in the answer. -/
  length_issued : (s.issued steps).length = additions steps
  nodup_issued : (s.issued steps).Nodup
  ne_zero : ∀ raw ∈ s.issued steps, raw ≠ 0
  nodup_present : (s.after steps).desktop.raws.Nodup
  present_issued : ∀ raw ∈ (s.after steps).desktop.raws, raw ∈ s.issued steps
  /-- One more window takes a number that was never given out, and leaves the others alone. -/
  addWindow : ∀ bounds style, ∃ w d, (s.after steps).desktop.addWindow bounds style = (w, d) ∧
    w.raw ≠ 0 ∧ w.raw ∉ s.issued steps ∧ (s.after steps).desktop.window? w = none ∧
      ∀ v, d.window? v =
        if v = w then some (.fresh w bounds style) else (s.after steps).desktop.window? v
  addMonitor : ∀ geometry workArea, ∃ m d,
    (s.after steps).desktop.addMonitor geometry workArea = (m, d) ∧
      m.raw ≠ 0 ∧ m.raw ∉ s.issued steps ∧ (s.after steps).desktop.monitor? m = none ∧
        ∀ v, d.monitor? v =
          if v = m then some ⟨m, geometry, workArea, false⟩ else (s.after steps).desktop.monitor? v
  /-- A live window is one entry of the desktop, and what names it changes that entry only. -/
  live : ∀ w, s.Live steps w → ∃ before window later,
    (s.after steps).desktop.windows = before ++ window :: later ∧ window.handle = w ∧
      (s.after steps).desktop.destroyWindow w =
        { (s.after steps).desktop with windows := before ++ later } ∧
      (s.after steps).desktop.failWindowBounds w =
        { (s.after steps).desktop with
          windows := before ++ { window with boundsFail := true } :: later }
  /-- The monitor that was given a handle when it was added is the one that the handle reaches. -/
  added : ∀ earlier geometry workArea further,
    steps = earlier ++ .desktop (.addMonitor geometry workArea) :: further →
      ∃ before monitor later, (s.after steps).desktop.monitors = before ++ monitor :: later ∧
        monitor.handle = ((s.after earlier).desktop.addMonitor geometry workArea).1 ∧
        monitor.geometry = geometry ∧ monitor.workArea = workArea ∧
        (s.after steps).desktop.failMonitorInfo monitor.handle =
          { (s.after steps).desktop with
            monitors := before ++ { monitor with infoFails := true } :: later }
  /-- Handles of what is not there reach nothing. -/
  not_live : ∀ w, ¬ s.Live steps w →
    (s.after steps).desktop.destroyWindow w = (s.after steps).desktop ∧
      (s.after steps).desktop.failWindowBounds w = (s.after steps).desktop
  not_added : ∀ m, (¬ ∃ further, s.Since (IssuesMonitor m) steps further) →
    (s.after steps).desktop.failMonitorInfo m = (s.after steps).desktop

section

variable (program : ProgramFile) {steps : List Step}

/-- The next number is not in use. -/
theorem nextHandle_notMem_raws (hfew : additions steps < 2 ^ 60) :
    ((new program).after steps).desktop.nextHandle ∉
      ((new program).after steps).desktop.raws := by
  intro hmem
  exact nextHandle_notMem_issued program hfew ((raws_subperm_issued program steps).subset hmem)

theorem nextHandle_ne_zero (hfew : additions steps < 2 ^ 60) :
    ((new program).after steps).desktop.nextHandle ≠ 0 := by
  intro hzero
  have hnext := toInt_nextHandle_after program steps hfew
  rw [hzero] at hnext
  have : (0 : Int64).toInt = 0 := by decide
  omega

/-- A window can be destroyed or made to fail as one entry of the desktop. -/
theorem exists_split_of_live {w : WindowHandle}
    (hlive : (new program).Live steps w) : ∃ before window later,
      ((new program).after steps).desktop.windows = before ++ window :: later ∧
        window.handle = w := by
  have hsome := (window?_isSome_iff_live program steps w).mpr hlive
  obtain ⟨window, hwindow⟩ := Option.isSome_iff_exists.mp hsome
  obtain ⟨before, later, hsplit⟩ := List.append_of_mem (Desktop.mem_of_window? hwindow)
  exact ⟨before, window, later, hsplit, Desktop.handle_of_window? hwindow⟩

/-- A monitor that is there was added by one of the steps. -/
theorem since_of_monitor? (hfew : additions steps < 2 ^ 60) {m : MonitorHandle} {monitor : Monitor}
    (hmonitor : ((new program).after steps).desktop.monitor? m = some monitor) :
    ∃ further, (new program).Since (IssuesMonitor m) steps further := by
  have hflag : ((new program).after steps).desktop.infoFlag? m = some monitor.infoFails := by
    simp [Desktop.infoFlag?, hmonitor]
  have hhistory : (∃ further, (new program).Since (IssuesMonitor m) steps further) ∧
      (monitor.infoFails = true ↔ (new program).InfoFailed steps m) :=
    flag_iff (·.infoFlag? m) rfl (numbers_issuesMonitor m) (fun _ _ _ => infoFlag?_step) program
      steps hfew hflag
  exact hhistory.1

/-- A window that is there was created, and has not been destroyed since. -/
theorem exists_created (hfew : additions steps < 2 ^ 60) {w : WindowHandle} {window : Window}
    (hwindow : ((new program).after steps).desktop.window? w = some window) :
    ∃ earlier bounds style later, steps = earlier ++ .desktop (.addWindow bounds style) :: later ∧
      (((new program).after earlier).desktop.addWindow bounds style).1 = w ∧
      .desktop (.destroyWindow w) ∉ later ∧
      (((new program).after earlier).step (.desktop (.addWindow bounds style))).1.desktop.window? w =
        some (.fresh w bounds style) := by
  have hlive := (window?_isSome_iff_live program steps w).mp (hwindow ▸ rfl)
  obtain ⟨later, ⟨earlier, step, rfl, bounds, style, rfl, rfl⟩, hkeep⟩ := hlive
  rw [additions_append] at hfew
  have hfew' : additions earlier < 2 ^ 60 := by omega
  have hfresh := nextHandle_notMem_raws program hfew'
  have hadded := Desktop.window?_addWindow_of_fresh hfresh bounds style
    (((new program).after earlier).desktop.addWindow bounds style).1
  rw [if_pos rfl] at hadded
  exact ⟨earlier, bounds, style, later, rfl, rfl, hkeep, hadded⟩

end

/-- **Handles are given out once and reach one thing**, whatever was added and destroyed in
between. -/
theorem handlesDistinct_after (program : ProgramFile) (steps : List Step)
    (hfew : additions steps < 2 ^ 60) : (new program).HandlesDistinct steps := by
  have hnodup := nodup_raws program hfew
  have hunissued := nextHandle_notMem_issued program hfew
  have hfresh := nextHandle_notMem_raws program hfew
  have hnonzero := nextHandle_ne_zero program hfew
  constructor
  case length_issued => exact length_issued program hfew
  case nodup_issued => exact Session.nodup_issued program hfew
  case ne_zero => exact fun raw hraw => ne_zero_of_mem_issued program hfew hraw
  case nodup_present => exact hnodup
  case present_issued => exact fun raw hraw => (raws_subperm_issued program steps).subset hraw
  case addWindow =>
    intro bounds style
    exact ⟨_, _, rfl, hnonzero, hunissued, Desktop.window?_eq_none_of_notMem hfresh,
      Desktop.window?_addWindow_of_fresh hfresh bounds style⟩
  case addMonitor =>
    intro geometry workArea
    exact ⟨_, _, rfl, hnonzero, hunissued, Desktop.monitor?_eq_none_of_notMem hfresh,
      Desktop.monitor?_addMonitor_of_fresh hfresh geometry workArea⟩
  case live =>
    intro w hlive
    obtain ⟨before, window, later, hsplit, rfl⟩ := exists_split_of_live program hlive
    exact ⟨before, window, later, hsplit, rfl, Desktop.destroyWindow_of_split hnodup hsplit,
      Desktop.changeWindow_of_split hnodup hsplit _⟩
  case added =>
    rintro earlier geometry workArea further rfl
    obtain ⟨monitor, hmem, hmonitor⟩ := mem_monitors_of_added (new program) earlier further geometry
      workArea
    obtain ⟨before, later, hsplit⟩ := List.append_of_mem hmem
    obtain ⟨hhandle, hgeometry, harea⟩ := hmonitor
    exact ⟨before, monitor, later, hsplit, hhandle, hgeometry, harea,
      Desktop.failMonitorInfo_of_split hnodup hsplit⟩
  case not_live =>
    intro w hlive
    rw [← window?_isSome_iff_live, Option.not_isSome_iff_eq_none] at hlive
    exact ⟨Desktop.destroyWindow_of_none hlive, Desktop.changeWindow_of_none hlive _⟩
  case not_added =>
    intro m hadded
    refine Desktop.failMonitorInfo_of_none ?_
    rw [Option.eq_none_iff_forall_ne_some]
    exact fun monitor hmonitor => hadded (since_of_monitor? program hfew hmonitor)

/-- A run that destroys a window and creates two more: the number of the first is not used again. -/
theorem handlesDistinct_reopened :
    let steps : List Step :=
      [.desktop (.addWindow ⟨⟨0, 400⟩, ⟨0, 300⟩⟩ .overlapped),
        .desktop (.destroyWindow ⟨0x10004⟩),
        .desktop (.addMonitor ⟨⟨0, 1920⟩, ⟨0, 1080⟩⟩ ⟨⟨0, 1920⟩, ⟨0, 1040⟩⟩),
        .desktop (.addWindow ⟨⟨0, 400⟩, ⟨0, 300⟩⟩ .overlapped)]
    additions steps < 2 ^ 60 ∧ (new (.error "")).issued steps = [0x10004, 0x10008, 0x1000c] ∧
      (new (.error "")).HandlesDistinct steps := by
  intro steps
  have hfew : additions steps < 2 ^ 60 := by decide
  exact ⟨hfew, by decide, handlesDistinct_after (.error "") steps hfew⟩

end Session

end WindowDecor
