import WindowDecor.Proofs.Centering.Desktop
import WindowDecor.Proofs.Session.History

/-!
# What decides the outcome of centering

Centering takes three readings, and the first that fails ends it.  After any run of a session the
history of the monitor and of the window says which that is.

* `Desktop.monitorOf?_eq_none_iff`, `Desktop.exists_monitor?_of_monitorOf?` — a window is on no
  monitor only if there is none, and the monitor it is on is one of the desktop's.
* `Session.workArea_after`, `Session.bounds_after` — when the two readings fail, in terms of the
  history.
* `Session.center_after` — centering after a run, case by case.
* **`Session.centeringDecided_after`** — each outcome just when the history asks for it, the number that
  goes with it, and what becomes of the desktop (`Session.CenteringDecided`).

That the failed reading of a work area always says the same follows from the second fact: its other
answer is for monitors that do not exist.
-/

namespace WindowDecor

namespace Desktop

/-! ## The monitor that a window is on -/

/-- The monitor that a window is on is one of the desktop's. -/
theorem exists_mem_of_monitorOf? {d : Desktop} {w : WindowHandle} {m : MonitorHandle}
    (hm : d.monitorOf? w = some m) : ∃ monitor ∈ d.monitors, monitor.handle = m := by
  simp only [monitorOf?, Option.map_eq_some_iff, Option.or_eq_some_iff] at hm
  obtain ⟨monitor, hshown | ⟨-, hfirst⟩, hhandle⟩ := hm
  · obtain ⟨window, -, hfound⟩ := Option.bind_eq_some_iff.mp hshown
    exact ⟨monitor, List.mem_of_find?_eq_some hfound, hhandle⟩
  · exact ⟨monitor, List.mem_of_head? hfirst, hhandle⟩

/-- **The monitor that a window is on can be looked up.** -/
theorem exists_monitor?_of_monitorOf? {d : Desktop} {w : WindowHandle} {m : MonitorHandle}
    (hm : d.monitorOf? w = some m) : ∃ monitor, d.monitor? m = some monitor := by
  obtain ⟨monitor, hmem, hhandle⟩ := exists_mem_of_monitorOf? hm
  rw [← Option.isSome_iff_exists, monitor?, List.find?_isSome]
  exact ⟨monitor, hmem, by simp [hhandle]⟩

/-- A window is on no monitor only if there is none. -/
theorem monitorOf?_eq_none_iff {d : Desktop} {w : WindowHandle} :
    d.monitorOf? w = none ↔ d.monitors = [] := by
  simp only [monitorOf?, Option.map_eq_none_iff, Option.or_eq_none_iff, List.head?_eq_none_iff]
  constructor
  · exact And.right
  · intro hnone
    refine ⟨?_, hnone⟩
    rw [hnone]
    cases d.window? w <;> rfl

end Desktop

/-- What reading a monitor's work area says when it was made to fail. -/
def monitorInfoUnavailable : CallFailure := ⟨"GetMonitorInfoW", "monitor info unavailable"⟩

namespace Session

/-! ## The readings after a run -/

section

variable (program : ProgramFile) (steps : List Step)

/-- A work area can be read unless that was made to fail since the monitor was added. -/
theorem workArea_after (hfew : additions steps < 2 ^ 60) {m : MonitorHandle} {monitor : Monitor}
    (hm : ((new program).after steps).desktop.monitor? m = some monitor) :
    (new program).InfoFailed steps m ∧
        ((new program).after steps).desktop.workArea m = .error monitorInfoUnavailable ∨
      ¬ (new program).InfoFailed steps m ∧
        ((new program).after steps).desktop.workArea m = .ok monitor.workArea := by
  have hflag := infoFails_iff program steps hfew hm
  simp only [Desktop.workArea, hm]
  by_cases hfails : monitor.infoFails = true
  · left
    simp only [hfails, if_true]
    exact ⟨hflag.mp hfails, rfl⟩
  · right
    simp only [hfails]
    exact ⟨fun hfailed => hfails (hflag.mpr hfailed), rfl⟩

/-- Bounds can be read of a window that is there, unless that was made to fail since it was
created. -/
theorem bounds_after (hfew : additions steps < 2 ^ 60) (w : WindowHandle) :
    (¬ (new program).Live steps w ∨ (new program).BoundsFailed steps w) ∧
        (∃ cause, ((new program).after steps).desktop.bounds w = .error cause) ∨
      ((new program).Live steps w ∧ ¬ (new program).BoundsFailed steps w) ∧
        ∃ bounds, ((new program).after steps).desktop.bounds w = .ok bounds := by
  have hlive := window?_isSome_iff_live program steps w
  cases hwindow : ((new program).after steps).desktop.window? w with
  | none =>
    left
    simp only [hwindow, Option.isSome_none, Bool.false_eq_true, false_iff] at hlive
    simp only [Desktop.bounds, hwindow]
    exact ⟨.inl hlive, _, rfl⟩
  | some window =>
    have hflag := boundsFail_iff program steps hfew hwindow
    simp only [hwindow, Option.isSome_some, true_iff] at hlive
    simp only [Desktop.bounds, hwindow]
    by_cases hfails : window.boundsFail = true
    · left
      simp only [hfails, if_true]
      exact ⟨.inr (hflag.mp hfails), _, rfl⟩
    · right
      simp only [hfails]
      exact ⟨⟨hlive, fun hfailed => hfails (hflag.mpr hfailed)⟩, _, rfl⟩

/-- A monitor whose work area could be read was not made to fail. -/
theorem not_infoFailed_of_workArea (hfew : additions steps < 2 ^ 60) {w : WindowHandle}
    {m : MonitorHandle} {area : Rect}
    (hm : ((new program).after steps).desktop.monitorOf? w = some m)
    (harea : ((new program).after steps).desktop.workArea m = .ok area) :
    ¬ (new program).InfoFailed steps m := by
  obtain ⟨monitor, hmonitor⟩ := Desktop.exists_monitor?_of_monitorOf? hm
  rcases workArea_after program steps hfew hmonitor with ⟨-, hcall⟩ | ⟨hinfo, -⟩
  · cases hcall.symm.trans harea
  · exact hinfo

/-! ## Centering after a run -/

/-- **Centering after a run is one of four cases**, which the history tells apart. -/
theorem center_after (hfew : additions steps < 2 ^ 60) (w : WindowHandle) :
    let d := ((new program).after steps).desktop
    (d.monitors = [] ∧ center w d = (.error .monitorLookup, d)) ∨
      ∃ m, d.monitorOf? w = some m ∧
        ((new program).InfoFailed steps m ∧
            center w d = (.error (.monitorInfo monitorInfoUnavailable), d) ∨
          ¬ (new program).InfoFailed steps m ∧
            ((¬ (new program).Live steps w ∨ (new program).BoundsFailed steps w) ∧
                (∃ cause, center w d = (.error (.windowBounds cause), d)) ∨
              ((new program).Live steps w ∧ ¬ (new program).BoundsFailed steps w) ∧
                ∃ origin, center w d = (.ok (), d.move w origin))) := by
  intro d
  have hcases := d.center_cases w
  have hbounds := bounds_after program steps hfew w
  generalize center w d = result at hcases ⊢
  cases hcases with
  | noMonitor hnone => exact .inl ⟨Desktop.monitorOf?_eq_none_iff.mp hnone, rfl⟩
  | noWorkArea hm harea =>
    obtain ⟨monitor, hmonitor⟩ := Desktop.exists_monitor?_of_monitorOf? hm
    rcases workArea_after program steps hfew hmonitor with ⟨hfailed, hcall⟩ | ⟨-, hreads⟩
    · obtain rfl := Except.error.inj (hcall.symm.trans harea)
      exact .inr ⟨_, hm, .inl ⟨hfailed, rfl⟩⟩
    · cases hreads.symm.trans harea
  | noBounds hm harea hnot =>
    have hinfo := not_infoFailed_of_workArea program steps hfew hm harea
    rcases hbounds with ⟨hlost, -⟩ | ⟨-, bounds, hread⟩
    · exact .inr ⟨_, hm, .inr ⟨hinfo, .inl ⟨hlost, _, rfl⟩⟩⟩
    · cases hread.symm.trans hnot
  | moved hm harea hread =>
    have hinfo := not_infoFailed_of_workArea program steps hfew hm harea
    rcases hbounds with ⟨-, cause, hnot⟩ | ⟨hkept, -⟩
    · cases hnot.symm.trans hread
    · exact .inr ⟨_, hm, .inr ⟨hinfo, .inr ⟨hkept, _, rfl⟩⟩⟩

end

/-- An attempt to center a window after some steps: its outcome, and the desktop that it leaves. -/
def centering (s : Session) (steps : List Step) (w : WindowHandle) :
    Except CenteringError Unit × Desktop := center w (s.after steps).desktop

open Classical in
/-- What the history of a session decides about centering a window. -/
structure CenteringDecided (s : Session) (steps : List Step) (w : WindowHandle) : Prop where
  /-- Where there are monitors the window is on one, and that one can be looked up. -/
  monitor_found : (s.after steps).desktop.monitors ≠ [] →
    ∃ m monitor, (s.after steps).desktop.monitorOf? w = some m ∧
      (s.after steps).desktop.monitor? m = some monitor
  monitorLookup_iff :
    (s.centering steps w).1 = .error .monitorLookup ↔ (s.after steps).desktop.monitors = []
  monitorInfo_iff : ∀ m, (s.after steps).desktop.monitorOf? w = some m →
    ((∃ cause, (s.centering steps w).1 = .error (.monitorInfo cause)) ↔ s.InfoFailed steps m)
  windowBounds_iff : ∀ m, (s.after steps).desktop.monitorOf? w = some m →
    ((∃ cause, (s.centering steps w).1 = .error (.windowBounds cause)) ↔
      ¬ s.InfoFailed steps m ∧ (¬ s.Live steps w ∨ s.BoundsFailed steps w))
  ok_iff : ∀ m, (s.after steps).desktop.monitorOf? w = some m →
    ((s.centering steps w).1 = .ok () ↔
      ¬ s.InfoFailed steps m ∧ s.Live steps w ∧ ¬ s.BoundsFailed steps w)
  /-- The number of the outcome is that of the first stage that has a reason to fail. -/
  status_eq : centeringStatus (s.centering steps w).1 =
    if (s.after steps).desktop.monitors = [] then 1
    else if ∃ m, (s.after steps).desktop.monitorOf? w = some m ∧ s.InfoFailed steps m then 2
    else if ¬ s.Live steps w ∨ s.BoundsFailed steps w then 3
    else 0
  /-- A work area that cannot be read is never that of a monitor that does not exist. -/
  monitorInfo_cause : ∀ cause, (s.centering steps w).1 = .error (.monitorInfo cause) →
    cause = monitorInfoUnavailable
  unchanged_of_error : ∀ e, (s.centering steps w).1 = .error e →
    (s.centering steps w).2 = (s.after steps).desktop
  moved_of_ok : (s.centering steps w).1 = .ok () →
    ∃ origin, (s.centering steps w).2 = (s.after steps).desktop.move w origin
  others_kept : ∀ v, v ≠ w →
    (s.centering steps w).2.window? v = (s.after steps).desktop.window? v

/-- **The history decides the outcome of centering**, whatever was done before and whatever the
handle. -/
theorem centeringDecided_after (program : ProgramFile) (steps : List Step)
    (hfew : additions steps < 2 ^ 60) (w : WindowHandle) :
    (new program).CenteringDecided steps w := by
  rcases center_after program steps hfew w with ⟨hnone, hcenter⟩ | ⟨m, hm, hcases⟩
  · -- without monitors the window is on none, and the fields about its monitor are vacuous
    have hno : ((new program).after steps).desktop.monitorOf? w = none :=
      Desktop.monitorOf?_eq_none_iff.mpr hnone
    constructor <;> simp [centering, hcenter, hnone, hno, centeringStatus, CenteringError.code]
  · have hsome : ((new program).after steps).desktop.monitors ≠ [] := by
      intro hnone
      rw [Desktop.monitorOf?_eq_none_iff.mpr hnone] at hm
      cases hm
    have hfound := Desktop.exists_monitor?_of_monitorOf? hm
    rcases hcases with ⟨hinfo, hcenter⟩ | ⟨hinfo, hcases⟩
    · constructor <;>
        simp [centering, hcenter, hm, hsome, hfound, hinfo, centeringStatus, CenteringError.code]
    · rcases hcases with ⟨hlost, cause, hcenter⟩ | ⟨⟨hlive, hreads⟩, origin, hcenter⟩
      · have hnot : ¬ ((new program).Live steps w ∧ ¬ (new program).BoundsFailed steps w) :=
          fun ⟨hlive, hreads⟩ => hlost.elim (· hlive) hreads
        constructor <;>
          simp [centering, hcenter, hm, hsome, hfound, hinfo, hlost, hnot, centeringStatus,
            CenteringError.code]
      · constructor
        case others_kept =>
          intro v hv
          simp [centering, hcenter, hv]
        all_goals
          simp [centering, hcenter, hm, hsome, hfound, hinfo, hlive, hreads, centeringStatus]

/-- A run in which both readings are made to fail: the work area is the one that is reported. -/
theorem centeringDecided_bothFail :
    let steps : List Step :=
      [.desktop (.addMonitor ⟨⟨0, 1920⟩, ⟨0, 1080⟩⟩ ⟨⟨0, 1920⟩, ⟨0, 1040⟩⟩),
        .desktop (.addWindow ⟨⟨40, 440⟩, ⟨40, 340⟩⟩ .none),
        .desktop (.failWindowBounds ⟨0x10008⟩), .desktop (.failMonitorInfo ⟨0x10004⟩)]
    additions steps < 2 ^ 60 ∧
      ∃ cause, ((new (.error "")).centering steps ⟨0x10008⟩).1 = .error (.monitorInfo cause) := by
  intro steps
  have hfew : additions steps < 2 ^ 60 := by decide
  have hdecided := centeringDecided_after (.error "") steps hfew ⟨0x10008⟩
  refine ⟨hfew, (hdecided.monitorInfo_iff ⟨0x10004⟩ (by decide)).mpr ?_⟩
  exact ⟨steps.tail, ⟨[], _, rfl, _, _, rfl, by decide⟩, by simp [steps]⟩

end Session

end WindowDecor
