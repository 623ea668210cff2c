import WindowDecor.Decorator.Basic
import WindowDecor.Desktop.Lookup
import WindowDecor.Desktop.Manager
import WindowDecor.Proofs.Centering.Placement

/-!
# Centering on the desktop in memory

What `center` does to a desktop, said once (`Desktop.Centering`, `center_cases`), and the two
statements that need no history:

* **`center_placedBest`** — a window that is centered is placed as well as coordinates allow, on each
  axis.
* **`center_again`** — centering again changes nothing, if the monitors do not overlap and nothing
  was clamped.

The second needs the window to be found on the same monitor again.  Its middle after the first
centering is on the work area (`Interval.contains_midpoint_place`), so on the monitor, and as the
monitors do not overlap no earlier one in the list can claim it (`find?_geometry_of_disjoint`).
-/

namespace WindowDecor

/-- Two calls in a row, the second in the state that the first one left. -/
@[simp] theorem bind_apply {σ α β : Type} (call : StateM σ α) (next : α → StateM σ β) (s : σ) :
    (call >>= next) s = next (call s).1 (call s).2 := rfl

namespace Desktop

/-! ## What centering can come to -/

@[simp] theorem monitorOf_apply (d : Desktop) (w : WindowHandle) :
    WindowManager.monitorOf w d = (d.monitorOf? w, d) := rfl

@[simp] theorem workArea_apply (d : Desktop) (m : MonitorHandle) :
    WindowManager.workArea m d = (d.workArea m, d) := rfl

@[simp] theorem bounds_apply (d : Desktop) (w : WindowHandle) :
    WindowManager.bounds w d = (d.bounds w, d) := rfl

/-- What an attempt to center a window comes to, with the desktop that it leaves. -/
inductive Centering (d : Desktop) (w : WindowHandle) : Except CenteringError Unit × Desktop → Prop
  | noMonitor (hm : d.monitorOf? w = none) : Centering d w (.error .monitorLookup, d)
  | noWorkArea {m : MonitorHandle} {cause : CallFailure} (hm : d.monitorOf? w = some m)
      (harea : d.workArea m = .error cause) : Centering d w (.error (.monitorInfo cause), d)
  | noBounds {m : MonitorHandle} {area : Rect} {cause : CallFailure}
      (hm : d.monitorOf? w = some m) (harea : d.workArea m = .ok area)
      (hbounds : d.bounds w = .error cause) : Centering d w (.error (.windowBounds cause), d)
  | moved {m : MonitorHandle} {area bounds : Rect} (hm : d.monitorOf? w = some m)
      (harea : d.workArea m = .ok area) (hbounds : d.bounds w = .ok bounds) :
      Centering d w (.ok (), d.move w (area.centeredOrigin bounds.width bounds.height))

/-- **Centering is one of its four cases.** -/
theorem center_cases (d : Desktop) (w : WindowHandle) : d.Centering w (center w d) := by
  rw [center, bind_apply, monitorOf_apply]
  cases hm : d.monitorOf? w with
  | none => exact .noMonitor hm
  | some m =>
    simp only [bind_apply, workArea_apply]
    cases harea : d.workArea m with
    | error cause => exact .noWorkArea hm harea
    | ok area =>
      simp only [bind_apply, bounds_apply]
      cases hbounds : d.bounds w with
      | error cause => exact .noBounds hm harea hbounds
      | ok bounds => exact .moved hm harea hbounds

/-- The three readings that succeeded, where centering succeeds, and the move that it made. -/
theorem center_of_ok {d : Desktop} {w : WindowHandle} (hok : (center w d).1 = .ok ()) :
    ∃ m area bounds, d.monitorOf? w = some m ∧ d.workArea m = .ok area ∧ d.bounds w = .ok bounds ∧
      center w d = (.ok (), d.move w (area.centeredOrigin bounds.width bounds.height)) := by
  have hcases := center_cases d w
  generalize center w d = result at hcases hok
  cases hcases with
  | noMonitor => cases hok
  | noWorkArea => cases hok
  | noBounds => cases hok
  | moved hm harea hbounds => exact ⟨_, _, _, hm, harea, hbounds, rfl⟩

/-- Three readings that succeed are enough. -/
theorem center_of_readings {d : Desktop} {w : WindowHandle} {m : MonitorHandle} {area bounds : Rect}
    (hm : d.monitorOf? w = some m) (harea : d.workArea m = .ok area)
    (hbounds : d.bounds w = .ok bounds) :
    center w d = (.ok (), d.move w (area.centeredOrigin bounds.width bounds.height)) := by
  have hcases := center_cases d w
  generalize center w d = result at hcases ⊢
  cases hcases with
  | noMonitor hnone => simp [hm] at hnone
  | noWorkArea hm' harea' => simp_all
  | noBounds hm' harea' hbounds' => simp_all
  | moved hm' harea' hbounds' => simp_all

/-! ## Moving a window -/

/-- The bounds that can be read are those of a window that is there. -/
theorem bounds_eq_ok_iff {d : Desktop} {w : WindowHandle} {bounds : Rect} :
    d.bounds w = .ok bounds ↔
      ∃ window, d.window? w = some window ∧ window.boundsFail = false ∧
        window.bounds = bounds := by
  unfold Desktop.bounds
  cases d.window? w with
  | none => simp
  | some window => cases hfail : window.boundsFail <;> simp [hfail]

/-- A window that can be read can be read where it was moved to. -/
theorem bounds_move {d : Desktop} {w : WindowHandle} {bounds : Rect} (h : d.bounds w = .ok bounds)
    (origin : Point) : (d.move w origin).bounds w = .ok (bounds.moveTo origin) := by
  obtain ⟨window, hwindow, hreads, rfl⟩ := bounds_eq_ok_iff.mp h
  rw [bounds_eq_ok_iff]
  exact ⟨window.moveTo origin, by simp [hwindow], hreads, rfl⟩

@[simp]
theorem workArea_move (d : Desktop) (w : WindowHandle) (origin : Point) (m : MonitorHandle) :
    (d.move w origin).workArea m = d.workArea m := rfl

/-- Two changes of one window are one. -/
theorem changeWindow_changeWindow (d : Desktop) (w : WindowHandle) {f g : Window → Window}
    (hf : ∀ window, (f window).handle = window.handle) :
    (d.changeWindow w f).changeWindow w g = d.changeWindow w fun window => g (f window) := by
  simp only [changeWindow, List.map_map]
  congr 1
  refine List.map_congr_left fun window _ => ?_
  simp only [Function.comp]
  by_cases h : window.handle = w
  · rw [if_pos h, if_pos ((hf window).trans h), if_pos h]
  · rw [if_neg h, if_neg h, if_neg h]

/-- **Moving a window twice to one origin is moving it once.** -/
@[simp] theorem move_move (d : Desktop) (w : WindowHandle) (origin : Point) :
    (d.move w origin).move w origin = d.move w origin := by
  have honce : ∀ window : Window, (window.moveTo origin).moveTo origin = window.moveTo origin :=
    fun window => by simp [Window.moveTo]
  rw [move, move, d.changeWindow_changeWindow w (f := (·.moveTo origin)) fun _ => rfl]
  simp only [honce]

/-- **A window that is centered is placed as well as coordinates allow**, on both axes, whatever the
edges of the work area and of the window. -/
theorem center_placedBest (d : Desktop) (w : WindowHandle) (hok : (center w d).1 = .ok ()) :
    ∃ m area before after, d.monitorOf? w = some m ∧ d.workArea m = .ok area ∧
      d.bounds w = .ok before ∧ (center w d).2.bounds w = .ok after ∧
      area.horizontal.PlacedBest before.horizontal after.horizontal ∧
      area.vertical.PlacedBest before.vertical after.vertical := by
  obtain ⟨m, area, before, hm, harea, hbefore, hcenter⟩ := center_of_ok hok
  refine ⟨m, area, before, before.moveTo (area.centeredOrigin before.width before.height), hm, harea,
    hbefore, ?_, ?_, ?_⟩
  · rw [hcenter]
    exact bounds_move hbefore _
  · exact Interval.placedBest_place area.horizontal before.horizontal
  · exact Interval.placedBest_place area.vertical before.vertical

/-- Two screens side by side, and a window whose middle is on the second.  The window is wider than
that screen's work area, and its bottom edge is above its top. -/
def sideBySide : Desktop := { empty with
  monitors := [⟨⟨4⟩, ⟨⟨0, 1920⟩, ⟨0, 1080⟩⟩, ⟨⟨0, 1920⟩, ⟨0, 1040⟩⟩, false⟩,
    ⟨⟨8⟩, ⟨⟨1920, 3841⟩, ⟨-7, 1200⟩⟩, ⟨⟨1920, 3841⟩, ⟨-7, 1160⟩⟩, false⟩]
  windows := [.fresh ⟨12⟩ ⟨⟨900, 3500⟩, ⟨31, 2⟩⟩ .none] }

/-- A window on the left one of two monitors. -/
theorem center_placedBest_sideBySide :
    (center ⟨12⟩ sideBySide).1 = .ok () ∧ ∃ m area before after,
      sideBySide.monitorOf? ⟨12⟩ = some m ∧ sideBySide.workArea m = .ok area ∧
        sideBySide.bounds ⟨12⟩ = .ok before ∧ (center ⟨12⟩ sideBySide).2.bounds ⟨12⟩ = .ok after ∧
          area.horizontal.PlacedBest before.horizontal after.horizontal ∧
          area.vertical.PlacedBest before.vertical after.vertical :=
  ⟨rfl, center_placedBest sideBySide ⟨12⟩ rfl⟩

/-! ## Centering again -/

/-- Among monitors that do not overlap, the one that shows a point is the first that does. -/
theorem find?_geometry_of_disjoint {monitors : List Monitor} {m : Monitor} {p : Point}
    (hapart : monitors.Pairwise fun a b => a.geometry.Disjoint b.geometry) (hm : m ∈ monitors)
    (hp : m.geometry.Contains p) : monitors.find? (fun a => a.geometry.Contains p) = some m := by
  induction monitors with
  | nil => cases hm
  | cons first rest ih =>
    obtain ⟨hfirst, hrest⟩ := List.pairwise_cons.mp hapart
    rcases List.mem_cons.mp hm with rfl | hm
    · simp [hp]
    · have hnot : ¬ first.geometry.Contains p := fun hcontains => hfirst m hm p hcontains hp
      simp [hnot, ih hrest hm]

/-- A window whose middle one of the monitors shows is on that monitor, if they do not overlap. -/
theorem monitorOf?_of_contains {d : Desktop} {w : WindowHandle} {window : Window} {m : Monitor}
    (hapart : d.monitors.Pairwise fun a b => a.geometry.Disjoint b.geometry)
    (hwindow : d.window? w = some window) (hm : m ∈ d.monitors)
    (hcenter : m.geometry.Contains window.bounds.center) : d.monitorOf? w = some m.handle := by
  have hfind := find?_geometry_of_disjoint hapart hm hcenter
  simp only [monitorOf?, hwindow, Option.bind_some, hfind, Option.some_or, Option.map_some]

/-- A work area that can be read is that of the monitor. -/
theorem workArea_of_monitor? {d : Desktop} {m : Monitor} {area : Rect}
    (hm : d.monitor? m.handle = some m) (harea : d.workArea m.handle = .ok area) :
    area = m.workArea := by
  simp only [workArea, hm] at harea
  split at harea
  · cases harea
  · exact (Except.ok.inj harea).symm

/-- **Centering again changes nothing.**  The window is found on the same monitor, the same origin is
computed, and the desktop stays exactly as the first centering left it, whatever the window's size
and wherever it was before. -/
theorem center_again (d : Desktop) (w : WindowHandle) (m : Monitor) (before : Rect)
    (hapart : d.monitors.Pairwise fun a b => a.geometry.Disjoint b.geometry)
    (hon : d.monitorOf? w = some m.handle) (hm : d.monitor? m.handle = some m)
    (hbefore : d.bounds w = .ok before) (hok : (center w d).1 = .ok ())
    (hin : m.workArea.Within m.geometry) (hwide : 2 ≤ m.workArea.width)
    (htall : 2 ≤ m.workArea.height)
    (hfits : m.workArea.FitsCoordinates before.width before.height) :
    (center w d).2.monitorOf? w = some m.handle ∧
      center w (center w d).2 = (.ok (), (center w d).2) := by
  obtain ⟨m', area, bounds, hon', harea, hbounds, hcenter⟩ := center_of_ok hok
  obtain rfl : m.handle = m' := Option.some.inj (hon.symm.trans hon')
  obtain rfl : before = bounds := Except.ok.inj (hbefore.symm.trans hbounds)
  obtain rfl : area = m.workArea := workArea_of_monitor? hm harea
  rw [hcenter]
  let origin := m.workArea.centeredOrigin before.width before.height
  -- the middle of the moved window is on the work area, so on the monitor
  have hmiddle : m.geometry.Contains (before.moveTo origin).center :=
    hin _ (Rect.contains_center_moveTo hwide htall hfits)
  obtain ⟨window, hwindow, hreads, rfl⟩ := bounds_eq_ok_iff.mp hbefore
  have hwindow' : (d.move w origin).window? w = some (window.moveTo origin) := by
    simp [hwindow]
  have hagain : (d.move w origin).monitorOf? w = some m.handle :=
    monitorOf?_of_contains hapart hwindow' (List.mem_of_find?_eq_some hm) hmiddle
  refine ⟨hagain, ?_⟩
  -- the size is what it was, so the same origin is computed
  rw [center_of_readings hagain ((workArea_move d w origin _).trans harea)
    (bounds_move hbounds origin), Rect.centeredOrigin_moveTo hfits, move_move]

/-- A window that is too large for its monitor, and of negative height. -/
theorem center_again_sideBySide :
    (center ⟨12⟩ sideBySide).2 ≠ sideBySide ∧
      center ⟨12⟩ (center ⟨12⟩ sideBySide).2 = (.ok (), (center ⟨12⟩ sideBySide).2) := by
  let second : Monitor :=
    ⟨⟨8⟩, ⟨⟨1920, 3841⟩, ⟨-7, 1200⟩⟩, ⟨⟨1920, 3841⟩, ⟨-7, 1160⟩⟩, false⟩
  have hapart : sideBySide.monitors.Pairwise fun a b => a.geometry.Disjoint b.geometry := by
    have hside := Rect.disjoint_of_far_le_near
      (r := ⟨⟨0, 1920⟩, ⟨0, 1080⟩⟩) (s := second.geometry) (by decide)
    simpa [sideBySide] using hside
  have hin : second.workArea.Within second.geometry :=
    Rect.within_of_le (by decide) (by decide) (by decide) (by decide)
  refine ⟨by decide, ?_⟩
  exact (center_again sideBySide ⟨12⟩ second ⟨⟨900, 3500⟩, ⟨31, 2⟩⟩ hapart rfl rfl rfl rfl hin
    (by decide) (by decide) (by decide)).2

end Desktop

end WindowDecor
