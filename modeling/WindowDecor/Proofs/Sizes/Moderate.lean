import Mathlib.Algebra.Group.Int.Defs
import WindowDecor.Proofs.Centering.Desktop
import WindowDecor.Proofs.Session.Requests

/-!
# Desktops on which nothing saturates

If monitors and windows start out near the origin and are not made too large, no sum or difference
that adapters compute leaves the coordinates.  That the edges stay near the origin is not kept:
centering can push the edges of a large window out of the box that they started in.  What is kept is
that a window's near edge and its length are both moderate (`Interval.Moderate`).

* `Interval.Small` — both edges within `2 ^ 28`; so for work areas, and for windows when created.
* `Interval.Moderate` — near edge and length within `2 ^ 29`.
* **`Interval.Moderate.fitsCoordinates`**, `Interval.Moderate.centeredStart` — centering a moderate
  interval in a small area clamps nothing, and half of what is left over does not lead farther than
  `2 ^ 29` from zero.
* `Desktop.Moderate`, `DesktopAction.Moderate` — the same for desktops, and for what is done to them.
* **`Desktop.Moderate.perform`** — the one keeps the other, and sizes with it
  (`Desktop.Moderate.size?_perform`).
* `Desktop.Exact` — what is gained: all arithmetic is that of the integers (`Moderate.exact`).
-/

namespace WindowDecor

/-- The integers up to `bound` away from zero. -/
def UpTo (bound n : Int) : Prop := -bound ≤ n ∧ n ≤ bound

instance (bound n : Int) : Decidable (UpTo bound n) := inferInstanceAs (Decidable (_ ∧ _))

/-! ## One axis -/

namespace Interval

/-- Far edge minus near edge, over the integers. -/
def span (i : Interval) : Int := i.far.toInt - i.near.toInt

/-- An interval of a monitor: both edges up to `2^28`. -/
def Small (i : Interval) : Prop := UpTo (2 ^ 28) i.near.toInt ∧ UpTo (2 ^ 28) i.far.toInt

/-- An interval of a window: its near edge and its length, each up to `2^29`. -/
def Moderate (i : Interval) : Prop := UpTo (2 ^ 29) i.near.toInt ∧ UpTo (2 ^ 29) i.span

instance (i : Interval) : Decidable i.Small := inferInstanceAs (Decidable (_ ∧ _))

variable {i area : Interval}

theorem Small.moderate (h : i.Small) : i.Moderate := by
  obtain ⟨⟨hn, hn'⟩, hf, hf'⟩ := h
  have hspan : UpTo (2 ^ 29) i.span := by
    unfold UpTo span
    omega
  refine ⟨⟨?_, ?_⟩, hspan⟩
  · omega
  · omega

/-- A moderate length does not saturate. -/
theorem Moderate.toInt_length (h : i.Moderate) : i.length.toInt = i.span := by
  obtain ⟨-, hs, hs'⟩ := h
  have hcoordinate : IsCoordinate i.span := by
    unfold IsCoordinate
    omega
  rw [Interval.toInt_length]
  exact clampInt_eq_self hcoordinate

/-- An interval with moderate start and length has that length. -/
theorem moderate_ofStart {start length : Int32} (hstart : UpTo (2 ^ 29) start.toInt)
    (hlength : UpTo (2 ^ 29) length.toInt) :
    (ofStart start length).Moderate ∧ (ofStart start length).length = length := by
  obtain ⟨hs, hs'⟩ := hstart
  have hend : IsCoordinate (start.toInt + length.toInt) := by
    obtain ⟨hl, hl'⟩ := hlength
    unfold IsCoordinate
    omega
  have hspan : (ofStart start length).span = length.toInt := by
    rw [span, toInt_far_ofStart, clampInt_eq_self hend, near_ofStart]
    omega
  have hmoderate : (ofStart start length).Moderate := by
    refine ⟨⟨hs, hs'⟩, ?_⟩
    rw [hspan]
    exact hlength
  refine ⟨hmoderate, ?_⟩
  rw [← Int32.toInt_inj, hmoderate.toInt_length, hspan]

/-- Half of the space that a moderate interval leaves over in a small area does not lead far away
from zero. -/
theorem Moderate.freeStart (h : i.Moderate) (harea : area.Small) :
    UpTo (2 ^ 29) (area.freeStart i.length) := by
  have hfree := two_mul_freeStart area i.length
  have hlength := h.toInt_length
  obtain ⟨-, hs, hs'⟩ := h
  obtain ⟨⟨hn, hn'⟩, hf, hf'⟩ := harea
  constructor
  · omega
  · omega

/-- **Centering a moderate interval in a small area clamps nothing.** -/
theorem Moderate.fitsCoordinates (h : i.Moderate) (harea : area.Small) :
    area.FitsCoordinates i.length := by
  have hlength := h.toInt_length
  obtain ⟨hs, hs'⟩ := h.freeStart harea
  obtain ⟨-, hl, hl'⟩ := h
  constructor
  · unfold IsCoordinate
    omega
  · unfold IsCoordinate
    omega

/-- **Where something is centered is within `2 ^ 29` of zero again.** -/
theorem Moderate.centeredStart (h : i.Moderate) (harea : area.Small) :
    UpTo (2 ^ 29) (area.centeredStart i.length).toInt := by
  have hclamped : (area.centeredStart i.length).toInt = area.freeStart i.length := by
    rw [toInt_centeredStart]
    exact clampInt_eq_self (h.fitsCoordinates harea).1
  rw [hclamped]
  exact h.freeStart harea

theorem Moderate.upTo_length (h : i.Moderate) : UpTo (2 ^ 29) i.length.toInt := by
  rw [h.toInt_length]
  exact h.2

end Interval

/-! ## Both axes -/

/-- A point that is within `2 ^ 29` of zero on both axes. -/
def Point.Moderate (p : Point) : Prop := UpTo (2 ^ 29) p.x.toInt ∧ UpTo (2 ^ 29) p.y.toInt

instance (p : Point) : Decidable p.Moderate := inferInstanceAs (Decidable (_ ∧ _))

namespace Rect

/-- A rectangle that is small on both axes. -/
def Small (r : Rect) : Prop := r.horizontal.Small ∧ r.vertical.Small

/-- A rectangle that is moderate on both axes. -/
def Moderate (r : Rect) : Prop := r.horizontal.Moderate ∧ r.vertical.Moderate

instance (r : Rect) : Decidable r.Small := inferInstanceAs (Decidable (_ ∧ _))

variable {r area : Rect}

theorem Small.moderate (h : r.Small) : r.Moderate := ⟨h.1.moderate, h.2.moderate⟩

/-- A moderate origin and size make a moderate rectangle of just that size. -/
theorem moderate_ofOriginSize {origin : Point} {width height : Int32} (horigin : origin.Moderate)
    (hwidth : UpTo (2 ^ 29) width.toInt) (hheight : UpTo (2 ^ 29) height.toInt) :
    (ofOriginSize origin width height).Moderate ∧
      (ofOriginSize origin width height).width = width ∧
        (ofOriginSize origin width height).height = height := by
  obtain ⟨hx, hw⟩ := Interval.moderate_ofStart horigin.1 hwidth
  obtain ⟨hy, hh⟩ := Interval.moderate_ofStart horigin.2 hheight
  exact ⟨⟨hx, hy⟩, hw, hh⟩

/-- Moving to a moderate origin keeps the size. -/
theorem Moderate.moveTo (h : r.Moderate) {origin : Point} (horigin : origin.Moderate) :
    (r.moveTo origin).Moderate ∧ (r.moveTo origin).width = r.width ∧
      (r.moveTo origin).height = r.height :=
  moderate_ofOriginSize horigin h.1.upTo_length h.2.upTo_length

/-- Resizing gives the size that was asked for. -/
theorem Moderate.resize (h : r.Moderate) {width height : Int32}
    (hwidth : UpTo (2 ^ 29) width.toInt) (hheight : UpTo (2 ^ 29) height.toInt) :
    (r.resize width height).Moderate ∧ (r.resize width height).width = width ∧
      (r.resize width height).height = height :=
  moderate_ofOriginSize ⟨h.1.1, h.2.1⟩ hwidth hheight

/-- On a small area nothing moderate is clamped. -/
theorem Moderate.fitsCoordinates (h : r.Moderate) (harea : area.Small) :
    area.FitsCoordinates r.width r.height :=
  ⟨h.1.fitsCoordinates harea.1, h.2.fitsCoordinates harea.2⟩

theorem Moderate.centeredOrigin (h : r.Moderate) (harea : area.Small) :
    (area.centeredOrigin r.width r.height).Moderate :=
  ⟨h.1.centeredStart harea.1, h.2.centeredStart harea.2⟩

end Rect

/-! ## Actions on a desktop -/

namespace DesktopAction

/-- An action that brings in nothing large or far away. -/
def Moderate : DesktopAction → Prop
  | .addMonitor _ area => area.Small
  | .addWindow rect _ => rect.Small
  | .move _ origin => origin.Moderate
  | .resize _ width height => UpTo (2 ^ 29) width.toInt ∧ UpTo (2 ^ 29) height.toInt
  | _ => True

instance : (action : DesktopAction) → Decidable action.Moderate
  | .addMonitor _ area => inferInstanceAs (Decidable area.Small)
  | .addWindow rect _ => inferInstanceAs (Decidable rect.Small)
  | .move _ origin => inferInstanceAs (Decidable origin.Moderate)
  | .resize _ width height =>
      inferInstanceAs (Decidable (UpTo (2 ^ 29) width.toInt ∧ UpTo (2 ^ 29) height.toInt))
  | .destroyWindow _ | .failWindowBounds _ | .failMonitorInfo _ | .addIcons _ _ | .monitorOf _
  | .workArea _ | .bounds _ | .flash _ _ | .extractIcons _ | .setIcon _ _ _ | .style _
  | .setStyle _ _ | .setProgress _ _ => isTrue trivial

/-- An action that gives a window another size or takes it away. -/
def endsSize (w : WindowHandle) : DesktopAction → Bool
  | .resize v _ _ | .destroyWindow v => decide (v = w)
  | _ => false

end DesktopAction

/-- A window's width and height. -/
def Window.size (window : Window) : Int32 × Int32 := (window.bounds.width, window.bounds.height)

namespace Desktop

/-- A window's size, if there is such a window. -/
def size? (d : Desktop) (w : WindowHandle) : Option (Int32 × Int32) := (d.window? w).map (·.size)

/-- A desktop with small work areas and moderate windows. -/
structure Moderate (d : Desktop) : Prop where
  areas : ∀ monitor ∈ d.monitors, monitor.workArea.Small
  bounds : ∀ window ∈ d.windows, window.bounds.Moderate

variable {d : Desktop}

theorem moderate_empty : empty.Moderate := ⟨by simp [empty], by simp [empty]⟩

/-- A change that keeps windows moderate keeps the desktop moderate. -/
theorem Moderate.changeWindow (h : d.Moderate) (w : WindowHandle) {change : Window → Window}
    (hchange : ∀ window, window.bounds.Moderate → (change window).bounds.Moderate) :
    (d.changeWindow w change).Moderate := by
  refine ⟨h.areas, ?_⟩
  intro changed hchanged
  obtain ⟨window, hwindow, rfl⟩ := List.mem_map.mp hchanged
  split
  · exact hchange window (h.bounds window hwindow)
  · exact h.bounds window hwindow

/-- **Moderate actions keep a desktop moderate.** -/
theorem Moderate.perform (h : d.Moderate) {action : DesktopAction} (haction : action.Moderate) :
    (d.perform action).1.Moderate := by
  cases action with
  | addMonitor geometry workArea =>
    refine ⟨?_, h.bounds⟩
    intro monitor hmonitor
    rcases List.mem_append.mp hmonitor with hold | hnew
    · exact h.areas monitor hold
    · obtain rfl := List.mem_singleton.mp hnew
      exact haction
  | addWindow bounds style =>
    refine ⟨h.areas, ?_⟩
    intro window hwindow
    rcases List.mem_append.mp hwindow with hold | hnew
    · exact h.bounds window hold
    · obtain rfl := List.mem_singleton.mp hnew
      exact haction.moderate
  | destroyWindow w =>
    exact ⟨h.areas, fun window hwindow => h.bounds window (List.mem_filter.mp hwindow).1⟩
  | failWindowBounds w => exact h.changeWindow w fun _ hbounds => hbounds
  | failMonitorInfo m =>
    refine ⟨?_, h.bounds⟩
    intro changed hchanged
    obtain ⟨monitor, hmonitor, rfl⟩ := List.mem_map.mp hchanged
    split
    · exact h.areas monitor hmonitor
    · exact h.areas monitor hmonitor
  | move w origin => exact h.changeWindow w fun _ hbounds => (hbounds.moveTo haction).1
  | resize w width height =>
    exact h.changeWindow w fun _ hbounds => (hbounds.resize haction.1 haction.2).1
  | setStyle w style => exact h.changeWindow w fun _ hbounds => hbounds
  | setIcon w slot icon =>
    have hchanged : (d.changeWindow w (·.setIcon icon slot)).Moderate :=
      h.changeWindow w fun window hbounds => by rwa [window.bounds_setIcon]
    exact ⟨hchanged.areas, hchanged.bounds⟩
  | _ => exact ⟨h.areas, h.bounds⟩

theorem Moderate.performAll (h : d.Moderate) {actions : List DesktopAction}
    (hactions : ∀ action ∈ actions, action.Moderate) : (d.performAll actions).Moderate :=
  performAll_induction h fun action haction _ hd => hd.perform (hactions action haction)

/-- **Sizes stay**, as long as an action is moderate and not about this one. -/
theorem Moderate.size?_perform (h : d.Moderate) {action : DesktopAction}
    (haction : action.Moderate) {w : WindowHandle} (hkeeps : action.endsSize w = false)
    {size : Int32 × Int32} (hsize : d.size? w = some size) :
    (d.perform action).1.size? w = some size := by
  cases action with
  | addWindow bounds style =>
    obtain ⟨window, hwindow, rfl⟩ := Option.map_eq_some_iff.mp hsize
    simp [Desktop.perform, size?, hwindow]
  | destroyWindow v =>
    have hne : w ≠ v := fun heq => by simp [DesktopAction.endsSize, heq] at hkeeps
    rw [← hsize]
    simp [Desktop.perform, size?, hne]
  | resize v width height =>
    have hne : w ≠ v := fun heq => by simp [DesktopAction.endsSize, heq] at hkeeps
    rw [← hsize]
    simp [Desktop.perform, size?, hne]
  | move v origin =>
    rw [← hsize]
    refine d.view_changeWindow Window.size v w (fun _ => rfl) fun window hwindow => ?_
    obtain ⟨-, hwidth, hheight⟩ := (h.bounds window hwindow).moveTo haction
    simp [Window.size, hwidth, hheight]
  | failWindowBounds v =>
    rw [← hsize]
    exact d.view_changeWindow Window.size v w (fun _ => rfl) fun _ _ => rfl
  | setStyle v style =>
    rw [← hsize]
    exact d.view_changeWindow Window.size v w (fun _ => rfl) fun _ _ => rfl
  | setIcon v slot icon =>
    rw [← hsize]
    exact d.view_setIcon Window.size v w fun window => by simp [Window.size]
  | _ => exact hsize

theorem Moderate.size?_performAll {w : WindowHandle} {size : Int32 × Int32}
    {actions : List DesktopAction} (hactions : ∀ action ∈ actions, action.Moderate)
    (hkeeps : ∀ action ∈ actions, action.endsSize w = false) (h : d.Moderate)
    (hsize : d.size? w = some size) : (d.performAll actions).size? w = some size := by
  induction actions generalizing d with
  | nil => exact hsize
  | cons action rest ih =>
    have haction := hactions action List.mem_cons_self
    refine ih (fun a ha => hactions a (List.mem_cons_of_mem _ ha))
      (fun a ha => hkeeps a (List.mem_cons_of_mem _ ha)) (h.perform haction) ?_
    exact h.size?_perform haction (hkeeps action List.mem_cons_self) hsize

/-! ### What is gained -/

/-- Nothing that adapters compute on the desktop saturates or is clamped: not the sizes of windows,
not the origin and the far edges of a window that is centered on whatever monitor, and not the far
edges of one that is given a moderate size. -/
structure Exact (d : Desktop) : Prop where
  size : ∀ window ∈ d.windows,
    window.bounds.width.toInt = window.bounds.right.toInt - window.bounds.left.toInt ∧
      window.bounds.height.toInt = window.bounds.bottom.toInt - window.bounds.top.toInt
  centering : ∀ window ∈ d.windows, ∀ monitor ∈ d.monitors,
    monitor.workArea.FitsCoordinates window.bounds.width window.bounds.height
  resizing : ∀ window ∈ d.windows, ∀ width height : Int32,
    UpTo (2 ^ 29) width.toInt → UpTo (2 ^ 29) height.toInt →
      IsCoordinate (window.bounds.left.toInt + width.toInt) ∧
        IsCoordinate (window.bounds.top.toInt + height.toInt)

/-- **On a moderate desktop, everything is exact.** -/
theorem Moderate.exact (h : d.Moderate) : d.Exact where
  size window hwindow :=
    ⟨(h.bounds window hwindow).1.toInt_length, (h.bounds window hwindow).2.toInt_length⟩
  centering window hwindow monitor hmonitor :=
    (h.bounds window hwindow).fitsCoordinates (h.areas monitor hmonitor)
  resizing window hwindow width height hwidth hheight := by
    obtain ⟨⟨⟨hx, hx'⟩, -⟩, ⟨hy, hy'⟩, -⟩ := h.bounds window hwindow
    obtain ⟨hw, hw'⟩ := hwidth
    obtain ⟨hh, hh'⟩ := hheight
    unfold IsCoordinate Rect.left Rect.top
    omega

end Desktop

end WindowDecor
