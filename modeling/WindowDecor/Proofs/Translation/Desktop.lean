import Mathlib.Data.List.Find
import WindowDecor.Proofs.Session.Answers
import WindowDecor.Proofs.Translation.Rect

/-!
# Translated desktops

A desktop can be translated: its monitors, their work areas and its windows, all by the same amount.
What is read off it is then the same, but for places, and the requests of adapters do the same to it.

* `Desktop.Shiftable` — every edge on the desktop has a coordinate on the translated one.
* **`Desktop.monitorOf?_shift`** — a window is on the same monitor, which is shown by its middle or
  is the first in both cases.
* `Desktop.OriginFits`, `Desktop.FarFit` — no origin is clamped when a window is centered, and no far
  edge saturates in the course of a list of requests.
* **`Desktop.centerRequests_shift`** — the window is centered at the same place, translated.
* **`Desktop.performAll_shift`** — requests can be carried out before or after the translation.
-/

namespace WindowDecor

/-! ## What is translated -/

/-- The same window, with its bounds translated. -/
def Window.shift (window : Window) (o : Offset) : Window :=
  { window with bounds := window.bounds.shift o }

/-- The same monitor, with its geometry and its work area translated. -/
def Monitor.shift (m : Monitor) (o : Offset) : Monitor :=
  { m with geometry := m.geometry.shift o, workArea := m.workArea.shift o }

namespace DesktopAction

/-- A request, as it is made of the translated desktop.  Only moves name a place. -/
def shift (o : Offset) : DesktopAction → DesktopAction
  | .move w origin => .move w (origin.shift o)
  | r => r

/-- The place that a request names, if any, has coordinates on the translated desktop. -/
def Shiftable (o : Offset) : DesktopAction → Prop
  | .move _ origin => origin.Shiftable o
  | _ => True

/-- No far edge saturates when a request is carried out. -/
def FarFits (d : Desktop) : DesktopAction → Prop
  | .move w origin => ∀ window ∈ d.windows, window.handle = w →
      origin.FarFits window.bounds.width window.bounds.height
  | .resize w width height => ∀ window ∈ d.windows, window.handle = w →
      window.bounds.origin.FarFits width height
  | _ => True

instance (d : Desktop) : (r : DesktopAction) → Decidable (r.FarFits d)
  | .move w origin => inferInstanceAs (Decidable (∀ window ∈ d.windows, window.handle = w →
      origin.FarFits window.bounds.width window.bounds.height))
  | .resize w width height => inferInstanceAs (Decidable (∀ window ∈ d.windows, window.handle = w →
      window.bounds.origin.FarFits width height))
  | .addMonitor _ _ | .addWindow _ _ | .destroyWindow _ | .failWindowBounds _ | .failMonitorInfo _
  | .addIcons _ _ | .monitorOf _ | .workArea _ | .bounds _ | .flash _ _ | .extractIcons _
  | .setIcon _ _ _ | .style _ | .setStyle _ _ | .setProgress _ _ => isTrue trivial

end DesktopAction

namespace Desktop

/-- The desktop with everything on it translated. -/
def shift (d : Desktop) (o : Offset) : Desktop := { d with
  monitors := d.monitors.map (·.shift o)
  windows := d.windows.map (·.shift o) }

/-- All edges on the desktop can be translated. -/
structure Shiftable (d : Desktop) (o : Offset) : Prop where
  geometry : ∀ m ∈ d.monitors, m.geometry.Shiftable o
  workArea : ∀ m ∈ d.monitors, m.workArea.Shiftable o
  bounds : ∀ window ∈ d.windows, window.bounds.Shiftable o

instance (d : Desktop) (o : Offset) : Decidable (d.Shiftable o) :=
  decidable_of_iff ((∀ m ∈ d.monitors, m.geometry.Shiftable o) ∧
      (∀ m ∈ d.monitors, m.workArea.Shiftable o) ∧ ∀ window ∈ d.windows, window.bounds.Shiftable o)
    ⟨fun ⟨hgeometry, harea, hbounds⟩ => ⟨hgeometry, harea, hbounds⟩,
      fun h => ⟨h.geometry, h.workArea, h.bounds⟩⟩

/-! ## Readings -/

variable {d : Desktop} {o : Offset} (w : WindowHandle) (m : MonitorHandle)

/-- The same window is found, translated. -/
@[simp] theorem window?_shift (d : Desktop) (o : Offset) :
    (d.shift o).window? w = (d.window? w).map (·.shift o) :=
  List.find?_map

@[simp] theorem monitor?_shift (d : Desktop) (o : Offset) :
    (d.shift o).monitor? m = (d.monitor? m).map (·.shift o) :=
  List.find?_map

/-- Bounds are read translated, and fail where they failed. -/
@[simp] theorem bounds_shift (d : Desktop) (o : Offset) :
    (d.shift o).bounds w = (d.bounds w).map (·.shift o) := by
  simp only [bounds, window?_shift]
  cases d.window? w with
  | none => rfl
  | some window =>
    simp only [Option.map_some, Window.shift]
    cases window.boundsFail <;> rfl

@[simp] theorem workArea_shift (d : Desktop) (o : Offset) :
    (d.shift o).workArea m = (d.workArea m).map (·.shift o) := by
  simp only [workArea, monitor?_shift]
  cases d.monitor? m with
  | none => rfl
  | some monitor =>
    simp only [Option.map_some, Monitor.shift]
    cases monitor.infoFails <;> rfl

@[simp] theorem style_shift (d : Desktop) (o : Offset) : (d.shift o).style w = d.style w := by
  rw [style, style, window?_shift]
  cases d.window? w <;> rfl

/-- The monitor that shows a point shows its translation. -/
theorem find?_geometry_shift {monitors : List Monitor}
    (hmonitors : ∀ m ∈ monitors, m.geometry.Shiftable o) {p : Point} (hp : p.Shiftable o) :
    (monitors.map (·.shift o)).find? (fun m => m.geometry.Contains (p.shift o)) =
      (monitors.find? fun m => m.geometry.Contains p).map (·.shift o) := by
  rw [List.find?_map]
  refine congrArg (Option.map _) (List.find?_congr fun m hm => ?_)
  exact decide_eq_decide.mpr (Rect.contains_shift (hmonitors m hm) hp)

/-- **A window is on the same monitor.** -/
theorem monitorOf?_shift (h : d.Shiftable o) : (d.shift o).monitorOf? w = d.monitorOf? w := by
  have hhead : (d.shift o).monitors.head? = d.monitors.head?.map (·.shift o) := List.head?_map
  have hhandle : ∀ shown : Option Monitor,
      ((shown.map (·.shift o)).or (d.monitors.head?.map (·.shift o))).map (·.handle) =
        (shown.or d.monitors.head?).map (·.handle) := by
    intro shown
    cases shown <;> cases d.monitors.head? <;> rfl
  simp only [monitorOf?, window?_shift, hhead]
  cases hwindow : d.window? w with
  | none => exact hhandle none
  | some window =>
    obtain ⟨hcenter, hshifted⟩ := Rect.center_shift (h.bounds window (mem_of_window? hwindow))
    have hfind := find?_geometry_shift h.geometry hcenter
    rw [← hshifted] at hfind
    rw [← hhandle]
    exact congrArg (fun shown => (Option.or shown _).map _) hfind

/-- Bounds that are read can be translated. -/
theorem Shiftable.of_bounds (h : d.Shiftable o) {bounds : Rect} (hbounds : d.bounds w = .ok bounds) :
    bounds.Shiftable o := by
  obtain ⟨window, hwindow, -, rfl⟩ := bounds_eq_ok_iff.mp hbounds
  exact h.bounds window (mem_of_window? hwindow)

theorem Shiftable.of_workArea (h : d.Shiftable o) {area : Rect} (harea : d.workArea m = .ok area) :
    area.Shiftable o := by
  cases hmonitor : d.monitor? m with
  | none => simp [Desktop.workArea, hmonitor] at harea
  | some monitor =>
    obtain rfl := handle_of_monitor? hmonitor
    rw [workArea_of_monitor? hmonitor harea]
    exact h.workArea monitor (mem_of_monitor? hmonitor)

/-! ## Centering -/

/-- Centering a window fails for the same reason, or does not fail. -/
theorem center_shift (h : d.Shiftable o) : (center w (d.shift o)).1 = (center w d).1 := by
  rw [center, bind_apply, bind_apply, monitorOf_apply, monitorOf_apply, monitorOf?_shift w h]
  cases d.monitorOf? w with
  | none => rfl
  | some m =>
    simp only [bind_apply, workArea_apply, workArea_shift]
    cases d.workArea m with
    | error cause => rfl
    | ok area =>
      simp only [Except.map, bind_apply, bounds_apply, bounds_shift]
      cases d.bounds w with
      | error cause => rfl
      | ok bounds =>
        show (Except.ok () : Except CenteringError Unit) = .ok ()
        rfl

theorem centerEvents_shift (h : d.Shiftable o) : (d.shift o).centerEvents w = d.centerEvents w := by
  rw [centerEvents, centerEvents, center_shift w h]

/-- If the window can be centered, its origin is not clamped. -/
def OriginFits (d : Desktop) (w : WindowHandle) : Prop :=
  ∀ m ∈ d.monitorOf? w, ∀ area ∈ (d.workArea m).toOption, ∀ bounds ∈ (d.bounds w).toOption,
    area.OriginFits bounds.width bounds.height

instance (d : Desktop) (w : WindowHandle) : Decidable (d.OriginFits w) :=
  inferInstanceAs (Decidable (∀ m ∈ d.monitorOf? w, ∀ area ∈ (d.workArea m).toOption,
    ∀ bounds ∈ (d.bounds w).toOption, area.OriginFits bounds.width bounds.height))

/-- **A window is centered at the same place**, translated. -/
theorem centerRequests_shift (h : d.Shiftable o) (hfits : d.OriginFits w)
    (hfits' : (d.shift o).OriginFits w) :
    (d.shift o).centerRequests w = (d.centerRequests w).map (·.shift o) ∧
      ∀ r ∈ d.centerRequests w, r.Shiftable o := by
  unfold OriginFits at hfits hfits'
  simp only [monitorOf?_shift w h, workArea_shift, bounds_shift] at hfits'
  simp only [centerRequests, monitorOf?_shift w h, workArea_shift, bounds_shift]
  cases hm : d.monitorOf? w with
  | none => simp
  | some m =>
    cases harea : d.workArea m with
    | error cause => simp [Except.map, harea]
    | ok area =>
      cases hbounds : d.bounds w with
      | error cause => simp [Except.map, harea]
      | ok bounds =>
        have hb := h.of_bounds w hbounds
        have hfree := hfits m hm area (by rw [harea]; rfl) bounds (by rw [hbounds]; rfl)
        have hfree' := hfits' m hm (area.shift o) (by rw [harea]; rfl) (bounds.shift o)
          (by rw [hbounds]; rfl)
        rw [Rect.width_shift hb, Rect.height_shift hb] at hfree'
        obtain ⟨horigin, heq⟩ := Rect.centeredOrigin_shift (h.of_workArea m harea) hfree hfree'
        simp only [harea, Except.map, Rect.width_shift hb, Rect.height_shift hb, heq]
        exact ⟨rfl, List.forall_mem_singleton.mpr horigin⟩

/-! ## Requests -/

variable {w m}

/-- A change and its translation agree on the whole desktop if they do on the window. -/
theorem changeWindow_shift (h : d.Shiftable o) {change change' : Window → Window}
    (hchange : ∀ window ∈ d.windows, window.handle = w →
      (change window).bounds.Shiftable o ∧ change' (window.shift o) = (change window).shift o) :
    (d.changeWindow w change).Shiftable o ∧
      (d.shift o).changeWindow w change' = (d.changeWindow w change).shift o := by
  constructor
  · refine ⟨h.geometry, h.workArea, fun window hwindow => ?_⟩
    obtain ⟨old, hold, rfl⟩ := List.mem_map.mp hwindow
    split
    · next hw => exact (hchange old hold hw).1
    · exact h.bounds old hold
  · simp only [changeWindow, shift, List.map_map]
    congr 1
    refine List.map_congr_left fun window hwindow => ?_
    have hhandle : (window.shift o).handle = window.handle := rfl
    simp only [Function.comp, hhandle]
    by_cases hw : window.handle = w
    · rw [if_pos hw, if_pos hw, (hchange window hwindow hw).2]
    · rw [if_neg hw, if_neg hw]

/-- What a change keeps of a window's bounds is translated with them. -/
theorem changeWindow_shift_of_bounds (h : d.Shiftable o) {change : Window → Window}
    (hbounds : ∀ window, (change window).bounds = window.bounds)
    (hshift : ∀ window, change (window.shift o) = (change window).shift o) :
    (d.changeWindow w change).Shiftable o ∧
      (d.shift o).changeWindow w change = (d.changeWindow w change).shift o := by
  refine changeWindow_shift h fun window hwindow _ => ⟨?_, hshift window⟩
  rw [hbounds]
  exact h.bounds window hwindow

/-- **A request does the same to the translated desktop.** -/
theorem perform_shift {target : Option WindowHandle} {r : DesktopAction} (hr : r.isRequestFor target)
    (h : d.Shiftable o) (hplace : r.Shiftable o) (hfits : r.FarFits d)
    (hfits' : (r.shift o).FarFits (d.shift o)) :
    (d.perform r).1.Shiftable o ∧
      ((d.shift o).perform (r.shift o)).1 = (d.perform r).1.shift o := by
  cases r with
  | move v origin =>
    refine changeWindow_shift h fun window hwindow hv => ?_
    have hfits'' := hfits' (window.shift o) (List.mem_map_of_mem hwindow) hv
    obtain ⟨hmoved, heq⟩ :=
      Rect.moveTo_shift (h.bounds window hwindow) hplace (hfits window hwindow hv) hfits''
    exact ⟨hmoved, congrArg (fun bounds => { window with bounds }) heq⟩
  | resize v width height =>
    refine changeWindow_shift h fun window hwindow hv => ?_
    have hfits'' := hfits' (window.shift o) (List.mem_map_of_mem hwindow) hv
    obtain ⟨hresized, heq⟩ :=
      Rect.resize_shift (h.bounds window hwindow) (hfits window hwindow hv) hfits''
    exact ⟨hresized, congrArg (fun bounds => { window with bounds }) heq⟩
  | setStyle v style => exact changeWindow_shift_of_bounds h (fun _ => rfl) fun _ => rfl
  | setIcon v slot icon =>
    have hdressed : (d.changeWindow v (·.setIcon icon slot)).Shiftable o ∧
        (d.shift o).changeWindow v (·.setIcon icon slot) =
          (d.changeWindow v (·.setIcon icon slot)).shift o :=
      changeWindow_shift_of_bounds h (fun window => window.bounds_setIcon icon slot)
        fun _ => by cases slot <;> rfl
    refine ⟨⟨h.geometry, h.workArea, hdressed.1.bounds⟩, ?_⟩
    let noted : IconAssignment := ⟨v, slot, icon⟩
    exact congrArg (fun d' : Desktop => { d' with assignments := d.assignments ++ [noted] }) hdressed.2
  | flash v count => exact ⟨⟨h.geometry, h.workArea, h.bounds⟩, rfl⟩
  | setProgress v state => exact ⟨⟨h.geometry, h.workArea, h.bounds⟩, rfl⟩
  | extractIcons path => exact ⟨⟨h.geometry, h.workArea, h.bounds⟩, rfl⟩
  | _ => cases hr

/-- No far edge saturates when requests are carried out one after the other. -/
def FarFit (d : Desktop) : List DesktopAction → Prop
  | [] => True
  | r :: rest => r.FarFits d ∧ (d.perform r).1.FarFit rest

instance decidableFarFit : (d : Desktop) → (requests : List DesktopAction) →
    Decidable (d.FarFit requests)
  | _, [] => isTrue trivial
  | d, r :: rest =>
      have := decidableFarFit (d.perform r).1 rest
      inferInstanceAs (Decidable (r.FarFits d ∧ (d.perform r).1.FarFit rest))

/-- **Requests do the same to the translated desktop**, one after the other. -/
theorem performAll_shift {target : Option WindowHandle} {requests : List DesktopAction}
    (hrequests : ∀ r ∈ requests, r.isRequestFor target) (h : d.Shiftable o)
    (hplaces : ∀ r ∈ requests, r.Shiftable o) (hfit : d.FarFit requests)
    (hfit' : (d.shift o).FarFit (requests.map (·.shift o))) :
    (d.performAll requests).Shiftable o ∧
      (d.shift o).performAll (requests.map (·.shift o)) = (d.performAll requests).shift o := by
  induction requests generalizing d with
  | nil => exact ⟨h, rfl⟩
  | cons r rest ih =>
    obtain ⟨hnext, heq⟩ := perform_shift (hrequests r List.mem_cons_self) h
      (hplaces r List.mem_cons_self) hfit.1 hfit'.1
    have hrest := ih (fun r hr => hrequests r (List.mem_cons_of_mem _ hr)) hnext
      (fun r hr => hplaces r (List.mem_cons_of_mem _ hr)) hfit.2 (heq ▸ hfit'.2)
    rwa [List.map_cons, performAll_cons, performAll_cons, heq]

end Desktop

end WindowDecor
