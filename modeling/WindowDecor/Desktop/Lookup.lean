import WindowDecor.Desktop.Basic

/-!
# What each change does to the windows and monitors

`Desktop.window?` and `Desktop.monitor?` are the views of a desktop; here is what every change does
to them, so that no proof needs to look at the lists behind.

* `Window.handle_moveTo`, `Window.bounds_setIcon` and their like — what a change of one window does
  to each part of it.
* `window?_changeWindow` — a change that keeps handles reaches the window it names and no other; so
  for `move`, `resize`, `setStyle`, `setIcon` and `failWindowBounds`.
* `view_changeWindow` — a part of windows that it keeps is the same for all handles.
* `window?_addWindow`, `window?_destroyWindow` — a window comes, a window goes.
* `monitor?_addMonitor`, `monitor?_failMonitorInfo` — the same for monitors.
-/

namespace WindowDecor

/-! ## Parts of a changed window -/

namespace Window

variable (window : Window) (icon : IconHandle) (slot : IconClass)

@[simp] theorem handle_moveTo (origin : Point) : (window.moveTo origin).handle = window.handle := rfl

@[simp] theorem bounds_moveTo (origin : Point) :
    (window.moveTo origin).bounds = window.bounds.moveTo origin := rfl

@[simp] theorem handle_resize (width height : Int32) :
    (window.resize width height).handle = window.handle := rfl

@[simp] theorem handle_setStyle (style : WindowStyle) :
    (window.setStyle style).handle = window.handle := rfl

/-- Whatever the slot, an icon changes no other part of a window; so for the parts below. -/
@[simp] theorem handle_setIcon : (window.setIcon icon slot).handle = window.handle := by
  cases slot <;> rfl

@[simp] theorem bounds_setIcon : (window.setIcon icon slot).bounds = window.bounds := by
  cases slot <;> rfl

@[simp] theorem boundsFail_setIcon : (window.setIcon icon slot).boundsFail = window.boundsFail := by
  cases slot <;> rfl

@[simp] theorem style_setIcon : (window.setIcon icon slot).style = window.style := by
  cases slot <;> rfl

@[simp] theorem styleWrites_setIcon :
    (window.setIcon icon slot).styleWrites = window.styleWrites := by
  cases slot <;> rfl

end Window

namespace Desktop

/-! ## Windows -/

theorem handle_of_window? {d : Desktop} {w : WindowHandle} {window : Window}
    (h : d.window? w = some window) : window.handle = w := by
  have hfound := List.find?_some h
  simpa using hfound

theorem mem_of_window? {d : Desktop} {w : WindowHandle} {window : Window}
    (h : d.window? w = some window) : window ∈ d.windows := List.mem_of_find?_eq_some h

/-- **A change reaches the window it names and no other.** -/
theorem window?_changeWindow (d : Desktop) (w v : WindowHandle) (change : Window → Window)
    (hkeep : ∀ window, (change window).handle = window.handle) :
    (d.changeWindow w change).window? v =
      if v = w then (d.window? w).map change else d.window? v := by
  have hsame : (fun window : Window => decide (window.handle = v)) ∘
      (fun window => if window.handle = w then change window else window)
      = fun window => decide (window.handle = v) := by
    funext window
    simp only [Function.comp]
    split <;> simp [hkeep]
  rw [window?, changeWindow, List.find?_map, hsame, ← window?]
  cases hfound : d.window? v with
  | none => split <;> simp_all
  | some window =>
    have hv := handle_of_window? hfound
    by_cases hvw : v = w <;> simp_all

/-- What a change keeps about each window, it keeps about the one that a handle names. -/
theorem view_changeWindow {α : Type} (view : Window → α) (d : Desktop) (w v : WindowHandle)
    {change : Window → Window} (hhandle : ∀ window, (change window).handle = window.handle)
    (hview : ∀ window ∈ d.windows, view (change window) = view window) :
    ((d.changeWindow w change).window? v).map view = (d.window? v).map view := by
  rw [window?_changeWindow d w v change hhandle]
  split
  · next hv =>
    subst hv
    cases hfound : d.window? v with
    | none => rfl
    | some window =>
      rw [Option.map_some, Option.map_some, Option.map_some, hview window (mem_of_window? hfound)]
  · rfl

@[simp] theorem window?_move (d : Desktop) (w v : WindowHandle) (origin : Point) :
    (d.move w origin).window? v =
      if v = w then (d.window? w).map (·.moveTo origin) else d.window? v :=
  window?_changeWindow d w v _ fun window => window.handle_moveTo origin

@[simp] theorem window?_resize (d : Desktop) (w v : WindowHandle) (width height : Int32) :
    (d.resize w width height).window? v =
      if v = w then (d.window? w).map (·.resize width height) else d.window? v :=
  window?_changeWindow d w v _ fun window => window.handle_resize width height

@[simp] theorem window?_setStyle (d : Desktop) (w v : WindowHandle) (style : WindowStyle) :
    (d.setStyle w style).window? v =
      if v = w then (d.window? w).map (·.setStyle style) else d.window? v :=
  window?_changeWindow d w v _ fun window => window.handle_setStyle style

@[simp] theorem window?_failWindowBounds (d : Desktop) (w v : WindowHandle) :
    (d.failWindowBounds w).window? v =
      if v = w then (d.window? w).map ({ · with boundsFail := true }) else d.window? v :=
  window?_changeWindow d w v _ fun _ => rfl

@[simp]
theorem window?_setIcon (d : Desktop) (w v : WindowHandle) (slot : IconClass) (icon : IconHandle) :
    (d.setIcon w slot icon).window? v =
      if v = w then (d.window? w).map (·.setIcon icon slot) else d.window? v :=
  window?_changeWindow d w v _ fun window => window.handle_setIcon icon slot

/-- An icon leaves whatever is the same in either slot. -/
theorem view_setIcon {α : Type} (view : Window → α) (d : Desktop) (w v : WindowHandle)
    {slot : IconClass} {icon : IconHandle}
    (hview : ∀ window, view (window.setIcon icon slot) = view window) :
    ((d.setIcon w slot icon).window? v).map view = (d.window? v).map view :=
  d.view_changeWindow view w v (fun window => window.handle_setIcon icon slot)
    fun window _ => hview window

/-- A new window is found under its handle, unless an older one has the same. -/
@[simp]
theorem window?_addWindow (d : Desktop) (bounds : Rect) (style : WindowStyle) (v : WindowHandle) :
    (d.addWindow bounds style).2.window? v =
      (d.window? v).or
        (if v = (d.addWindow bounds style).1 then some (.fresh v bounds style) else none) := by
  simp only [window?, addWindow, List.find?_append, List.find?_singleton, Window.fresh]
  by_cases hv : v = ⟨d.nextHandle⟩
  · simp [hv]
  · have hv' : (⟨d.nextHandle⟩ : WindowHandle) ≠ v := fun h => hv h.symm
    simp [hv, hv']

/-- What was destroyed is not found, and everything else is found as before. -/
@[simp] theorem window?_destroyWindow (d : Desktop) (w v : WindowHandle) :
    (d.destroyWindow w).window? v = if v = w then none else d.window? v := by
  simp only [window?, destroyWindow, List.find?_filter]
  split
  · next h => simp [h]
  · next h =>
    congr 1
    funext window
    by_cases hv : window.handle = v <;> simp_all

/-! ## Monitors -/

theorem mem_of_monitor? {d : Desktop} {m : MonitorHandle} {monitor : Monitor}
    (h : d.monitor? m = some monitor) : monitor ∈ d.monitors := List.mem_of_find?_eq_some h

theorem handle_of_monitor? {d : Desktop} {m : MonitorHandle} {monitor : Monitor}
    (h : d.monitor? m = some monitor) : monitor.handle = m := by
  have hfound := List.find?_some h
  simpa using hfound

/-- A new monitor is found under its handle, unless an older one has the same. -/
@[simp] theorem monitor?_addMonitor (d : Desktop) (geometry workArea : Rect) (v : MonitorHandle) :
    (d.addMonitor geometry workArea).2.monitor? v =
      (d.monitor? v).or
        (if v = (d.addMonitor geometry workArea).1 then some ⟨v, geometry, workArea, false⟩
          else none) := by
  simp only [monitor?, addMonitor, List.find?_append, List.find?_singleton]
  by_cases hv : v = ⟨d.nextHandle⟩
  · simp [hv]
  · have hv' : (⟨d.nextHandle⟩ : MonitorHandle) ≠ v := fun h => hv h.symm
    simp [hv, hv']

/-- Only the monitor that is named has its work area fail from then on. -/
@[simp] theorem monitor?_failMonitorInfo (d : Desktop) (m v : MonitorHandle) :
    (d.failMonitorInfo m).monitor? v =
      if v = m then (d.monitor? m).map ({ · with infoFails := true }) else d.monitor? v := by
  have hsame : (fun monitor : Monitor => decide (monitor.handle = v)) ∘
      (fun monitor => if monitor.handle = m then { monitor with infoFails := true } else monitor)
      = fun monitor => decide (monitor.handle = v) := by
    funext monitor
    simp only [Function.comp]
    split <;> rfl
  rw [monitor?, failMonitorInfo, List.find?_map, hsame, ← monitor?]
  cases hfound : d.monitor? v with
  | none => split <;> simp_all
  | some monitor =>
    have hv := handle_of_monitor? hfound
    by_cases hvm : v = m <;> simp_all

end Desktop

end WindowDecor
