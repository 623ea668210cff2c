import WindowDecor.Geometry.Rect
import WindowDecor.Window.Failure
import WindowDecor.Window.Handle
import WindowDecor.Window.Progress
import WindowDecor.Window.Style
import WindowDecor.Icon
import WindowDecor.FilePath

/-!
# A desktop in memory

`Desktop` is a window manager's state as plain data: monitors and windows, the icons that files
have, and records of what was asked.

* `Desktop.window?`, `Desktop.monitor?` — the views through which everything else is said: what the
  desktop has under a handle.
* `Desktop.addMonitor`, `Desktop.addWindow` — one counter numbers monitors and windows, so no two of
  them share a handle.
* `Desktop.monitorOf?` — the first monitor whose geometry contains the window's center, or else the
  first monitor.
* `Desktop.failMonitorInfo`, `Desktop.failWindowBounds` — from then on a reading fails.  Only
  readings do: a window whose bounds cannot be read still has bounds, and still moves.
* `Desktop.extractions`, `assignments`, `flashes`, `progress` — **records in order of the calls**,
  also of calls on windows that do not exist.
-/

namespace WindowDecor

/-- A window. -/
structure Window where
  handle : WindowHandle
  bounds : Rect
  style : WindowStyle
  bigIcon : Option IconHandle
  smallIcon : Option IconHandle
  /-- How often the style was written. -/
  styleWrites : Nat
  /-- Whether reading the bounds fails. -/
  boundsFail : Bool
  deriving DecidableEq

namespace Window

/-- A window that has just been created. -/
def fresh (handle : WindowHandle) (bounds : Rect) (style : WindowStyle) : Window :=
  ⟨handle, bounds, style, none, none, 0, false⟩

/-- The same window at another origin. -/
def moveTo (w : Window) (origin : Point) : Window := { w with bounds := w.bounds.moveTo origin }

/-- The same window with another size. -/
def resize (w : Window) (width height : Int32) : Window :=
  { w with bounds := w.bounds.resize width height }

/-- The same window with an icon in one of its slots. -/
def setIcon (w : Window) (icon : IconHandle) : IconClass → Window
  | .big => { w with bigIcon := some icon }
  | .small => { w with smallIcon := some icon }

/-- The same window with another style. -/
def setStyle (w : Window) (style : WindowStyle) : Window :=
  { w with style, styleWrites := w.styleWrites + 1 }

end Window

/-- A monitor. -/
structure Monitor where
  handle : MonitorHandle
  /-- The part of the desktop that it shows. -/
  geometry : Rect
  /-- The part of it that is not covered by taskbars. -/
  workArea : Rect
  /-- Whether reading the work area fails. -/
  infoFails : Bool
  deriving DecidableEq

/-- The icons that come out of a file. -/
structure IconResource where
  path : FilePath
  icons : ExtractedIcons
  deriving DecidableEq

/-- An icon that was put into a slot of a window. -/
structure IconAssignment where
  window : WindowHandle
  slot : IconClass
  icon : IconHandle
  deriving DecidableEq

/-- A taskbar entry that was flashed. -/
structure FlashRequest where
  window : WindowHandle
  count : UInt32
  deriving DecidableEq

/-- A state that was sent to a progress bar. -/
structure ProgressMessage where
  bar : WindowHandle
  state : ProgressState
  deriving DecidableEq

/-- Monitors, windows, files with icons, and what was asked of them. -/
structure Desktop where
  /-- The handle that was given out last, counted from where handles start. -/
  lastHandle : Int64
  /-- In order of creation; the first is the primary monitor. -/
  monitors : List Monitor
  windows : List Window
  resources : List IconResource
  extractions : List FilePath
  assignments : List IconAssignment
  flashes : List FlashRequest
  progress : List ProgressMessage
  deriving DecidableEq

namespace Desktop

/-- Nothing, and nothing asked. -/
def empty : Desktop := ⟨0, [], [], [], [], [], [], []⟩

/-! ## Looking things up -/

/-- The window with the given handle. -/
def window? (d : Desktop) (w : WindowHandle) : Option Window := d.windows.find? (·.handle = w)

/-- The monitor with the given handle. -/
def monitor? (d : Desktop) (m : MonitorHandle) : Option Monitor := d.monitors.find? (·.handle = m)

/-- The icons registered for a path, under whatever spelling. -/
def iconsAt (d : Desktop) (path : FilePath) : ExtractedIcons :=
  ((d.resources.find? fun r => path.Same r.path).map (·.icons)).getD .nothing

/-- The monitor that a window is on: the first one that shows the window's center, or else the
first one. -/
def monitorOf? (d : Desktop) (w : WindowHandle) : Option MonitorHandle :=
  let shown : Option Monitor := (d.window? w).bind fun window =>
    d.monitors.find? fun m => m.geometry.Contains window.bounds.center
  (shown.or d.monitors.head?).map (·.handle)

/-- A monitor's work area, if it can be read. -/
def workArea (d : Desktop) (m : MonitorHandle) : Except CallFailure Rect :=
  match d.monitor? m with
  | none => .error ⟨"GetMonitorInfoW", "invalid monitor handle"⟩
  | some monitor =>
      if monitor.infoFails then .error ⟨"GetMonitorInfoW", "monitor info unavailable"⟩
      else .ok monitor.workArea

/-- A window's bounds, if they can be read. -/
def bounds (d : Desktop) (w : WindowHandle) : Except CallFailure Rect :=
  match d.window? w with
  | none => .error ⟨"GetWindowRect", "invalid window handle"⟩
  | some window =>
      if window.boundsFail then .error ⟨"GetWindowRect", "window rect unavailable"⟩
      else .ok window.bounds

/-- A window's style; no bits if there is no such window. -/
def style (d : Desktop) (w : WindowHandle) : WindowStyle :=
  ((d.window? w).map (·.style)).getD .none

/-! ## Things coming and going -/

/-- The handle that is given out next.  Handles are four apart. -/
def nextHandle (d : Desktop) : Int64 := 0x10000 + (d.lastHandle + 4)

/-- A further monitor, and its handle. -/
def addMonitor (d : Desktop) (geometry workArea : Rect) : MonitorHandle × Desktop :=
  let handle : MonitorHandle := ⟨d.nextHandle⟩
  (handle, { d with
    lastHandle := d.lastHandle + 4
    monitors := d.monitors ++ [⟨handle, geometry, workArea, false⟩] })

/-- A further window, and its handle. -/
def addWindow (d : Desktop) (bounds : Rect) (style : WindowStyle) : WindowHandle × Desktop :=
  let handle : WindowHandle := ⟨d.nextHandle⟩
  (handle, { d with
    lastHandle := d.lastHandle + 4
    windows := d.windows ++ [.fresh handle bounds style] })

/-- The desktop without a window. -/
def destroyWindow (d : Desktop) (w : WindowHandle) : Desktop :=
  { d with windows := d.windows.filter (·.handle ≠ w) }

/-- Registers the icons that come out of a file.  They take the place of those registered for the
same path before. -/
def addIcons (d : Desktop) (path : FilePath) (icons : ExtractedIcons) : Desktop :=
  { d with resources := ⟨path, icons⟩ :: d.resources.filter fun r => ¬ path.Same r.path }

/-! ## Changing one window or monitor -/

/-- Changes the window with the given handle, if there is one. -/
def changeWindow (d : Desktop) (w : WindowHandle) (change : Window → Window) : Desktop :=
  { d with windows := d.windows.map fun window =>
      if window.handle = w then change window else window }

/-- From now on the window's bounds cannot be read. -/
def failWindowBounds (d : Desktop) (w : WindowHandle) : Desktop :=
  d.changeWindow w fun window => { window with boundsFail := true }

/-- From now on the monitor's work area cannot be read. -/
def failMonitorInfo (d : Desktop) (m : MonitorHandle) : Desktop :=
  { d with monitors := d.monitors.map fun monitor =>
      if monitor.handle = m then { monitor with infoFails := true } else monitor }

/-- Moves a window and keeps its size. -/
def move (d : Desktop) (w : WindowHandle) (origin : Point) : Desktop :=
  d.changeWindow w (·.moveTo origin)

/-- Resizes a window and keeps its origin. -/
def resize (d : Desktop) (w : WindowHandle) (width height : Int32) : Desktop :=
  d.changeWindow w (·.resize width height)

/-- Gives a window another style. -/
def setStyle (d : Desktop) (w : WindowHandle) (style : WindowStyle) : Desktop :=
  d.changeWindow w (·.setStyle style)

/-! ## What is recorded -/

/-- Puts an icon into one of a window's slots. -/
def setIcon (d : Desktop) (w : WindowHandle) (slot : IconClass) (icon : IconHandle) : Desktop :=
  { d.changeWindow w (·.setIcon icon slot) with assignments := d.assignments ++ [⟨w, slot, icon⟩] }

/-- Notes that icons were asked for. -/
def noteExtraction (d : Desktop) (path : FilePath) : Desktop :=
  { d with extractions := d.extractions ++ [path] }

/-- Notes that a taskbar entry was flashed. -/
def flash (d : Desktop) (w : WindowHandle) (count : UInt32) : Desktop :=
  { d with flashes := d.flashes ++ [⟨w, count⟩] }

/-- Notes that a state was sent to a progress bar. -/
def setProgress (d : Desktop) (bar : WindowHandle) (state : ProgressState) : Desktop :=
  { d with progress := d.progress ++ [⟨bar, state⟩] }

end Desktop

end WindowDecor
