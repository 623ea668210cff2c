import WindowDecor.Geometry.Rect
import WindowDecor.Window.Failure
import WindowDecor.Window.Handle
import WindowDecor.Window.Progress
import WindowDecor.Window.Style
import WindowDecor.Icon
import WindowDecor.FilePath

/-!
# What a window manager offers

`WindowManager σ` says what can be asked of a window manager whose state is `σ`.  Nothing is assumed
about the answers: each call may change the state in any way, so two equal questions may be answered
differently.  Whatever is written over this interface is therefore known to make its calls in a
certain order, and nothing more.

A call that can fail says so in its type.  The others never fail: on a window that does not exist
they have no effect on any window.
-/

namespace WindowDecor

/-- The calls of a window manager with state `σ`. -/
class WindowManager (σ : Type) where
  /-- The monitor that a window is on, or else the primary one. -/
  monitorOf : WindowHandle → StateM σ (Option MonitorHandle)
  /-- The part of a monitor that is not covered by taskbars. -/
  workArea : MonitorHandle → StateM σ (Except CallFailure Rect)
  /-- A window's bounds. -/
  bounds : WindowHandle → StateM σ (Except CallFailure Rect)
  /-- Moves a window and keeps its size. -/
  move : WindowHandle → Point → StateM σ Unit
  /-- Resizes a window and keeps its origin. -/
  resize : WindowHandle → (width height : Int32) → StateM σ Unit
  /-- Flashes a window's taskbar entry a number of times. -/
  flash : WindowHandle → UInt32 → StateM σ Unit
  /-- Takes the first icon pair out of a file. -/
  extractIcons : FilePath → StateM σ ExtractedIcons
  /-- Puts an icon into one of a window's slots. -/
  setIcon : WindowHandle → IconClass → IconHandle → StateM σ Unit
  /-- A window's style. -/
  style : WindowHandle → StateM σ WindowStyle
  /-- Gives a window another style. -/
  setStyle : WindowHandle → WindowStyle → StateM σ Unit
  /-- Sends a state to a progress bar. -/
  setProgress : WindowHandle → ProgressState → StateM σ Unit

end WindowDecor
