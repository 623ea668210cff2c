import WindowDecor.WindowManager
import WindowDecor.Settings.Basic

/-!
# Decorating windows

A decorator works on windows that somebody else owns: it centers and sizes them, gives them icons
and a fixed frame, and flashes their taskbar entries.  It keeps its settings and the icons of its
latest load, and everything else is the window manager's.

Every operation is written over an arbitrary `WindowManager`.

* `center` — three readings and then at most one move.  The first reading that fails ends the
  attempt, and the window stays where it is.
* `removeResizeAffordances` — reads the style and writes it back without two bits.
* `Decorator.width`, `Decorator.height` — what is read, or the setting to fall back to.
* `Decorator.loadIcons`, `Decorator.applyIcons` — filling the icon cache, and putting its icons on a
  window.
-/

namespace WindowDecor

/-- The settings and the icons that a decorator works with. -/
structure Decorator where
  settings : Settings
  icons : IconCache
  deriving DecidableEq

variable {σ : Type} [WindowManager σ]

/-- Centers a window in the work area of the monitor it is on. -/
def center (w : WindowHandle) : StateM σ (Except CenteringError Unit) := do
  match ← WindowManager.monitorOf w with
  | none => return .error .monitorLookup
  | some monitor =>
    match ← WindowManager.workArea monitor with
    | .error cause => return .error (.monitorInfo cause)
    | .ok area =>
      match ← WindowManager.bounds w with
      | .error cause => return .error (.windowBounds cause)
      | .ok bounds =>
        WindowManager.move w (area.centeredOrigin bounds.width bounds.height)
        return .ok ()

/-- Takes the sizing border and the maximize button away from a window. -/
def removeResizeAffordances (w : WindowHandle) : StateM σ Unit := do
  let style ← WindowManager.style w
  WindowManager.setStyle w style.withoutResizeAffordances

/-- Puts icons into a window's slots, one after the other. -/
def setIcons (w : WindowHandle) : List (IconClass × IconHandle) → StateM σ Unit
  | [] => pure ()
  | (slot, icon) :: rest => do
      WindowManager.setIcon w slot icon
      setIcons w rest

namespace Decorator

/-- A decorator that has loaded no icons. -/
def new (settings : Settings) : Decorator := ⟨settings, .notLoaded⟩

/-- A window's width, or the one to fall back to if its bounds cannot be read. -/
def width (d : Decorator) (w : WindowHandle) : StateM σ Int32 := do
  match ← WindowManager.bounds w with
  | .ok bounds => return bounds.width
  | .error _ => return d.settings.fallbackWidth

/-- A window's height, or the one to fall back to if its bounds cannot be read. -/
def height (d : Decorator) (w : WindowHandle) : StateM σ Int32 := do
  match ← WindowManager.bounds w with
  | .ok bounds => return bounds.height
  | .error _ => return d.settings.fallbackHeight

/-- Flashes a window's taskbar entry as often as the settings say. -/
def flash (d : Decorator) (w : WindowHandle) : StateM σ Unit :=
  WindowManager.flash w d.settings.flashCount

/-- Takes the icons out of a file and keeps them in place of those kept before; tells how many were
found. -/
def loadIcons (d : Decorator) (path : FilePath) : StateM σ (Decorator × UInt32) := do
  let extracted ← WindowManager.extractIcons path
  return ({ d with icons := d.icons.store extracted.icons }, extracted.count)

/-- Keeps the empty pair, as a load without icons would, but without asking for any. -/
def giveUpIcons (d : Decorator) : Decorator := { d with icons := d.icons.store .empty }

/-- Puts the icons at hand on a window.  A missing icon leaves its slot alone. -/
def applyIcons (d : Decorator) (w : WindowHandle) : StateM σ Unit := setIcons w d.icons.assignments

end Decorator

end WindowDecor
