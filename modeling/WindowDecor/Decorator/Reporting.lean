import WindowDecor.Decorator.Basic
import WindowDecor.Decorator.LogEvent
import WindowDecor.SystemError

/-!
# Decorators that report

A reporting decorator is for a program that cannot do anything about a failure: instead of handing
failures back it logs them and carries on.  It also finds its icons by itself, on first use, in the
file that its settings name or else in the running program's.

* `ProgramFile` — the running program's file, or the reason why it is not known.
* `Decorator.iconSource` — where icons come from.
* `Decorator.loadOwnIcons` — **each load is one event**, whether it finds icons or not; not knowing
  where to look counts as a load without icons and is not tried again.
* `Decorator.prepare` — icon, frame and position, each whatever becomes of the others.

Operations give back the decorator, with whatever it now keeps, and the events in order.
-/

namespace WindowDecor

/-- The running program's file, or why it cannot be told. -/
abbrev ProgramFile := Except String FilePath

/-- The running program's file, from what the operating system says of it.  It is looked for under
the process's own directory, so if it is not found that directory is missing. -/
def ProgramFile.ofSystem : Except SystemError FilePath → ProgramFile
  | .ok path => .ok path
  | .error .notFound => .error "no /proc/self/exe available. Is /proc mounted?"
  | .error error => .error error.message

variable {σ : Type} [WindowManager σ]

/-- Centers a window; a failure becomes an event. -/
def centerReporting (w : WindowHandle) : StateM σ (List LogEvent) := do
  match ← center w with
  | .ok () => return []
  | .error e => return [.notCentered w e]

namespace Decorator

/-- Where icons come from: the file that the settings name, or else the running program's. -/
def iconSource (d : Decorator) (program : ProgramFile) : ProgramFile :=
  match d.settings.iconSource with
  | some path => .ok path
  | none => program

/-- Loads icons from wherever they come from; tells how many were found. -/
def loadOwnIcons (d : Decorator) (program : ProgramFile) :
    StateM σ (Decorator × UInt32 × List LogEvent) := do
  match d.iconSource program with
  | .error reason => return (d.giveUpIcons, 0, [.programUnknown reason])
  | .ok source =>
    let (d, count) ← d.loadIcons source
    return (d, count, [.iconsLoaded source count])

/-- Puts the icons on a window, and loads them first if that has not been tried yet. -/
def applyOwnIcons (d : Decorator) (program : ProgramFile) (w : WindowHandle) :
    StateM σ (Decorator × List LogEvent) := do
  if d.icons.isLoaded then
    d.applyIcons w
    return (d, [])
  else
    let (d, _, events) ← d.loadOwnIcons program
    d.applyIcons w
    return (d, events)

/-- Gives a new window its icons, a frame of fixed size and a centered position. -/
def prepare (d : Decorator) (program : ProgramFile) (w : WindowHandle) :
    StateM σ (Decorator × List LogEvent) := do
  let (d, iconEvents) ← d.applyOwnIcons program w
  removeResizeAffordances w
  let centerEvents ← centerReporting w
  return (d, iconEvents ++ centerEvents)

end Decorator

end WindowDecor
