import WindowDecor.Session.Action
import WindowDecor.Settings.Toml

/-!
# Sessions

A session is a desktop with any number of adapters on it, in a program whose file is known or not.
`Session.step` carries out one `Step`, and `Session.run` a list of them.

Steps come in three groups: what is done to the desktop directly (`DesktopAction`), making adapters,
and what is asked of an adapter.  A step that refers to an adapter that does not exist changes
nothing.
-/

namespace WindowDecor

/-- Something that is done to the desktop without an adapter. -/
inductive DesktopAction where
  | addMonitor (geometry workArea : Rect)
  | addWindow (bounds : Rect) (style : WindowStyle)
  | destroyWindow (w : WindowHandle)
  | failWindowBounds (w : WindowHandle)
  | failMonitorInfo (m : MonitorHandle)
  | addIcons (path : FilePath) (icons : ExtractedIcons)
  | monitorOf (w : WindowHandle)
  | workArea (m : MonitorHandle)
  | bounds (w : WindowHandle)
  | move (w : WindowHandle) (origin : Point)
  | resize (w : WindowHandle) (width height : Int32)
  | flash (w : WindowHandle) (count : UInt32)
  | extractIcons (path : FilePath)
  | setIcon (w : WindowHandle) (slot : IconClass) (icon : IconHandle)
  | style (w : WindowHandle)
  | setStyle (w : WindowHandle) (style : WindowStyle)
  | setProgress (bar : WindowHandle) (state : ProgressState)
  deriving DecidableEq

/-- The answer to something that is done to the desktop. -/
inductive DesktopResult where
  | done
  | window (handle : WindowHandle)
  | monitor (handle : Option MonitorHandle)
  | rect (outcome : Except CallFailure Rect)
  | icons (extracted : ExtractedIcons)
  | style (value : WindowStyle)

namespace Desktop

/-- Carries out an action on the desktop. -/
def perform (d : Desktop) : DesktopAction → Desktop × DesktopResult
  | .addMonitor geometry workArea =>
      let (handle, d) := d.addMonitor geometry workArea
      (d, .monitor (some handle))
  | .addWindow bounds style =>
      let (handle, d) := d.addWindow bounds style
      (d, .window handle)
  | .destroyWindow w => (d.destroyWindow w, .done)
  | .failWindowBounds w => (d.failWindowBounds w, .done)
  | .failMonitorInfo m => (d.failMonitorInfo m, .done)
  | .addIcons path icons => (d.addIcons path icons, .done)
  | .monitorOf w => (d, .monitor (d.monitorOf? w))
  | .workArea m => (d, .rect (d.workArea m))
  | .bounds w => (d, .rect (d.bounds w))
  | .move w origin => (d.move w origin, .done)
  | .resize w width height => (d.resize w width height, .done)
  | .flash w count => (d.flash w count, .done)
  | .extractIcons path => (d.noteExtraction path, .icons (d.iconsAt path))
  | .setIcon w slot icon => (d.setIcon w slot icon, .done)
  | .style w => (d, .style (d.style w))
  | .setStyle w style => (d.setStyle w style, .done)
  | .setProgress bar state => (d.setProgress bar state, .done)

end Desktop

/-- One step of a session. -/
inductive Step where
  | desktop (action : DesktopAction)
  /-- Makes an adapter, if there are settings for it. -/
  | newAdapter (kind : AdapterKind) (settings : Except SettingsError Settings)
  | adapter (index : Nat) (action : DecoratorAction)
  /-- Asks for an adapter's settings. -/
  | settings (index : Nat)
  /-- Asks for the icons that an adapter has at hand. -/
  | icons (index : Nat)
  /-- Asks for a window of the desktop that an adapter works on. -/
  | window (index : Nat) (w : WindowHandle)

/-- The answer to a step. -/
inductive StepResult where
  | desktop (result : DesktopResult)
  | adapterMade (index : Nat)
  | adapterRefused (error : SettingsError)
  | noAdapter
  | action (result : ActionResult)
  | settings (value : Settings)
  | icons (value : IconCache)
  | window (value : Option Window)

/-- What a step comes to. -/
structure Outcome where
  result : StepResult
  events : List LogEvent := []

/-- A desktop and the adapters on it. -/
structure Session where
  program : ProgramFile
  desktop : Desktop
  /-- In the order in which they were made. -/
  adapters : List Adapter

namespace Session

/-- An empty desktop and no adapters. -/
def new (program : ProgramFile) : Session := ⟨program, .empty, []⟩

/-- Answers a question about an adapter. -/
def ask (s : Session) (index : Nat) (answer : Adapter → StepResult) : Session × Outcome :=
  (s, { result := (s.adapters[index]?.map answer).getD .noAdapter })

/-- Carries out one step. -/
def step (s : Session) : Step → Session × Outcome
  | .desktop action =>
      let (desktop, result) := s.desktop.perform action
      ({ s with desktop }, { result := .desktop result })
  | .newAdapter _ (.error e) => (s, { result := .adapterRefused e })
  | .newAdapter kind (.ok settings) =>
      ({ s with adapters := s.adapters ++ [.new kind settings] },
        { result := .adapterMade s.adapters.length })
  | .adapter index action =>
      match s.adapters[index]? with
      | none => (s, { result := .noAdapter })
      | some a =>
          let ((a, result, events), desktop) := a.perform s.program action s.desktop
          ({ s with desktop, adapters := s.adapters.set index a },
            { result := .action result, events })
  | .settings index => s.ask index fun a => .settings a.decorator.settings
  | .icons index => s.ask index fun a => .icons a.decorator.icons
  | .window index w => s.ask index fun _ => .window (s.desktop.window? w)

/-- Carries out steps one after the other. -/
def run (s : Session) : List Step → Session × List Outcome
  | [] => (s, [])
  | step :: steps =>
      let (s, outcome) := s.step step
      let (s, outcomes) := s.run steps
      (s, outcome :: outcomes)

end Session

end WindowDecor
