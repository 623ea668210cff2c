import WindowDecor.Decorator.Reporting
import WindowDecor.Desktop.Manager

/-!
# Adapters and what can be asked of them

An adapter is a decorator as it is used in a session: a plain one, which hands its failures back, or
a reporting one, which logs them.  `Adapter.perform` carries out one `DecoratorAction`, over an
arbitrary window manager.

Most actions mean the same for both kinds.  Centering is logged, and icons are loaded on first use,
only by a reporting adapter; `plainCenter` and `plainApplyIcons` reach the plain operation in both.
Loading from a given file is for plain adapters; loading one's own icons and preparing a window are
for reporting ones.
-/

namespace WindowDecor

/-- What becomes of a decorator's failures. -/
inductive AdapterKind where
  /-- They are handed back. -/
  | plain
  /-- They are logged. -/
  | reporting
  deriving DecidableEq

/-- A decorator in use. -/
structure Adapter where
  kind : AdapterKind
  decorator : Decorator
  deriving DecidableEq

/-- Something that is asked of an adapter. -/
inductive DecoratorAction where
  | width (w : WindowHandle)
  | height (w : WindowHandle)
  | resize (w : WindowHandle) (width height : Int32)
  | flash (w : WindowHandle)
  | setProgress (bar : WindowHandle) (state : ProgressState)
  | center (w : WindowHandle)
  | plainCenter (w : WindowHandle)
  | fixStyle (w : WindowHandle)
  | applyIcons (w : WindowHandle)
  | plainApplyIcons (w : WindowHandle)
  | loadIconsFrom (path : FilePath)
  | loadOwnIcons
  | prepare (w : WindowHandle)
  deriving DecidableEq

/-- The answer to an action. -/
inductive ActionResult where
  | done
  | size (value : Int32)
  | count (value : UInt32)
  | centering (outcome : Except CenteringError Unit)
  /-- Adapters of this kind do not do that. -/
  | notOffered

namespace Adapter

variable {σ : Type} [WindowManager σ]

/-- An adapter whose decorator has loaded no icons. -/
def new (kind : AdapterKind) (settings : Settings) : Adapter := ⟨kind, .new settings⟩

/-- Carries out an action; gives back the adapter, the answer and the events that were logged. -/
def perform (a : Adapter) (program : ProgramFile) :
    DecoratorAction → StateM σ (Adapter × ActionResult × List LogEvent)
  | .width w => do
      let value ← a.decorator.width w
      return (a, .size value, [])
  | .height w => do
      let value ← a.decorator.height w
      return (a, .size value, [])
  | .resize w width height => do
      WindowManager.resize w width height
      return (a, .done, [])
  | .flash w => do
      a.decorator.flash w
      return (a, .done, [])
  | .setProgress bar state => do
      WindowManager.setProgress bar state
      return (a, .done, [])
  | .center w =>
      match a.kind with
      | .plain => do
          let outcome ← center w
          return (a, .centering outcome, [])
      | .reporting => do
          let events ← centerReporting w
          return (a, .done, events)
  | .plainCenter w => do
      let outcome ← center w
      return (a, .centering outcome, [])
  | .fixStyle w => do
      removeResizeAffordances w
      return (a, .done, [])
  | .applyIcons w =>
      match a.kind with
      | .plain => do
          a.decorator.applyIcons w
          return (a, .done, [])
      | .reporting => do
          let (decorator, events) ← a.decorator.applyOwnIcons program w
          return ({ a with decorator }, .done, events)
  | .plainApplyIcons w => do
      a.decorator.applyIcons w
      return (a, .done, [])
  | .loadIconsFrom path =>
      match a.kind with
      | .plain => do
          let (decorator, count) ← a.decorator.loadIcons path
          return ({ a with decorator }, .count count, [])
      | .reporting => return (a, .notOffered, [])
  | .loadOwnIcons =>
      match a.kind with
      | .plain => return (a, .notOffered, [])
      | .reporting => do
          let (decorator, count, events) ← a.decorator.loadOwnIcons program
          return ({ a with decorator }, .count count, events)
  | .prepare w =>
      match a.kind with
      | .plain => return (a, .notOffered, [])
      | .reporting => do
          let (decorator, events) ← a.decorator.prepare program w
          return ({ a with decorator }, .done, events)

end Adapter

end WindowDecor
