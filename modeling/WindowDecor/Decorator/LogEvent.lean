import WindowDecor.Window.Failure
import WindowDecor.Window.Handle
import WindowDecor.FilePath

/-!
# Log events

What a reporting decorator has to say is one of three things.  An event says which; its level, its
message and its further fields follow from that.
-/

namespace WindowDecor

/-- How much an event matters. -/
inductive LogLevel where
  | error
  | warn
  | debug
  deriving DecidableEq

/-- What an event tells besides its message, under the name that it has there. -/
inductive LogField where
  | window (text : String)
  | code (value : Nat)
  | err (text : String)
  | source (text : String)
  deriving DecidableEq

/-- Something worth telling. -/
inductive LogEvent where
  /-- A window could not be centered. -/
  | notCentered (window : WindowHandle) (error : CenteringError)
  /-- No icon source is set, and the running program's file is not known either. -/
  | programUnknown (reason : String)
  /-- Icons were taken out of a file. -/
  | iconsLoaded (source : FilePath) (count : UInt32)
  deriving DecidableEq

namespace LogEvent

/-- The part of the program that events are attributed to. -/
def decorationTarget : String := "launcher_chrome::chrome"

/-- The part of the program that speaks to the operating system. -/
def platformTarget : String := "launcher_chrome::win32"

/-- How many icons a load is expected to find. -/
def expectedIcons : UInt32 := 2

/-- One icon instead of two is worth a warning; any other unexpected number is an error. -/
def level : LogEvent → LogLevel
  | .notCentered _ _ => .error
  | .programUnknown _ => .error
  | .iconsLoaded _ count =>
      if count = expectedIcons then .debug else if count = 1 then .warn else .error

/-- What the entry says. -/
def message : LogEvent → String
  | .notCentered _ error => "could not center window: " ++ error.describe
  | .programUnknown _ => "could not determine launcher binary path"
  | .iconsLoaded _ count =>
      let expected := ", expected " ++ Numeral.decimal expectedIcons.toNat
      if count = 0 then "extracted no icons" ++ expected
      else if count = 1 then "extracted only one icon" ++ expected
      else
        let found := "extracted " ++ Numeral.decimal count.toNat ++ " icons"
        if count = expectedIcons then found else found ++ expected

/-- What the entry has besides its message, in the order in which it is written. -/
def fields : LogEvent → List LogField
  | .notCentered window error => [.window window.describe, .code error.code]
  | .programUnknown reason => [.err reason]
  | .iconsLoaded source _ => [.source source.text]

end LogEvent

end WindowDecor
