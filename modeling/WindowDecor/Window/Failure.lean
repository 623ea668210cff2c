/-!
# Failures of the window manager, and of centering

* `CallFailure` — a call to the window manager that failed, and what it said.
* `CenteringError` — the stage at which centering a window failed, with the failed call where there
  was one; `CenteringError.code` numbers the stages.
* `CenteringError.compare` — **the order of errors**: by stage, then by call, then by message, texts
  byte by byte in UTF-8.
* `CenteringError.sortWithPositions` — a stable ascending sort that tells where each error was.
-/

namespace WindowDecor

/-- The order of texts by the bytes of their UTF-8 form. -/
def compareBytes (a b : String) : Ordering :=
  compareOfLessAndEq (a.toList.flatMap String.utf8EncodeChar) (b.toList.flatMap String.utf8EncodeChar)

/-- A call to the window manager that failed. -/
structure CallFailure where
  call : String
  message : String
  deriving DecidableEq

namespace CallFailure

/-- The failure in words. -/
def describe (f : CallFailure) : String := f.call ++ " failed: " ++ f.message

/-- By call, then by message. -/
def compare (a b : CallFailure) : Ordering :=
  (compareBytes a.call b.call).then (compareBytes a.message b.message)

end CallFailure

/-- Why a window could not be centered. -/
inductive CenteringError where
  /-- No monitor was found for the window, not even the primary one. -/
  | monitorLookup
  /-- The monitor's work area could not be read. -/
  | monitorInfo (cause : CallFailure)
  /-- The window's bounds could not be read. -/
  | windowBounds (cause : CallFailure)
  deriving DecidableEq

namespace CenteringError

/-- The number of the stage that failed. -/
def code : CenteringError → Nat
  | .monitorLookup => 1
  | .monitorInfo _ => 2
  | .windowBounds _ => 3

/-- The call that failed, if one did. -/
def cause? : CenteringError → Option CallFailure
  | .monitorLookup => none
  | .monitorInfo cause => some cause
  | .windowBounds cause => some cause

/-- What is said about a centering that failed. -/
def describe : CenteringError → String
  | .monitorLookup => "getting monitor from window failed"
  | .monitorInfo cause => "getting monitor info failed: " ++ cause.describe
  | .windowBounds cause => "getting window rect failed: " ++ cause.describe

/-- By stage, and within a stage by the failed call. -/
def compare : CenteringError → CenteringError → Ordering
  | .monitorInfo a, .monitorInfo b => a.compare b
  | .windowBounds a, .windowBounds b => a.compare b
  | a, b => compareOfLessAndEq a.code b.code

/-- `a` comes no later than `b`. -/
def le (a b : CenteringError) : Bool := a.compare b != .gt

/-- Errors in ascending order, each with its position in the list; equal ones keep their order. -/
def sortWithPositions (errors : List CenteringError) : List (CenteringError × Nat) :=
  errors.zipIdx.mergeSort fun a b => le a.1 b.1

/-- Errors in ascending order. -/
def sort (errors : List CenteringError) : List CenteringError :=
  (sortWithPositions errors).map (·.1)

end CenteringError

/-- The status of an attempt to center: zero if it succeeded, else the number of the stage that
failed. -/
def centeringStatus : Except CenteringError Unit → Nat
  | .ok () => 0
  | .error e => e.code

end WindowDecor
