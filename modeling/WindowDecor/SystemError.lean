import WindowDecor.Text.Numeral

/-!
# Errors of the operating system

The errors that reading a file, or looking for the running program's, can end with.  Each has a
number and a text, and is shown with both.
-/

namespace WindowDecor

/-- An error of the operating system. -/
inductive SystemError where
  | notFound
  | inputOutput
  | permissionDenied
  | notADirectory
  | isADirectory
  | tooManyLinks
  deriving DecidableEq

namespace SystemError

/-- The number by which the host knows the error. -/
def number : SystemError → Nat
  | .notFound => 2
  | .inputOutput => 5
  | .permissionDenied => 13
  | .notADirectory => 20
  | .isADirectory => 21
  | .tooManyLinks => 40

/-- What the host says about the error. -/
def text : SystemError → String
  | .notFound => "No such file or directory"
  | .inputOutput => "Input/output error"
  | .permissionDenied => "Permission denied"
  | .notADirectory => "Not a directory"
  | .isADirectory => "Is a directory"
  | .tooManyLinks => "Too many levels of symbolic links"

/-- The error in diagnostics: what the host says, and its number. -/
def message (e : SystemError) : String :=
  e.text ++ " (os error " ++ Numeral.decimal e.number ++ ")"

end SystemError

end WindowDecor
