/-!
# States of a progress bar

A progress bar is told its state by a message that carries a number.  Three states are named; any
other number is passed on as it is.
-/

namespace WindowDecor

/-- The state of a progress bar. -/
structure ProgressState where
  raw : Int32
  deriving DecidableEq

namespace ProgressState

/-- Progress is being made. -/
def normal : ProgressState := ⟨1⟩
/-- Progress has stopped at an error. -/
def error : ProgressState := ⟨2⟩
/-- Progress is paused. -/
def paused : ProgressState := ⟨3⟩

/-- The number of the message that sets a progress bar's state. -/
def setStateMessage : UInt32 := 0x0410

end ProgressState

end WindowDecor
