import WindowDecor.Text.Numeral

/-!
# Window and monitor handles

A handle is the number by which the window manager knows a window or a monitor.  It is a signed
64-bit word, owns nothing, and may be stale: the window it named may be gone, or never have been
there.

`WindowHandle.describe` is how a handle is written in diagnostics: the two's complement word in
hexadecimal, so that negative handles are told apart from positive ones.  `WindowHandle.describeAs`
is the same for diagnostics that ask for one of the two forms of a text.
-/

namespace WindowDecor

/-- A window's number. -/
structure WindowHandle where
  raw : Int64
  deriving DecidableEq

/-- A monitor's number. -/
structure MonitorHandle where
  raw : Int64
  deriving DecidableEq

namespace WindowHandle

/-- The null handle names no window. -/
def isNull (h : WindowHandle) : Bool := h.raw == 0

/-- The handle's text in diagnostics that ask for it in the form `_form`.  They do not get to decide
on the form of the number in it, which is always marked as hexadecimal. -/
def describeAs (_form : TextForm) (h : WindowHandle) : String :=
  "WindowHandle(" ++ Numeral.hexAs .alternate h.raw.toUInt64.toNat ++ ")"

/-- The handle's text in diagnostics. -/
def describe (h : WindowHandle) : String := h.describeAs .plain

end WindowHandle

end WindowDecor
