/-!
# Window styles

A style is a word of independent bits.  Five of them have names here; the rest are carried along
untouched.

* `WindowStyle.overlapped` — the style of an ordinary top-level window.
* `WindowStyle.resizeAffordances` — what lets a user resize a window: its sizing border and its
  maximize button.
* `WindowStyle.withoutResizeAffordances` — clears those two bits and no others.
-/

namespace WindowDecor

/-- A word of style bits. -/
structure WindowStyle where
  bits : UInt32
  deriving DecidableEq

namespace WindowStyle

/-- No bits at all: the style that is read for a window that does not exist. -/
def none : WindowStyle := ⟨0⟩

/-- A title bar. -/
def caption : WindowStyle := ⟨0x00C00000⟩

/-- A system menu. -/
def systemMenu : WindowStyle := ⟨0x00080000⟩

/-- A sizing border. -/
def sizingBorder : WindowStyle := ⟨0x00040000⟩

/-- A minimize button. -/
def minimizeButton : WindowStyle := ⟨0x00020000⟩

/-- A maximize button. -/
def maximizeButton : WindowStyle := ⟨0x00010000⟩

/-- The bits of either style. -/
def union (a b : WindowStyle) : WindowStyle := ⟨a.bits ||| b.bits⟩

/-- The bits of both styles. -/
def inter (a b : WindowStyle) : WindowStyle := ⟨a.bits &&& b.bits⟩

/-- The bits that the style does not have. -/
def complement (a : WindowStyle) : WindowStyle := ⟨~~~ a.bits⟩

/-- The bits of the first style that the second does not have. -/
def without (a b : WindowStyle) : WindowStyle := a.inter b.complement

/-- Whether the first style has all bits of the second. -/
def contains (a b : WindowStyle) : Bool := a.inter b == b

/-- Whether the two styles share a bit. -/
def intersects (a b : WindowStyle) : Bool := a.inter b != none

/-- An ordinary top-level window: all five named parts. -/
def overlapped : WindowStyle :=
  (((caption.union systemMenu).union sizingBorder).union minimizeButton).union maximizeButton

/-- The bits by which a user can resize a window. -/
def resizeAffordances : WindowStyle := sizingBorder.union maximizeButton

/-- The same style with a fixed size. -/
def withoutResizeAffordances (a : WindowStyle) : WindowStyle := a.without resizeAffordances

end WindowStyle

end WindowDecor
