import WindowDecor.Geometry.Interval

/-!
# Screen rectangles

A rectangle is a horizontal and a vertical interval, and each of its operations is the operation of
the two intervals.  Rectangles carry window bounds, monitor geometries and work areas.

* `Rect.ofEdges`, `Rect.ofOriginSize` — from four edges, or from an origin and a size.
* `Rect.width`, `Rect.height`, `Rect.center`, `Rect.Contains`.
* `Rect.centeredOrigin` — the origin of a box centered in the rectangle.
* `Rect.moveTo`, `Rect.resize` — a new origin with the same size, a new size with the same origin.
-/

namespace WindowDecor

/-- A pixel position. -/
structure Point where
  x : Int32
  y : Int32
  deriving DecidableEq

/-- A rectangle with edges parallel to the screen's. -/
structure Rect where
  horizontal : Interval
  vertical : Interval
  deriving DecidableEq

namespace Rect

/-- The rectangle with the given edges. -/
def ofEdges (left top right bottom : Int32) : Rect := ⟨⟨left, right⟩, ⟨top, bottom⟩⟩

/-- The rectangle with the given corner and size; far edges saturate. -/
def ofOriginSize (origin : Point) (width height : Int32) : Rect :=
  ⟨.ofStart origin.x width, .ofStart origin.y height⟩

/-- The rectangle that has all four edges at zero. -/
def zero : Rect := ofEdges 0 0 0 0

/-- The near edge of the horizontal axis. -/
def left (r : Rect) : Int32 := r.horizontal.near
/-- The near edge of the vertical axis. -/
def top (r : Rect) : Int32 := r.vertical.near
/-- The far edge of the horizontal axis. -/
def right (r : Rect) : Int32 := r.horizontal.far
/-- The far edge of the vertical axis. -/
def bottom (r : Rect) : Int32 := r.vertical.far

/-- The corner at the near edges. -/
def origin (r : Rect) : Point := ⟨r.left, r.top⟩

/-- The length on the horizontal axis, which is negative where the edges are swapped. -/
def width (r : Rect) : Int32 := r.horizontal.length
/-- The length on the vertical axis, which is negative where the edges are swapped. -/
def height (r : Rect) : Int32 := r.vertical.length

/-- The middle of both axes. -/
def center (r : Rect) : Point := ⟨r.horizontal.midpoint, r.vertical.midpoint⟩

/-- The origin of a box of the given size that is centered in the rectangle. -/
def centeredOrigin (r : Rect) (width height : Int32) : Point :=
  ⟨r.horizontal.centeredStart width, r.vertical.centeredStart height⟩

/-- A point is in the rectangle when both of its coordinates are; the far edges are left out. -/
def Contains (r : Rect) (p : Point) : Prop := r.horizontal.Contains p.x ∧ r.vertical.Contains p.y

instance (r : Rect) (p : Point) : Decidable (r.Contains p) :=
  inferInstanceAs (Decidable (_ ∧ _))

/-- The same size at another origin. -/
def moveTo (r : Rect) (origin : Point) : Rect := ofOriginSize origin r.width r.height

/-- Another size at the same origin. -/
def resize (r : Rect) (width height : Int32) : Rect := ofOriginSize r.origin width height

end Rect

end WindowDecor
