import Mathlib.Logic.Basic
import WindowDecor.Proofs.Centering.Placement

/-!
# Rectangles on a translated screen

Where the origin of the coordinates lies should make no difference.  Here that is said of single
rectangles: translating them carries along midpoints, centered origins and new far edges, and leaves
lengths as they are.

* `Interval.Shiftable`, `Rect.Shiftable` — the translated edges are coordinates again.  The amount of
  the translation need not be one itself.
* `Interval.length_shift`, `Interval.midpoint_shift`, `Interval.contains_shift` — what is measured
  between the edges of an interval.
* `Interval.centeredStart_shift`, `Interval.ofStart_shift` — what is clamped, as far as nothing has
  to be.
* **`Rect.moveTo_shift`**, **`Rect.resize_shift`** — the same for rectangles.

It comes down to `Interval.freeStart_shift`: **what is halved is a difference**, so rounding it
toward zero is not rounding toward the origin.
-/

namespace WindowDecor

/-! ## One axis -/

/-- The coordinate that is `n` farther on. -/
def shiftCoordinate (c : Int32) (n : Int) : Int32 := Int32.ofInt (c.toInt + n)

/-- Where the sum is a coordinate, a translated coordinate is the sum. -/
theorem toInt_shiftCoordinate {c : Int32} {n : Int} (h : IsCoordinate (c.toInt + n)) :
    (shiftCoordinate c n).toInt = c.toInt + n := by
  unfold IsCoordinate at h
  exact Int32.toInt_ofInt_of_le (by omega) (by omega)

namespace Interval

/-- The interval `n` farther on. -/
def shift (i : Interval) (n : Int) : Interval := ⟨shiftCoordinate i.near n, shiftCoordinate i.far n⟩

/-- Both edges of the interval have a coordinate `n` farther on. -/
def Shiftable (i : Interval) (n : Int) : Prop :=
  IsCoordinate (i.near.toInt + n) ∧ IsCoordinate (i.far.toInt + n)

instance (i : Interval) (n : Int) : Decidable (i.Shiftable n) :=
  inferInstanceAs (Decidable (_ ∧ _))

variable {i : Interval} {n : Int}

/-- The near edge moves by the offset. -/
theorem toInt_near_shift (h : i.Shiftable n) : (i.shift n).near.toInt = i.near.toInt + n :=
  toInt_shiftCoordinate h.1

theorem toInt_far_shift (h : i.Shiftable n) : (i.shift n).far.toInt = i.far.toInt + n :=
  toInt_shiftCoordinate h.2

/-- **Lengths stay.** -/
theorem length_shift (h : i.Shiftable n) : (i.shift n).length = i.length := by
  have hdiff : (i.shift n).far.toInt - (i.shift n).near.toInt = i.far.toInt - i.near.toInt := by
    rw [toInt_near_shift h, toInt_far_shift h]
    omega
  rw [← Int32.toInt_inj, toInt_length, toInt_length, hdiff]

/-- The midpoint is between the edges. -/
theorem isCoordinate_midpoint (h : i.Shiftable n) : IsCoordinate (i.midpoint.toInt + n) := by
  have hhalf := two_mul_tdiv_two (i.far.toInt - i.near.toInt)
  obtain ⟨hnear, hfar⟩ := h
  unfold IsCoordinate at hnear hfar ⊢
  rw [toInt_midpoint]
  omega

/-- The middle is translated with the edges. -/
theorem midpoint_shift (h : i.Shiftable n) : (i.shift n).midpoint = shiftCoordinate i.midpoint n := by
  have hdiff : (i.shift n).far.toInt - (i.shift n).near.toInt = i.far.toInt - i.near.toInt := by
    rw [toInt_near_shift h, toInt_far_shift h]
    omega
  rw [← Int32.toInt_inj, toInt_shiftCoordinate (isCoordinate_midpoint h), toInt_midpoint, hdiff,
    toInt_near_shift h, toInt_midpoint]
  omega

/-- A translated coordinate lies in the translated interval just when it did before. -/
theorem contains_shift (h : i.Shiftable n) {c : Int32} (hc : IsCoordinate (c.toInt + n)) :
    (i.shift n).Contains (shiftCoordinate c n) ↔ i.Contains c := by
  unfold Contains
  rw [Int32.le_iff_toInt_le, Int32.lt_iff_toInt_lt, Int32.le_iff_toInt_le, Int32.lt_iff_toInt_lt,
    toInt_near_shift h, toInt_far_shift h, toInt_shiftCoordinate hc]
  omega

/-- **The space that is halved is a difference**, which a translation does not change. -/
theorem freeStart_shift (h : i.Shiftable n) (extent : Int32) :
    (i.shift n).freeStart extent = i.freeStart extent + n := by
  have hspace : (i.shift n).far.toInt - (i.shift n).near.toInt - extent.toInt =
      i.far.toInt - i.near.toInt - extent.toInt := by
    rw [toInt_near_shift h, toInt_far_shift h]
    omega
  rw [freeStart, freeStart, hspace, toInt_near_shift h]
  omega

/-- Without clamping, the start is the one of free space on both sides. -/
theorem toInt_centeredStart_of_fits {extent : Int32} (h : IsCoordinate (i.freeStart extent)) :
    (i.centeredStart extent).toInt = i.freeStart extent := by
  rw [toInt_centeredStart]
  exact clampInt_eq_self h

/-- Where neither start is clamped, one is the other translated. -/
theorem centeredStart_shift (h : i.Shiftable n) {extent : Int32}
    (hfits : IsCoordinate (i.freeStart extent))
    (hfits' : IsCoordinate ((i.shift n).freeStart extent)) :
    IsCoordinate ((i.centeredStart extent).toInt + n) ∧
      (i.shift n).centeredStart extent = shiftCoordinate (i.centeredStart extent) n := by
  have hstart : IsCoordinate ((i.centeredStart extent).toInt + n) := by
    rw [toInt_centeredStart_of_fits hfits, ← freeStart_shift h]
    exact hfits'
  refine ⟨hstart, ?_⟩
  rw [← Int32.toInt_inj, toInt_shiftCoordinate hstart, toInt_centeredStart_of_fits hfits,
    toInt_centeredStart_of_fits hfits', freeStart_shift h]

/-- Where neither far edge saturates, one is the other translated. -/
theorem ofStart_shift {start length : Int32} (hstart : IsCoordinate (start.toInt + n))
    (hend : IsCoordinate (start.toInt + length.toInt))
    (hend' : IsCoordinate ((shiftCoordinate start n).toInt + length.toInt)) :
    (ofStart start length).Shiftable n ∧
      ofStart (shiftCoordinate start n) length = (ofStart start length).shift n := by
  have hfar : (ofStart start length).far.toInt = start.toInt + length.toInt := by
    rw [toInt_far_ofStart, clampInt_eq_self hend]
  have hfar' : (ofStart (shiftCoordinate start n) length).far.toInt =
      start.toInt + n + length.toInt := by
    rw [toInt_far_ofStart, clampInt_eq_self hend', toInt_shiftCoordinate hstart]
  have hshiftable : (ofStart start length).Shiftable n := by
    refine ⟨hstart, ?_⟩
    have hrange : IsCoordinate (ofStart (shiftCoordinate start n) length).far.toInt :=
      toInt_mem_range _
    rw [hfar'] at hrange
    rwa [hfar, Int.add_right_comm]
  refine ⟨hshiftable, ?_⟩
  have hsame : (ofStart (shiftCoordinate start n) length).far =
      ((ofStart start length).shift n).far := by
    rw [← Int32.toInt_inj, hfar', toInt_far_shift hshiftable, hfar]
    omega
  exact congrArg (Interval.mk (shiftCoordinate start n)) hsame

end Interval

/-! ## Both axes -/

/-- A translation of the screen. -/
structure Offset where
  x : Int
  y : Int

namespace Point

/-- A point, translated. -/
def shift (p : Point) (o : Offset) : Point := ⟨shiftCoordinate p.x o.x, shiftCoordinate p.y o.y⟩

/-- Both coordinates stay coordinates. -/
def Shiftable (p : Point) (o : Offset) : Prop :=
  IsCoordinate (p.x.toInt + o.x) ∧ IsCoordinate (p.y.toInt + o.y)

/-- Something of the given size can start here without saturating its far edges. -/
def FarFits (p : Point) (width height : Int32) : Prop :=
  IsCoordinate (p.x.toInt + width.toInt) ∧ IsCoordinate (p.y.toInt + height.toInt)

instance (p : Point) (width height : Int32) : Decidable (p.FarFits width height) :=
  inferInstanceAs (Decidable (_ ∧ _))

end Point

namespace Rect

/-- A rectangle, translated. -/
def shift (r : Rect) (o : Offset) : Rect := ⟨r.horizontal.shift o.x, r.vertical.shift o.y⟩

/-- All four edges stay coordinates. -/
def Shiftable (r : Rect) (o : Offset) : Prop :=
  r.horizontal.Shiftable o.x ∧ r.vertical.Shiftable o.y

instance (r : Rect) (o : Offset) : Decidable (r.Shiftable o) := inferInstanceAs (Decidable (_ ∧ _))

/-- A box of the given size can be centered here without clamping its origin. -/
def OriginFits (area : Rect) (width height : Int32) : Prop :=
  IsCoordinate (area.horizontal.freeStart width) ∧ IsCoordinate (area.vertical.freeStart height)

instance (area : Rect) (width height : Int32) : Decidable (area.OriginFits width height) :=
  inferInstanceAs (Decidable (_ ∧ _))

variable {r : Rect} {o : Offset}

theorem width_shift (h : r.Shiftable o) : (r.shift o).width = r.width := Interval.length_shift h.1

theorem height_shift (h : r.Shiftable o) : (r.shift o).height = r.height := Interval.length_shift h.2

/-- The center is translated with the rectangle. -/
theorem center_shift (h : r.Shiftable o) :
    r.center.Shiftable o ∧ (r.shift o).center = r.center.shift o := by
  refine ⟨⟨Interval.isCoordinate_midpoint h.1, Interval.isCoordinate_midpoint h.2⟩, ?_⟩
  exact congrArg₂ Point.mk (Interval.midpoint_shift h.1) (Interval.midpoint_shift h.2)

theorem contains_shift (h : r.Shiftable o) {p : Point} (hp : p.Shiftable o) :
    (r.shift o).Contains (p.shift o) ↔ r.Contains p :=
  and_congr (Interval.contains_shift h.1 hp.1) (Interval.contains_shift h.2 hp.2)

/-- **Centering commutes with translation** where the origin is not clamped. -/
theorem centeredOrigin_shift (h : r.Shiftable o) {width height : Int32}
    (hfits : r.OriginFits width height) (hfits' : (r.shift o).OriginFits width height) :
    (r.centeredOrigin width height).Shiftable o ∧
      (r.shift o).centeredOrigin width height = (r.centeredOrigin width height).shift o := by
  obtain ⟨hx, hx'⟩ := Interval.centeredStart_shift h.1 hfits.1 hfits'.1
  obtain ⟨hy, hy'⟩ := Interval.centeredStart_shift h.2 hfits.2 hfits'.2
  exact ⟨⟨hx, hy⟩, congrArg₂ Point.mk hx' hy'⟩

/-- A rectangle at a translated origin is the translated rectangle. -/
theorem ofOriginSize_shift {p : Point} {width height : Int32} (hp : p.Shiftable o)
    (hfits : p.FarFits width height) (hfits' : (p.shift o).FarFits width height) :
    (ofOriginSize p width height).Shiftable o ∧
      ofOriginSize (p.shift o) width height = (ofOriginSize p width height).shift o := by
  obtain ⟨hx, hx'⟩ := Interval.ofStart_shift hp.1 hfits.1 hfits'.1
  obtain ⟨hy, hy'⟩ := Interval.ofStart_shift hp.2 hfits.2 hfits'.2
  exact ⟨⟨hx, hy⟩, congrArg₂ Rect.mk hx' hy'⟩

/-- **Moving to a translated origin is moving and translating**, where nothing saturates. -/
theorem moveTo_shift (h : r.Shiftable o) {p : Point} (hp : p.Shiftable o)
    (hfits : p.FarFits r.width r.height)
    (hfits' : (p.shift o).FarFits (r.shift o).width (r.shift o).height) :
    (r.moveTo p).Shiftable o ∧ (r.shift o).moveTo (p.shift o) = (r.moveTo p).shift o := by
  rw [width_shift h, height_shift h] at hfits'
  have hmoved := ofOriginSize_shift hp hfits hfits'
  rwa [moveTo, moveTo, width_shift h, height_shift h]

/-- **Resizing a translated rectangle is resizing and translating it**, where nothing saturates. -/
theorem resize_shift (h : r.Shiftable o) {width height : Int32}
    (hfits : r.origin.FarFits width height)
    (hfits' : (r.shift o).origin.FarFits width height) :
    (r.resize width height).Shiftable o ∧
      (r.shift o).resize width height = (r.resize width height).shift o :=
  ofOriginSize_shift ⟨h.1.1, h.2.1⟩ hfits hfits'

end Rect

end WindowDecor
