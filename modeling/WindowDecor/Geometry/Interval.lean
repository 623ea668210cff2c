import WindowDecor.Geometry.Saturation

/-!
# Intervals on one screen axis

Everything a rectangle does, it does on each axis separately, so sizes, centers and placements are
defined here once, for an interval between a near edge (left or top) and a far edge (right or
bottom).  The edges may come in any order: an interval whose far edge is before its near edge has a
negative length, and every operation below is defined for it.

* `Interval.length`, `Interval.ofStart` — length, and the interval with a given start and length;
  both saturate.
* `Interval.midpoint` — the middle coordinate.
* `Interval.centeredStart` — where something of a given extent starts when it is centered.
* `Interval.Contains` — membership, with the far edge left out.

**Halving truncates toward zero**, and it is always a *difference* of coordinates that is halved:
`midpoint` halves `far - near`, `centeredStart` halves `far - near - extent`.  Both are computed in
64 bits (`Interval.middleWord`, `Interval.startWord`), and `toInt_midpoint` and
`toInt_centeredStart` say that nothing is lost there: over the integers they are what they look
like.
-/

namespace WindowDecor

/-- A stretch of one screen axis. -/
structure Interval where
  near : Int32
  far : Int32
  deriving DecidableEq

namespace Interval

/-- The stretch from `start` on with the given length; the far edge saturates. -/
def ofStart (start length : Int32) : Interval := ⟨start, addSat start length⟩

/-- Far edge minus near edge, saturated. -/
def length (i : Interval) : Int32 := subSat i.far i.near

/-- The coordinate half way from the near to the far edge, rounded toward the near edge. -/
def midpoint (i : Interval) : Int32 :=
  (i.near.toInt64 + (i.far.toInt64 - i.near.toInt64) / 2).toInt32

/-- Where something of length `extent` starts when it is centered in the interval.  What does not
fit sticks out on both sides. -/
def centeredStart (i : Interval) (extent : Int32) : Int32 :=
  saturate (i.near.toInt64 + (i.far.toInt64 - i.near.toInt64 - extent.toInt64) / 2)

/-- The near edge belongs to the interval and the far edge does not. -/
def Contains (i : Interval) (x : Int32) : Prop := i.near ≤ x ∧ x < i.far

instance (i : Interval) (x : Int32) : Decidable (i.Contains x) :=
  inferInstanceAs (Decidable (_ ∧ _))

/-- The start is kept, whatever becomes of the far edge. -/
@[simp] theorem near_ofStart (start length : Int32) : (ofStart start length).near = start := rfl

end Interval

/-! ## Reading over the integers

Halving an integer toward zero is floor division where it is not negative; where it is, its negation
is halved that way.
-/

theorem tdiv_two_of_nonneg {n : Int} (h : 0 ≤ n) : n.tdiv 2 = n / 2 :=
  Int.tdiv_eq_ediv_of_nonneg h

theorem tdiv_two_of_nonpos {n : Int} (h : n ≤ 0) : n.tdiv 2 = -(-n / 2) := by
  have hneg := Int.neg_tdiv (-n) 2
  rw [Int.neg_neg] at hneg
  rw [hneg, Int.tdiv_eq_ediv_of_nonneg (by omega)]

/-- Half of a number is no farther from zero than the number. -/
theorem tdiv_two_mem_range {n b : Int} (hlo : -b ≤ n) (hhi : n ≤ b) :
    -b ≤ n.tdiv 2 ∧ n.tdiv 2 ≤ b := by
  rcases Int.le_total 0 n with h | h
  · rw [tdiv_two_of_nonneg h]
    omega
  · rw [tdiv_two_of_nonpos h]
    omega

/-- Halving 64-bit words is halving integers. -/
theorem toInt_div_two (v : Int64) : (v / 2).toInt = v.toInt.tdiv 2 := by
  have hlo := v.le_toInt
  have hhi := v.toInt_lt
  have htwo : (2 : Int64).toInt = 2 := by decide
  rw [Int64.toInt_div, htwo]
  rcases Int.le_total 0 v.toInt with h | h
  · rw [tdiv_two_of_nonneg h, Int.bmod_eq_of_le (by omega) (by omega)]
  · rw [tdiv_two_of_nonpos h, Int.bmod_eq_of_le (by omega) (by omega)]

namespace Interval

theorem toInt_far_ofStart (start length : Int32) :
    (ofStart start length).far.toInt = clampInt (start.toInt + length.toInt) :=
  toInt_addSat start length

/-- The length is the distance between the edges, brought back to a coordinate. -/
theorem toInt_length (i : Interval) : i.length.toInt = clampInt (i.far.toInt - i.near.toInt) :=
  toInt_subSat i.far i.near

/-- The midpoint, before it is narrowed to a coordinate. -/
def middleWord (i : Interval) : Int64 := i.near.toInt64 + (i.far.toInt64 - i.near.toInt64) / 2

/-- The start of what is centered, before it is brought back to a coordinate. -/
def startWord (i : Interval) (extent : Int32) : Int64 :=
  i.near.toInt64 + (i.far.toInt64 - i.near.toInt64 - extent.toInt64) / 2

/-- Half a difference of coordinates, added to a coordinate, fits into 64 bits. -/
theorem toInt_middleWord (i : Interval) :
    i.middleWord.toInt = i.near.toInt + (i.far.toInt - i.near.toInt).tdiv 2 := by
  have hn := toInt_mem_range i.near
  have hf := toInt_mem_range i.far
  have hhalf := tdiv_two_mem_range (n := i.far.toInt - i.near.toInt) (b := 2 * 0x80000000)
    (by omega) (by omega)
  rw [middleWord, Int64.toInt_add, Int32.toInt_toInt64, toInt_div_two, toInt_sub_toInt64,
    Int.bmod_eq_of_le (by omega) (by omega)]

/-- The space that is left over needs 34 bits. -/
theorem toInt_space (i : Interval) (extent : Int32) :
    (i.far.toInt64 - i.near.toInt64 - extent.toInt64).toInt =
      i.far.toInt - i.near.toInt - extent.toInt := by
  have hn := toInt_mem_range i.near
  have hf := toInt_mem_range i.far
  have he := toInt_mem_range extent
  rw [Int64.toInt_sub, toInt_sub_toInt64, Int32.toInt_toInt64,
    Int.bmod_eq_of_le (by omega) (by omega)]

theorem toInt_startWord (i : Interval) (extent : Int32) :
    (i.startWord extent).toInt =
      i.near.toInt + (i.far.toInt - i.near.toInt - extent.toInt).tdiv 2 := by
  have hn := toInt_mem_range i.near
  have hf := toInt_mem_range i.far
  have he := toInt_mem_range extent
  have hhalf := tdiv_two_mem_range (n := i.far.toInt - i.near.toInt - extent.toInt)
    (b := 3 * 0x80000000) (by omega) (by omega)
  rw [startWord, Int64.toInt_add, Int32.toInt_toInt64, toInt_div_two, toInt_space,
    Int.bmod_eq_of_le (by omega) (by omega)]

/-- **The midpoint, without words**: the near edge and half of the difference.  It lies between the
edges, so narrowing it loses nothing. -/
theorem toInt_midpoint (i : Interval) :
    i.midpoint.toInt = i.near.toInt + (i.far.toInt - i.near.toInt).tdiv 2 := by
  have hn := toInt_mem_range i.near
  have hf := toInt_mem_range i.far
  have hbetween : -0x80000000 ≤ i.near.toInt + (i.far.toInt - i.near.toInt).tdiv 2 ∧
      i.near.toInt + (i.far.toInt - i.near.toInt).tdiv 2 ≤ 0x7FFFFFFF := by
    rcases Int.le_total 0 (i.far.toInt - i.near.toInt) with h | h
    · rw [tdiv_two_of_nonneg h]
      omega
    · rw [tdiv_two_of_nonpos h]
      omega
  rw [midpoint, ← middleWord, Int64.toInt_toInt32, toInt_middleWord,
    Int.bmod_eq_of_le (by omega) (by omega)]

/-- **The start of what is centered, without words**: the near edge and half of the space that is
left over, brought back to a coordinate. -/
theorem toInt_centeredStart (i : Interval) (extent : Int32) :
    (i.centeredStart extent).toInt =
      clampInt (i.near.toInt + (i.far.toInt - i.near.toInt - extent.toInt).tdiv 2) := by
  rw [centeredStart, ← startWord, toInt_saturate, toInt_startWord]

end Interval

end WindowDecor
