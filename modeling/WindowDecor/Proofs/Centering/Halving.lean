import Mathlib.Data.Rat.Floor
import WindowDecor.Proofs.Centering.Placement

/-!
# Halving is exact

Monitors are found by the middle of a window, and windows are placed by half of the space that is
left over, so both rest on halving a difference of coordinates in 64 bits.  Nothing is lost in that,
however far the edges are apart and in whichever order they come.

* `Interval.toInt_midpoint_floor`, `Interval.toInt_midpoint_ceil` — halving the difference toward
  zero is rounding the mean of the edges toward the near one.
* `Interval.midpoint_between`, `Interval.contains_midpoint` — the middle is between the edges, and it
  is the far one only where there is no room.
* `Interval.centeredStart_antitone` — what is larger never starts farther on.
* **`Rect.halvesExactly`** — all of it, for every interval (`Interval.HalvesExactly`) and for the
  origins in every rectangle (`Rect.OriginAntitone`).
-/

namespace WindowDecor

namespace Interval

/-! ## The middle -/

/-- The middle lies between the edges, in whichever order they come. -/
theorem midpoint_between (i : Interval) :
    i.near ≤ i.midpoint ∧ i.midpoint ≤ i.far ∨ i.far ≤ i.midpoint ∧ i.midpoint ≤ i.near := by
  have hhalf := two_mul_tdiv_two (i.far.toInt - i.near.toInt)
  simp only [Int32.le_iff_toInt_le, toInt_midpoint]
  omega

/-- The middle of a stretch that is not empty is on it.  It is rounded toward the near edge, and so
stays off the far one. -/
theorem contains_midpoint {i : Interval} (h : i.near < i.far) : i.Contains i.midpoint := by
  rw [Int32.lt_iff_toInt_lt] at h
  have hhalf := two_mul_tdiv_two (i.far.toInt - i.near.toInt)
  unfold Contains
  rw [Int32.le_iff_toInt_le, Int32.lt_iff_toInt_lt, toInt_midpoint]
  omega

/-- Rounding toward the near edge is rounding down where that is the lower one. -/
theorem toInt_midpoint_floor {i : Interval} (h : i.near ≤ i.far) :
    i.midpoint.toInt = ⌊((i.near.toInt + i.far.toInt : ℤ) : ℚ) / 2⌋ := by
  have hfloor := Rat.floor_intCast_div_natCast (i.near.toInt + i.far.toInt) 2
  have hhalf := two_mul_tdiv_two (i.far.toInt - i.near.toInt)
  rw [Int32.le_iff_toInt_le] at h
  rw [Nat.cast_ofNat] at hfloor
  rw [hfloor, toInt_midpoint]
  omega

/-- And it is rounding up where that is the higher one. -/
theorem toInt_midpoint_ceil {i : Interval} (h : i.far < i.near) :
    i.midpoint.toInt = ⌈((i.near.toInt + i.far.toInt : ℤ) : ℚ) / 2⌉ := by
  have hceil := Rat.ceil_intCast_div_natCast (i.near.toInt + i.far.toInt) 2
  have hhalf := two_mul_tdiv_two (i.far.toInt - i.near.toInt)
  rw [Int32.lt_iff_toInt_lt] at h
  rw [Nat.cast_ofNat] at hceil
  rw [hceil, toInt_midpoint]
  omega

/-! ## The start of what is centered -/

/-- **What is larger never starts farther on.** -/
theorem centeredStart_antitone (i : Interval) {extent larger : Int32} (h : extent ≤ larger) :
    i.centeredStart larger ≤ i.centeredStart extent := by
  rw [Int32.le_iff_toInt_le] at h ⊢
  rw [toInt_centeredStart, toInt_centeredStart]
  refine clampInt_mono (Int.add_le_add_left ?_ _)
  exact Int.tdiv_le_tdiv (by decide) (by omega)

/-- Halving in the interval is what it is over the integers. -/
structure HalvesExactly (i : Interval) : Prop where
  /-- On the way to the middle, no step overflows 64 bits. -/
  difference : (i.far.toInt64 - i.near.toInt64).toInt = i.far.toInt - i.near.toInt
  half : ((i.far.toInt64 - i.near.toInt64) / 2).toInt = (i.far.toInt - i.near.toInt).tdiv 2
  middle : i.middleWord.toInt = i.near.toInt + (i.far.toInt - i.near.toInt).tdiv 2
  /-- Narrowing the middle to a coordinate loses nothing. -/
  narrowed : i.midpoint = i.middleWord.toInt32 ∧ i.midpoint.toInt = i.middleWord.toInt
  between : i.near ≤ i.midpoint ∧ i.midpoint ≤ i.far ∨ i.far ≤ i.midpoint ∧ i.midpoint ≤ i.near
  floor : i.near ≤ i.far → i.midpoint.toInt = ⌊((i.near.toInt + i.far.toInt : ℤ) : ℚ) / 2⌋
  ceil : i.far < i.near → i.midpoint.toInt = ⌈((i.near.toInt + i.far.toInt : ℤ) : ℚ) / 2⌉
  lt_far : i.near < i.far → i.midpoint < i.far
  /-- Nor does a step overflow on the way to the start of what is centered. -/
  space : ∀ extent : Int32, (i.far.toInt64 - i.near.toInt64 - extent.toInt64).toInt =
    i.far.toInt - i.near.toInt - extent.toInt
  halfSpace : ∀ extent : Int32, ((i.far.toInt64 - i.near.toInt64 - extent.toInt64) / 2).toInt =
    (i.far.toInt - i.near.toInt - extent.toInt).tdiv 2
  start : ∀ extent : Int32, (i.startWord extent).toInt =
    i.near.toInt + (i.far.toInt - i.near.toInt - extent.toInt).tdiv 2
  /-- The start is brought back to the nearest coordinate, and that is all that happens to it. -/
  clamped : ∀ extent : Int32, i.centeredStart extent = saturate (i.startWord extent) ∧
    (i.centeredStart extent).toInt =
      clampInt (i.near.toInt + (i.far.toInt - i.near.toInt - extent.toInt).tdiv 2)

end Interval

namespace Rect

/-- In the rectangle, a larger box never starts farther right or farther down. -/
structure OriginAntitone (r : Rect) : Prop where
  x_le : ∀ {width wider : Int32} (height height' : Int32), width ≤ wider →
    (r.centeredOrigin wider height').x ≤ (r.centeredOrigin width height).x
  y_le : ∀ {height taller : Int32} (width width' : Int32), height ≤ taller →
    (r.centeredOrigin width' taller).y ≤ (r.centeredOrigin width height).y

/-- **Halving is exact**, for all edges and all extents. -/
theorem halvesExactly : (∀ i : Interval, i.HalvesExactly) ∧ ∀ r : Rect, r.OriginAntitone := by
  refine ⟨fun i => ?_, fun r => ?_⟩
  · exact {
      difference := toInt_sub_toInt64 _ _
      half := by rw [toInt_div_two, toInt_sub_toInt64]
      middle := i.toInt_middleWord
      narrowed := ⟨rfl, by rw [i.toInt_midpoint, i.toInt_middleWord]⟩
      between := i.midpoint_between
      floor := Interval.toInt_midpoint_floor
      ceil := Interval.toInt_midpoint_ceil
      lt_far := fun h => (Interval.contains_midpoint h).2
      space := i.toInt_space
      halfSpace := fun extent => by rw [toInt_div_two, i.toInt_space]
      start := i.toInt_startWord
      clamped := fun extent => ⟨rfl, i.toInt_centeredStart extent⟩ }
  · exact {
      x_le := fun _ _ => r.horizontal.centeredStart_antitone
      y_le := fun _ _ => r.vertical.centeredStart_antitone }

/-- From one end of the axis to the other there is no middle coordinate, and both directions round
toward their near edge. -/
example : (⟨Int32.minValue, Int32.maxValue⟩ : Interval).midpoint = -1 ∧
    (⟨Int32.maxValue, Int32.minValue⟩ : Interval).midpoint = 0 := by decide

end Rect

end WindowDecor
