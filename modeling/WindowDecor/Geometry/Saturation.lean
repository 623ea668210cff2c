/-!
# Saturating 32-bit coordinates

Screen coordinates are signed 32-bit words.  A sum or a difference of two of them needs 33 bits, so
it is computed in 64 bits, where it cannot overflow, and then brought back to the nearest
coordinate.

* `saturate` — the coordinate nearest to a 64-bit value.
* `addSat`, `subSat` — sum and difference of two coordinates, brought back by `saturate`.
* **`toInt_saturate`** — over the integers, `saturate` is clamping to `[-2^31, 2^31 - 1]`; with
  `toInt_addSat` and `toInt_subSat` no proof needs to look at the words again.
-/

namespace WindowDecor

/-- The coordinate nearest to `v`. -/
def saturate (v : Int64) : Int32 :=
  if v < Int32.minValue.toInt64 then Int32.minValue
  else if Int32.maxValue.toInt64 < v then Int32.maxValue
  else v.toInt32

/-- The sum of two coordinates, or the nearest coordinate if it is none. -/
def addSat (a b : Int32) : Int32 := saturate (a.toInt64 + b.toInt64)

/-- The difference of two coordinates, or the nearest coordinate if it is none. -/
def subSat (a b : Int32) : Int32 := saturate (a.toInt64 - b.toInt64)

/-! ## Reading over the integers -/

/-- The integer nearest to `n` among the coordinates. -/
def clampInt (n : Int) : Int := max (-0x80000000) (min n 0x7FFFFFFF)

theorem clampInt_mono {m n : Int} (h : m ≤ n) : clampInt m ≤ clampInt n := by
  unfold clampInt
  omega

/-- A coordinate is a signed integer of 32 bits. -/
theorem toInt_mem_range (a : Int32) : -0x80000000 ≤ a.toInt ∧ a.toInt ≤ 0x7FFFFFFF :=
  ⟨a.le_toInt, Int.le_sub_one_of_lt a.toInt_lt⟩

/-- **Saturation is clamping.** -/
theorem toInt_saturate (v : Int64) : (saturate v).toInt = clampInt v.toInt := by
  have hmin : Int32.minValue.toInt64.toInt = -0x80000000 := by decide
  have hmax : Int32.maxValue.toInt64.toInt = 0x7FFFFFFF := by decide
  unfold saturate clampInt
  simp only [Int64.lt_iff_toInt_lt, hmin, hmax]
  split
  · have : Int32.minValue.toInt = -0x80000000 := by decide
    omega
  · split
    · have : Int32.maxValue.toInt = 0x7FFFFFFF := by decide
      omega
    · rw [Int64.toInt_toInt32, Int.bmod_eq_of_le (by omega) (by omega)]
      omega

/-- Sums of two coordinates do not overflow 64 bits. -/
theorem toInt_add_toInt64 (a b : Int32) :
    (a.toInt64 + b.toInt64).toInt = a.toInt + b.toInt := by
  have ha := toInt_mem_range a
  have hb := toInt_mem_range b
  rw [Int64.toInt_add, Int32.toInt_toInt64, Int32.toInt_toInt64,
    Int.bmod_eq_of_le (by omega) (by omega)]

/-- Differences of two coordinates do not overflow 64 bits. -/
theorem toInt_sub_toInt64 (a b : Int32) :
    (a.toInt64 - b.toInt64).toInt = a.toInt - b.toInt := by
  have ha := toInt_mem_range a
  have hb := toInt_mem_range b
  rw [Int64.toInt_sub, Int32.toInt_toInt64, Int32.toInt_toInt64,
    Int.bmod_eq_of_le (by omega) (by omega)]

/-- A saturated sum is the clamped sum. -/
theorem toInt_addSat (a b : Int32) : (addSat a b).toInt = clampInt (a.toInt + b.toInt) := by
  rw [addSat, toInt_saturate, toInt_add_toInt64]

theorem toInt_subSat (a b : Int32) : (subSat a b).toInt = clampInt (a.toInt - b.toInt) := by
  rw [subSat, toInt_saturate, toInt_sub_toInt64]

end WindowDecor
