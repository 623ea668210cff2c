import WindowDecor.Geometry.Rect

/-!
# Where a centered interval ends up

`Interval.place` is what centering does on one axis: an interval is moved to where something of its
length is centered in an area, and its far edge saturates.  Nothing is assumed about either: the
area's edges may come in any order, and the length may be negative or larger than the area.

* `Interval.imbalance` — by how much the two margins differ when something starts at a coordinate.
* **`Interval.placedBest_place`** — no coordinate leaves the margins more alike than the one that is
  chosen, and what becomes of the far edge, the length and the middle follows from that
  (`Interval.PlacedBest`).
* `Interval.contains_midpoint_place` — where nothing is clamped, the middle of what was centered is
  inside an area of at least two pixels.
* `Rect.moveTo_moveTo` — moving twice to one origin is moving once.

All of it is said over the integers.  There, centering halves a difference toward zero, and
`two_mul_tdiv_two` is the only thing known about halves.
-/

namespace WindowDecor

/-! ## Halves and coordinates -/

/-- Twice the half of a number is the number, or one less from zero. -/
theorem two_mul_tdiv_two (n : Int) :
    2 * n.tdiv 2 = n ∨ 0 < n ∧ 2 * n.tdiv 2 = n - 1 ∨ n < 0 ∧ 2 * n.tdiv 2 = n + 1 := by
  rcases Int.le_total 0 n with h | h
  · rw [tdiv_two_of_nonneg h]
    omega
  · rw [tdiv_two_of_nonpos h]
    omega

/-- The integers that are coordinates. -/
def IsCoordinate (n : Int) : Prop := -0x80000000 ≤ n ∧ n ≤ 0x7FFFFFFF

instance (n : Int) : Decidable (IsCoordinate n) := inferInstanceAs (Decidable (_ ∧ _))

/-- Clamping leaves coordinates alone. -/
theorem clampInt_eq_self {n : Int} (h : IsCoordinate n) : clampInt n = n := by
  unfold IsCoordinate at h
  unfold clampInt
  omega

/-- `n` is between zero and `bound`, on whichever side of zero that is. -/
def BetweenZeroAnd (n bound : Int) : Prop := 0 ≤ n ∧ n ≤ bound ∨ bound ≤ n ∧ n ≤ 0

namespace Interval

/-! ## Cut off at the end of the axis -/

/-- The length after saturation: what of the one that was asked for fits behind the start. -/
theorem toInt_length_ofStart (start length : Int32) :
    (ofStart start length).length.toInt =
      clampInt (start.toInt + length.toInt) - start.toInt := by
  have hs := toInt_mem_range start
  have hl := toInt_mem_range length
  rw [toInt_length, toInt_far_ofStart, near_ofStart]
  unfold clampInt
  omega

/-- Nothing is cut off just when the end is a coordinate. -/
theorem length_ofStart_eq_iff (start length : Int32) :
    (ofStart start length).length = length ↔ IsCoordinate (start.toInt + length.toInt) := by
  rw [← Int32.toInt_inj, toInt_length_ofStart]
  unfold IsCoordinate clampInt
  omega

/-- What is cut off by clamping the far edge is never more than there is. -/
theorem length_ofStart_between (start length : Int32) :
    BetweenZeroAnd (ofStart start length).length.toInt length.toInt := by
  have hs := toInt_mem_range start
  rw [toInt_length_ofStart]
  unfold BetweenZeroAnd clampInt
  omega

/-! ## The placement -/

/-- The interval with the same length, centered in an area. -/
def place (area i : Interval) : Interval := ofStart (area.centeredStart i.length) i.length

/-- By how much the margins on the two sides differ when something of length `extent` starts at
`start`. -/
def imbalance (area : Interval) (extent start : Int32) : Nat :=
  (2 * start.toInt + extent.toInt - (area.near.toInt + area.far.toInt)).natAbs

/-- Where something of length `extent` would start if every integer were a coordinate. -/
def freeStart (area : Interval) (extent : Int32) : Int :=
  area.near.toInt + (area.far.toInt - area.near.toInt - extent.toInt).tdiv 2

/-- Something of length `extent` can be centered without clamping its start or its end. -/
def FitsCoordinates (area : Interval) (extent : Int32) : Prop :=
  IsCoordinate (area.freeStart extent) ∧ IsCoordinate (area.freeStart extent + extent.toInt)

instance (area : Interval) (extent : Int32) : Decidable (area.FitsCoordinates extent) :=
  inferInstanceAs (Decidable (_ ∧ _))

/-- `after` is the best that can be done to center `before` in `area`. -/
structure PlacedBest (area before after : Interval) : Prop where
  /-- No coordinate leaves the margins more alike than the near edge does. -/
  least : ∀ x : Int32, area.imbalance before.length after.near ≤ area.imbalance before.length x
  /-- Of two coordinates that are equally good it is the one nearer to the area's near edge. -/
  nearer : ∀ x : Int32, x ≠ after.near →
    area.imbalance before.length x = area.imbalance before.length after.near →
      (after.near.toInt - area.near.toInt).natAbs < (x.toInt - area.near.toInt).natAbs
  /-- The far edge is clamped. -/
  far_eq : after.far.toInt = clampInt (after.near.toInt + before.length.toInt)
  /-- The length stays the same just when the far edge needed no clamping. -/
  length_eq_iff :
    after.length = before.length ↔ IsCoordinate (after.near.toInt + before.length.toInt)
  /-- Otherwise it shrinks; it never grows and never changes its sign. -/
  length_between : BetweenZeroAnd after.length.toInt before.length.toInt
  /-- Where nothing is clamped, the two middles are at most a pixel apart. -/
  midpoint_close : after.near.toInt = area.freeStart before.length →
    IsCoordinate (after.near.toInt + before.length.toInt) →
      (after.midpoint.toInt - area.midpoint.toInt).natAbs ≤ 1
  /-- What fits into the area is inside it, as long as before, with equal margins but for a pixel
  more on the far side. -/
  inside : 0 ≤ before.length.toInt → before.length.toInt ≤ area.far.toInt - area.near.toInt →
    area.near ≤ after.near ∧ after.far ≤ area.far ∧ after.length = before.length ∧
      (area.far.toInt - after.far.toInt = after.near.toInt - area.near.toInt ∨
        area.far.toInt - after.far.toInt = after.near.toInt - area.near.toInt + 1)

/-! ## The placement, without words -/

/-- The near edge is where the free space is halved, brought back to a coordinate. -/
theorem toInt_near_place (area i : Interval) :
    (area.place i).near.toInt = clampInt (area.freeStart i.length) :=
  toInt_centeredStart area i.length

theorem toInt_far_place (area i : Interval) :
    (area.place i).far.toInt = clampInt ((area.place i).near.toInt + i.length.toInt) :=
  toInt_far_ofStart _ _

/-- The free start is half of the space that is left over away from the area's near edge. -/
theorem two_mul_freeStart (area : Interval) (extent : Int32) :
    let space := area.far.toInt - area.near.toInt - extent.toInt
    let offset := area.freeStart extent - area.near.toInt
    2 * offset = space ∨ 0 < space ∧ 2 * offset = space - 1 ∨
      space < 0 ∧ 2 * offset = space + 1 := by
  intro space offset
  have hhalf := two_mul_tdiv_two space
  have hoffset : offset = space.tdiv 2 := by
    simp only [offset, freeStart, space]
    omega
  rw [hoffset]
  exact hhalf

/-- Clamping only brings the start nearer to the area, so it stays the best there is. -/
theorem imbalance_place_le (area i : Interval) (x : Int32) :
    area.imbalance i.length (area.place i).near ≤ area.imbalance i.length x := by
  have hfree := two_mul_freeStart area i.length
  have hx := toInt_mem_range x
  have hn := toInt_mem_range area.near
  simp only [imbalance, toInt_near_place, clampInt]
  omega

/-- Of two starts that are equally well balanced, the placement takes the nearer one. -/
theorem nearer_of_imbalance_eq (area i : Interval) (x : Int32) (hne : x ≠ (area.place i).near)
    (h : area.imbalance i.length x = area.imbalance i.length (area.place i).near) :
    ((area.place i).near.toInt - area.near.toInt).natAbs < (x.toInt - area.near.toInt).natAbs := by
  have hfree := two_mul_freeStart area i.length
  have hx := toInt_mem_range x
  have hn := toInt_mem_range area.near
  have hne' : x.toInt ≠ (area.place i).near.toInt := fun heq => hne (Int32.toInt_inj.mp heq)
  simp only [imbalance, toInt_near_place, clampInt] at h hne' ⊢
  omega

theorem length_place_eq_iff (area i : Interval) :
    (area.place i).length = i.length ↔
      IsCoordinate ((area.place i).near.toInt + i.length.toInt) :=
  length_ofStart_eq_iff _ _

/-- A length that is not kept was cut off, and never grew. -/
theorem length_place_between (area i : Interval) :
    BetweenZeroAnd (area.place i).length.toInt i.length.toInt :=
  length_ofStart_between _ _

/-- Where nothing is clamped, the middle of what was centered is half of the space and half of the
length away from the area's near edge. -/
theorem toInt_midpoint_place (area i : Interval)
    (hstart : (area.place i).near.toInt = area.freeStart i.length)
    (hend : IsCoordinate ((area.place i).near.toInt + i.length.toInt)) :
    (area.place i).midpoint.toInt = area.freeStart i.length + i.length.toInt.tdiv 2 := by
  have hfar : (area.place i).far.toInt - (area.place i).near.toInt = i.length.toInt := by
    rw [toInt_far_place, clampInt_eq_self hend]
    omega
  rw [toInt_midpoint, hfar, hstart]

/-- Halving the space and the length apart loses at most a pixel against halving their sum. -/
theorem midpoint_place_close (area i : Interval)
    (hstart : (area.place i).near.toInt = area.freeStart i.length)
    (hend : IsCoordinate ((area.place i).near.toInt + i.length.toInt)) :
    ((area.place i).midpoint.toInt - area.midpoint.toInt).natAbs ≤ 1 := by
  have hfree := two_mul_freeStart area i.length
  have hlength := two_mul_tdiv_two i.length.toInt
  have harea := two_mul_tdiv_two (area.far.toInt - area.near.toInt)
  rw [toInt_midpoint_place area i hstart hend, toInt_midpoint]
  omega

/-- **What fits stays inside**, with the odd pixel on the far side. -/
theorem place_inside (area i : Interval) (hnonneg : 0 ≤ i.length.toInt)
    (hfits : i.length.toInt ≤ area.far.toInt - area.near.toInt) :
    area.near ≤ (area.place i).near ∧ (area.place i).far ≤ area.far ∧
      (area.place i).length = i.length ∧
      (area.far.toInt - (area.place i).far.toInt = (area.place i).near.toInt - area.near.toInt ∨
        area.far.toInt - (area.place i).far.toInt =
          (area.place i).near.toInt - area.near.toInt + 1) := by
  have hfree := two_mul_freeStart area i.length
  have hn := toInt_mem_range area.near
  have hf := toInt_mem_range area.far
  have hstart : (area.place i).near.toInt = area.freeStart i.length := by
    rw [toInt_near_place, clampInt_eq_self (by unfold IsCoordinate; omega)]
  have hend : IsCoordinate ((area.place i).near.toInt + i.length.toInt) := by
    unfold IsCoordinate
    omega
  have hfar : (area.place i).far.toInt = (area.place i).near.toInt + i.length.toInt := by
    rw [toInt_far_place, clampInt_eq_self hend]
  refine ⟨?_, ?_, (length_place_eq_iff area i).mpr hend, ?_⟩
  · rw [Int32.le_iff_toInt_le]
    omega
  · rw [Int32.le_iff_toInt_le]
    omega
  · omega

/-- **Centering is the best that can be done**, for all areas and all intervals. -/
theorem placedBest_place (area i : Interval) : area.PlacedBest i (area.place i) where
  least := imbalance_place_le area i
  nearer := nearer_of_imbalance_eq area i
  far_eq := toInt_far_place area i
  length_eq_iff := length_place_eq_iff area i
  length_between := length_place_between area i
  midpoint_close := midpoint_place_close area i
  inside := place_inside area i

/-! ## Centering what is centered -/

/-- Where nothing is clamped, the start is the free one and the end is a coordinate. -/
theorem place_of_fits {area i : Interval} (hfits : area.FitsCoordinates i.length) :
    (area.place i).near.toInt = area.freeStart i.length ∧
      IsCoordinate ((area.place i).near.toInt + i.length.toInt) := by
  have hstart : (area.place i).near.toInt = area.freeStart i.length := by
    rw [toInt_near_place, clampInt_eq_self hfits.1]
  refine ⟨hstart, ?_⟩
  rw [hstart]
  exact hfits.2

theorem length_place_of_fits {area i : Interval} (hfits : area.FitsCoordinates i.length) :
    (area.place i).length = i.length :=
  (length_place_eq_iff area i).mpr (place_of_fits hfits).2

/-- In an area of at least two pixels, the middle of what was centered is on the area: the two
halves that are lost cannot carry it over an edge. -/
theorem contains_midpoint_place (area i : Interval) (hwide : 2 ≤ area.length)
    (hfits : area.FitsCoordinates i.length) : area.Contains (area.place i).midpoint := by
  obtain ⟨hstart, hend⟩ := place_of_fits hfits
  have htwo : 2 ≤ area.far.toInt - area.near.toInt := by
    rw [Int32.le_iff_toInt_le, toInt_length] at hwide
    have : (2 : Int32).toInt = 2 := by decide
    unfold clampInt at hwide
    omega
  have hfree := two_mul_freeStart area i.length
  have hlength := two_mul_tdiv_two i.length.toInt
  unfold Contains
  rw [Int32.le_iff_toInt_le, Int32.lt_iff_toInt_lt, toInt_midpoint_place area i hstart hend]
  omega

/-- A length that was saturated once stays as it is. -/
@[simp] theorem ofStart_length_ofStart (start length : Int32) :
    ofStart start (ofStart start length).length = ofStart start length := by
  have hs := toInt_mem_range start
  have hl := toInt_mem_range length
  have hfar : (ofStart start (ofStart start length).length).far = (ofStart start length).far := by
    rw [← Int32.toInt_inj, toInt_far_ofStart, toInt_length, toInt_far_ofStart, near_ofStart]
    unfold clampInt
    omega
  simp only [ofStart] at hfar ⊢
  rw [hfar]

end Interval

namespace Rect

/-- No point is in both rectangles. -/
def Disjoint (r s : Rect) : Prop := ∀ p, r.Contains p → ¬ s.Contains p

/-- Every point of the first rectangle is in the second. -/
def Within (r s : Rect) : Prop := ∀ p, r.Contains p → s.Contains p

theorem within_of_le {r s : Rect} (hleft : s.horizontal.near ≤ r.horizontal.near)
    (hright : r.horizontal.far ≤ s.horizontal.far) (htop : s.vertical.near ≤ r.vertical.near)
    (hbottom : r.vertical.far ≤ s.vertical.far) : r.Within s := by
  rintro p ⟨⟨hx, hx'⟩, hy, hy'⟩
  exact ⟨⟨Int32.le_trans hleft hx, Int32.lt_of_lt_of_le hx' hright⟩,
    Int32.le_trans htop hy, Int32.lt_of_lt_of_le hy' hbottom⟩

/-- Two rectangles side by side share no point. -/
theorem disjoint_of_far_le_near {r s : Rect} (h : r.horizontal.far ≤ s.horizontal.near) :
    r.Disjoint s := by
  rintro p ⟨⟨-, hr⟩, -⟩ ⟨⟨hs, -⟩, -⟩
  exact Int32.lt_irrefl (Int32.lt_of_lt_of_le hr (Int32.le_trans h hs))

/-- A box of the given size can be centered without clamping its origin or its far edges. -/
def FitsCoordinates (area : Rect) (width height : Int32) : Prop :=
  area.horizontal.FitsCoordinates width ∧ area.vertical.FitsCoordinates height

instance (area : Rect) (width height : Int32) : Decidable (area.FitsCoordinates width height) :=
  inferInstanceAs (Decidable (_ ∧ _))

/-- Moving a rectangle to where it is centered places it on each axis. -/
theorem moveTo_centeredOrigin (area r : Rect) :
    r.moveTo (area.centeredOrigin r.width r.height) =
      ⟨area.horizontal.place r.horizontal, area.vertical.place r.vertical⟩ := rfl

/-- In an area of at least two pixels each way, what is centered without clamping has its middle on
the area. -/
theorem contains_center_moveTo {area r : Rect} (hwide : 2 ≤ area.width) (htall : 2 ≤ area.height)
    (hfits : area.FitsCoordinates r.width r.height) :
    area.Contains (r.moveTo (area.centeredOrigin r.width r.height)).center :=
  ⟨Interval.contains_midpoint_place _ r.horizontal hwide hfits.1,
    Interval.contains_midpoint_place _ r.vertical htall hfits.2⟩

/-- What is centered without clamping keeps its size, so it would be centered at the same origin. -/
theorem centeredOrigin_moveTo {area r : Rect} (hfits : area.FitsCoordinates r.width r.height) :
    area.centeredOrigin (r.moveTo (area.centeredOrigin r.width r.height)).width
      (r.moveTo (area.centeredOrigin r.width r.height)).height =
        area.centeredOrigin r.width r.height := by
  rw [moveTo_centeredOrigin]
  simp only [width, height, Interval.length_place_of_fits hfits.1,
    Interval.length_place_of_fits hfits.2]

/-- **Moving twice to one origin is moving once**, also where the first move saturates. -/
@[simp] theorem moveTo_moveTo (r : Rect) (origin : Point) :
    (r.moveTo origin).moveTo origin = r.moveTo origin := by
  simp [moveTo, ofOriginSize, width, height]

end Rect

end WindowDecor
