import WindowDecor.Proofs.Text.ByteOrder

/-!
# The order of centering errors

Errors are ordered by the stage that failed, then by the call that failed, then by what it said.  That
is a lexicographic order on three keys, and errors with the same keys are the same error.

* **`CenteringError.compare_eq`** — errors are compared by their keys, so the comparison is oriented
  and transitive, and equal only for equal errors.
* `CenteringError.le_trans`, `CenteringError.le_total` — what sorting needs of it.
* `CenteringError.code_le_of_le` — a list in ascending order is one in order of stages.
* `CenteringError.filter_sortWithPositions` — sorting leaves equal errors in the order that they had.
* **`CenteringError.orderedByStage`** — all of it (`CenteringError.ComparesByStage`,
  `CenteringError.SortsStably`).
-/

namespace WindowDecor

/-- Failures are compared by the call first and by the message then. -/
theorem CallFailure.compare_eq (a b : CallFailure) : a.compare b =
    compareLex (compareOn CallFailure.call) (compareOn CallFailure.message) a b := by
  rw [compare, compareBytes_eq_compare, compareBytes_eq_compare]
  rfl

namespace CenteringError

/-! ## Keys -/

/-- The name of the call that failed; empty if none did. -/
def call (e : CenteringError) : String := (e.cause?.map (·.call)).getD ""

/-- What the call that failed said; empty if none did. -/
def message (e : CenteringError) : String := (e.cause?.map (·.message)).getD ""

/-- By stage, then by call, then by message. -/
def compareKeys : CenteringError → CenteringError → Ordering :=
  compareLex (compareOn code) (compareLex (compareOn call) (compareOn message))

instance : Std.TransCmp compareKeys :=
  inferInstanceAs (Std.TransCmp
    (compareLex (compareOn code) (compareLex (compareOn call) (compareOn message))))

/-- **Errors are compared by their keys.** -/
theorem compare_eq (a b : CenteringError) : a.compare b = compareKeys a b := by
  cases a with
  | monitorLookup => cases b <;> rfl
  | monitorInfo x =>
    cases b with
    | monitorInfo y => exact x.compare_eq y
    | _ => rfl
  | windowBounds x =>
    cases b with
    | windowBounds y => exact x.compare_eq y
    | _ => rfl

/-- **Errors with the same keys are the same.** -/
theorem eq_of_keys {a b : CenteringError} (hcode : a.code = b.code) (hcall : a.call = b.call)
    (hmessage : a.message = b.message) : a = b := by
  cases a with
  | monitorLookup =>
    cases b with
    | monitorLookup => rfl
    | _ => cases hcode
  | monitorInfo x =>
    cases b with
    | monitorInfo y => exact congrArg monitorInfo (congrArg₂ CallFailure.mk hcall hmessage)
    | _ => cases hcode
  | windowBounds x =>
    cases b with
    | windowBounds y => exact congrArg windowBounds (congrArg₂ CallFailure.mk hcall hmessage)
    | _ => cases hcode

/-- Only an error and itself are equal. -/
theorem compare_eq_eq_iff {a b : CenteringError} : a.compare b = .eq ↔ a = b := by
  rw [compare_eq]
  constructor
  · intro h
    simp only [compareKeys, compareLex, compareOn, Ordering.then_eq_eq,
      Std.LawfulEqOrd.compare_eq_iff_eq] at h
    exact eq_of_keys h.1 h.2.1 h.2.2
  · rintro rfl
    exact Std.ReflCmp.compare_self

theorem compare_swap (a b : CenteringError) : b.compare a = (a.compare b).swap := by
  rw [compare_eq, compare_eq]
  exact Std.OrientedCmp.eq_swap

/-! ## Stages -/

/-- An earlier stage comes first, whatever the causes. -/
theorem compare_eq_lt_of_code_lt {a b : CenteringError} (h : a.code < b.code) :
    a.compare b = .lt := by
  rw [compare_eq, compareKeys, compareLex, Ordering.then_eq_lt]
  exact .inl (Nat.compare_eq_lt.mpr h)

/-- **In one stage the call decides, and then the message.** -/
theorem compare_eq_lt_iff_of_code_eq {a b : CenteringError} {x y : CallFailure}
    (hcode : a.code = b.code) (hx : a.cause? = some x) (hy : b.cause? = some y) :
    a.compare b = .lt ↔ compareBytes x.call y.call = .lt ∨
      x.call = y.call ∧ compareBytes x.message y.message = .lt := by
  have hstage : Ord.compare a.code b.code = .eq := Nat.compare_eq_eq.mpr hcode
  rw [compare_eq, compareBytes_eq_compare, compareBytes_eq_compare]
  simp [compareKeys, compareLex, compareOn, Ordering.then_eq_lt, hstage, call, message, hx, hy]

/-- One error is allowed to stand before another unless it is greater. -/
theorem le_iff_isLE {a b : CenteringError} : a.le b ↔ (a.compare b).isLE := by
  rw [le]
  cases a.compare b <;> decide

/-- An error that comes first is not of a later stage. -/
theorem code_le_of_le {a b : CenteringError} (h : a.le b) : a.code ≤ b.code := by
  rcases Nat.lt_or_ge b.code a.code with hlt | hge
  · rw [le_iff_isLE, compare_swap, compare_eq_lt_of_code_lt hlt] at h
    cases h
  · exact hge

/-! ## Sorting -/

theorem le_trans {a b c : CenteringError} (hab : a.le b) (hbc : b.le c) : a.le c := by
  rw [le_iff_isLE, compare_eq] at *
  exact Std.TransCmp.isLE_trans hab hbc

theorem le_total (a b : CenteringError) : (a.le b || b.le a) := by
  rw [le, le, compare_swap a b]
  cases a.compare b <;> decide

theorem le_antisymm {a b : CenteringError} (hab : a.le b) (hba : b.le a) : a = b := by
  rw [le_iff_isLE, compare_eq] at *
  rw [← compare_eq_eq_iff, compare_eq]
  exact Std.OrientedCmp.isLE_antisymm hab hba

theorem le_fst_trans (x y z : CenteringError × Nat) (hxy : x.1.le y.1) (hyz : y.1.le z.1) :
    x.1.le z.1 := le_trans hxy hyz

theorem le_fst_total (x y : CenteringError × Nat) : (x.1.le y.1 || y.1.le x.1) := le_total _ _

theorem sortWithPositions_perm (errors : List CenteringError) :
    (sortWithPositions errors).Perm errors.zipIdx := List.mergeSort_perm _ _

/-- What is sorted ascends. -/
theorem pairwise_sortWithPositions (errors : List CenteringError) :
    (sortWithPositions errors).Pairwise fun (x y : CenteringError × Nat) => x.1.le y.1 :=
  List.pairwise_mergeSort le_fst_trans le_fst_total _

/-- **Equal errors keep their order.**  They are in order where they stand, and sorting keeps every
sublist that is in order. -/
theorem filter_sortWithPositions (errors : List CenteringError) (e : CenteringError) :
    (sortWithPositions errors).filter (·.1 = e) = errors.zipIdx.filter (·.1 = e) := by
  let same : List (CenteringError × Nat) := errors.zipIdx.filter (·.1 = e)
  have heq : ∀ x ∈ same, x.1 = e := fun x hx => of_decide_eq_true (List.mem_filter.mp hx).2
  have hordered : same.Pairwise fun x y => x.1.le y.1 := by
    refine List.pairwise_of_forall_mem_list fun x hx y hy => ?_
    rw [heq x hx, heq y hy, le_iff_isLE, compare_eq_eq_iff.mpr rfl]
    rfl
  have hkept : same.Sublist (sortWithPositions errors) :=
    List.sublist_mergeSort le_fst_trans le_fst_total hordered List.filter_sublist
  -- there are no others, for sorting adds none
  have hwithin : same.Sublist ((sortWithPositions errors).filter (·.1 = e)) := by
    have hfilter := hkept.filter (·.1 = e)
    rwa [List.filter_eq_self.mpr fun x hx => decide_eq_true (heq x hx)] at hfilter
  have hlength := ((sortWithPositions_perm errors).filter (·.1 = e)).length_eq
  exact (hwithin.eq_of_length hlength.symm).symm

/-- Of two equal errors the one that stood first comes first. -/
theorem pairwise_positions (errors : List CenteringError) :
    (sortWithPositions errors).Pairwise fun x y => x.1 = y.1 → x.2 < y.2 := by
  have hnumbered : errors.zipIdx.Pairwise fun x y => x.2 < y.2 := by
    refine List.pairwise_map.mp ?_
    rw [List.zipIdx_map_snd]
    exact List.pairwise_lt_range'
  refine List.pairwise_iff_forall_sublist.mpr fun {x y} hpair heq => ?_
  have hfilter : [x, y].Sublist (errors.zipIdx.filter (·.1 = y.1)) := by
    have hequal := hpair.filter (·.1 = y.1)
    rw [filter_sortWithPositions] at hequal
    simpa [heq] using hequal
  exact List.pairwise_iff_forall_sublist.mp hnumbered (hfilter.trans List.filter_sublist)

/-- **There is only one such order**, so every stable sort finds this one. -/
theorem eq_sortWithPositions {errors : List CenteringError} {sorted : List (CenteringError × Nat)}
    (hperm : sorted.Perm errors.zipIdx) (hordered : sorted.Pairwise fun x y => x.1.le y.1)
    (hstable : sorted.Pairwise fun x y => x.1 = y.1 → x.2 < y.2) :
    sorted = sortWithPositions errors := by
  have hboth := hordered.and hstable
  have hboth' := (pairwise_sortWithPositions errors).and (pairwise_positions errors)
  refine List.Perm.eq_of_pairwise ?_ hboth hboth' (hperm.trans (sortWithPositions_perm errors).symm)
  rintro x y - - ⟨hxy, hlt⟩ ⟨hyx, hgt⟩
  have heq := le_antisymm hxy hyx
  exact absurd (hlt heq) (Nat.lt_asymm (hgt heq.symm))

/-- Sorting keeps every error as often as it was there. -/
theorem sort_perm (errors : List CenteringError) : (sort errors).Perm errors := by
  have hperm := (sortWithPositions_perm errors).map Prod.fst
  rwa [List.zipIdx_map_fst] at hperm

theorem pairwise_sort (errors : List CenteringError) :
    (sort errors).Pairwise fun a b => a.le b :=
  List.pairwise_map.mpr (pairwise_sortWithPositions errors)

/-! ## All of it -/

/-- The comparison is a total order by stage, call and message. -/
structure ComparesByStage : Prop where
  swap : ∀ a b : CenteringError, b.compare a = (a.compare b).swap
  total : ∀ a b : CenteringError, a.le b ∨ b.le a
  trans : ∀ {a b c : CenteringError}, a.le b → b.le c → a.le c
  antisymm : ∀ {a b : CenteringError}, a.le b → b.le a → a = b
  eq_iff : ∀ {a b : CenteringError}, a.compare b = .eq ↔ a = b
  /-- An earlier stage is smaller, and what is not larger is not of a later one. -/
  lt_of_code_lt : ∀ {a b : CenteringError}, a.code < b.code → a.compare b = .lt
  code_le : ∀ {a b : CenteringError}, a.le b → a.code ≤ b.code
  /-- In one stage the call decides, and then the message. -/
  within : ∀ {a b : CenteringError} {x y : CallFailure}, a.code = b.code →
    a.cause? = some x → b.cause? = some y →
    (a.compare b = .lt ↔ compareBytes x.call y.call = .lt ∨
      x.call = y.call ∧ compareBytes x.message y.message = .lt)
  /-- Texts are compared by their bytes, which is to say by their code points. -/
  bytes : ∀ {s t : String},
    compareBytes s t = .lt ↔ s.toUTF8.data.toList < t.toUTF8.data.toList
  codePoints : ∀ {s t : String},
    compareBytes s t = .lt ↔ s.toList.map Char.toNat < t.toList.map Char.toNat

/-- Sorting the errors brings them into ascending order, and changes nothing else. -/
structure SortsStably (errors : List CenteringError) : Prop where
  perm : (sort errors).Perm errors
  ascending : (sort errors).Pairwise fun a b => a.le b
  codes : (sort errors).Pairwise fun a b => a.code ≤ b.code
  /-- Each error is told with the position that it had. -/
  positions : (sortWithPositions errors).map (·.1) = sort errors ∧
    (sortWithPositions errors).Perm errors.zipIdx
  /-- Of two equal errors the one that stood first comes first. -/
  stable : (sortWithPositions errors).Pairwise fun x y => x.1 = y.1 → x.2 < y.2
  /-- Every stable sort finds this order. -/
  unique : ∀ {sorted : List (CenteringError × Nat)}, sorted.Perm errors.zipIdx →
    sorted.Pairwise (fun x y => x.1.le y.1) →
    sorted.Pairwise (fun x y => x.1 = y.1 → x.2 < y.2) → sorted = sortWithPositions errors

/-- **Errors are ordered by stage**, and a list of them is sorted by it without disturbing equal
ones. -/
theorem orderedByStage : ComparesByStage ∧ ∀ errors, SortsStably errors := by
  refine ⟨?_, fun errors => ?_⟩
  · constructor
    case swap => exact compare_swap
    case total => exact fun a b => by simpa using le_total a b
    case trans => exact le_trans
    case antisymm => exact le_antisymm
    case eq_iff => exact compare_eq_eq_iff
    case lt_of_code_lt => exact compare_eq_lt_of_code_lt
    case code_le => exact code_le_of_le
    case within => exact compare_eq_lt_iff_of_code_eq
    case bytes =>
      intro s t
      rw [compareBytes_eq_lt_iff, toUTF8_lt_iff]
    case codePoints =>
      intro s t
      rw [compareBytes_eq_lt_iff, map_toNat_lt_iff]
  · constructor
    case perm => exact sort_perm errors
    case ascending => exact pairwise_sort errors
    case codes => exact (pairwise_sort errors).imp code_le_of_le
    case positions => exact ⟨rfl, sortWithPositions_perm errors⟩
    case stable => exact pairwise_positions errors
    case unique => exact eq_sortWithPositions

end CenteringError

end WindowDecor
