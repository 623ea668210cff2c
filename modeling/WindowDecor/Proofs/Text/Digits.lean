import WindowDecor.Text.Numeral

/-!
# Digits and what they stand for

A number is written in one way to each base: in digits of the base, lower-case ones where they are
letters, and with a zero in front only if it is zero.  Nothing else is needed of digits to be those of
a number, so a number and its digits can be told from each other.

* `Numeral.Canonical` — what written numbers look like.
* `exists_write_append` — digits behind a positive number make a number again, by induction on the
  digits; a leading zero is the one thing that could stand in the way.
* **`canonical_iff`** — the digits that look like it are those that are written.
* `Numeral.ofWord`, `Numeral.readSigned?` — words of 64 bits in two's complement.
* **`readSigned?_eq_some_iff`** — digits that look like it stand for a signed word if they are those of
  its bits.
-/

namespace WindowDecor

namespace Numeral

/-! ## Digits -/

/-- The digits to the base sixteen, in order. -/
def symbols : List Char := "0123456789abcdef".toList

/-- The digits look like those of a written number. -/
structure Canonical (base : Nat) (digits : List Char) : Prop where
  symbol : ∀ c ∈ digits, c ∈ symbols.take base
  ne_nil : digits ≠ []
  /-- Zero does not lead other digits. -/
  lead : digits.head? = some '0' → digits = ['0']

section

variable {base : Nat} (htwo : 2 ≤ base) (hsixteen : base ≤ 16)

include hsixteen in
/-- The digits to a base are those of the numbers below it. -/
theorem mem_symbols_iff {c : Char} :
    c ∈ symbols.take base ↔ ∃ d < base, Nat.digitChar d = c := by
  have hsymbols : symbols = (List.range 16).map Nat.digitChar := by decide
  rw [hsymbols, ← List.map_take, List.take_range, Nat.min_eq_left hsixteen]
  simp only [List.mem_map, List.mem_range]

include htwo hsixteen

theorem mem_symbols_of_mem_write (n : Nat) : ∀ c ∈ write base n, c ∈ symbols.take base := by
  induction n using Nat.strongRecOn with
  | ind n ih =>
    intro c hc
    rw [write, Nat.toDigits_eq_if (by omega)] at hc
    split at hc
    · next hlt =>
      rw [List.mem_singleton] at hc
      exact (mem_symbols_iff hsixteen).mpr ⟨n, hlt, hc.symm⟩
    · next hge =>
      have hdiv : n / base < n := Nat.div_lt_self (by omega) (by omega)
      rcases List.mem_append.mp hc with hfirst | hlast
      · exact ih (n / base) hdiv c hfirst
      · rw [List.mem_singleton] at hlast
        exact (mem_symbols_iff hsixteen).mpr ⟨n % base, Nat.mod_lt n (by omega), hlast.symm⟩

/-- **Only zero is written with a leading zero.** -/
theorem head?_write_ne_zero {n : Nat} (hn : n ≠ 0) : (write base n).head? ≠ some '0' := by
  induction n using Nat.strongRecOn with
  | ind n ih =>
    rw [write, Nat.toDigits_eq_if (by omega)]
    split
    · next hlt =>
      have hdigit : ∀ d < 16, d ≠ 0 → some (Nat.digitChar d) ≠ some '0' := by decide
      exact hdigit n (by omega) hn
    · next hge =>
      have hpos : 0 < n / base := Nat.div_pos (by omega) (by omega)
      have hdiv := ih (n / base) (Nat.div_lt_self (by omega) (by omega)) (by omega)
      obtain ⟨c, rest, hdigits⟩ :=
        List.exists_cons_of_ne_nil (show Nat.toDigits base (n / base) ≠ [] from Nat.toDigits_ne_nil)
      rw [write, hdigits] at hdiv
      rw [hdigits]
      exact hdiv

/-- **What is written is canonical.** -/
theorem canonical_write (n : Nat) : Canonical base (write base n) where
  symbol := mem_symbols_of_mem_write htwo hsixteen n
  ne_nil := Nat.toDigits_ne_nil
  lead h := by
    by_cases hn : n = 0
    · rw [hn, write, Nat.toDigits_of_lt_base (by omega)]
      rfl
    · exact absurd h (head?_write_ne_zero htwo hsixteen hn)

/-- **Digits behind a positive number make a number again.** -/
theorem exists_write_append {n : Nat} (hn : 0 < n) {digits : List Char}
    (hdigits : ∀ c ∈ digits, c ∈ symbols.take base) :
    ∃ m, write base n ++ digits = write base m := by
  induction digits generalizing n with
  | nil => exact ⟨n, List.append_nil _⟩
  | cons c rest ih =>
    obtain ⟨d, hd, rfl⟩ := (mem_symbols_iff hsixteen).mp (hdigits c List.mem_cons_self)
    have hpush : write base n ++ [Nat.digitChar d] = write base (base * n + d) := by
      rw [← Nat.toDigits_of_lt_base hd]
      exact Nat.toDigits_append_toDigits (by omega) hn hd
    have hmore : 0 < base * n + d := Nat.add_pos_left (Nat.mul_pos (by omega) hn) d
    obtain ⟨m, hm⟩ := ih hmore fun c hc => hdigits c (List.mem_cons_of_mem _ hc)
    refine ⟨m, ?_⟩
    rw [← hm, ← hpush, List.append_assoc, List.singleton_append]

/-- **Digits that look like those of a number are those of a number.** -/
theorem canonical_iff {digits : List Char} : Canonical base digits ↔ ∃ n, digits = write base n := by
  constructor
  · rintro ⟨hsymbol, hne, hlead⟩
    obtain ⟨c, rest, rfl⟩ := List.exists_cons_of_ne_nil hne
    obtain ⟨d, hd, rfl⟩ := (mem_symbols_iff hsixteen).mp (hsymbol c List.mem_cons_self)
    have hfirst : write base d = [Nat.digitChar d] := Nat.toDigits_of_lt_base hd
    -- a zero in front is all there is, and any other digit is a positive number already
    by_cases hzero : d = 0
    · subst hzero
      exact ⟨0, (hlead rfl).trans hfirst.symm⟩
    · obtain ⟨m, hm⟩ := exists_write_append htwo hsixteen (Nat.pos_of_ne_zero hzero)
        fun c hc => hsymbol c (List.mem_cons_of_mem _ hc)
      rw [hfirst, List.singleton_append] at hm
      exact ⟨m, hm⟩
  · rintro ⟨n, rfl⟩
    exact canonical_write htwo hsixteen n

end

/-! ## Signed words -/

/-- The number that a word of 64 bits stands for in two's complement: the upper half of the words is
that of the negative numbers. -/
def ofWord (word : Nat) : Int := if 2 * word < UInt64.size then word else word - UInt64.size

/-- The number that hexadecimal digits stand for as a word of 64 bits in two's complement; `none` if
one of them is no digit, or if they need more bits. -/
def readSigned? (digits : List Char) : Option Int :=
  ((read? 16 digits).filter (· < UInt64.size)).map ofWord

/-- The signed number comes back out of the word. -/
@[simp] theorem ofWord_toNat (x : Int64) : ofWord x.toUInt64.toNat = x.toInt := by
  have hword := BitVec.toInt_eq_toNat_cond x.toBitVec
  rw [Int64.toInt_toBitVec, Int64.toNat_toBitVec] at hword
  exact hword.symm

/-- Every word is that of a signed number. -/
theorem exists_int64_of_lt {word : Nat} (h : word < UInt64.size) :
    ∃ x : Int64, x.toUInt64.toNat = word := by
  refine ⟨(UInt64.ofNat word).toInt64, ?_⟩
  rw [UInt64.toUInt64_toInt64, UInt64.toNat_ofNat_of_lt' h]

/-- **The digits of a word are read as the number that it stands for.** -/
@[simp]
theorem readSigned?_write (x : Int64) : readSigned? (write 16 x.toUInt64.toNat) = some x.toInt := by
  have hword : x.toUInt64.toNat < UInt64.size := x.toUInt64.toNat_lt
  rw [readSigned?, read?_write (by decide) (by decide), Option.filter_some,
    if_pos (decide_eq_true hword), Option.map_some, ofWord_toNat]

/-- **No other digits are**, among those that look like a written number. -/
theorem readSigned?_eq_some_iff {digits : List Char} (h : Canonical 16 digits) {value : Int} :
    readSigned? digits = some value ↔
      ∃ x : Int64, x.toInt = value ∧ digits = write 16 x.toUInt64.toNat := by
  constructor
  · intro hread
    obtain ⟨n, rfl⟩ := (canonical_iff (by decide) (by decide)).mp h
    obtain ⟨word, hword, hvalue⟩ := Option.map_eq_some_iff.mp hread
    obtain ⟨hdigits, hfits⟩ := Option.filter_eq_some_iff.mp hword
    rw [read?_write (by decide) (by decide)] at hdigits
    obtain rfl := Option.some.inj hdigits
    obtain ⟨x, rfl⟩ := exists_int64_of_lt (of_decide_eq_true hfits)
    exact ⟨x, (ofWord_toNat x).symm.trans hvalue, rfl⟩
  · rintro ⟨x, rfl, rfl⟩
    exact readSigned?_write x

/-- Around the change of sign, and at both ends. -/
example : readSigned? "7fffffffffffffff".toList = some 0x7FFFFFFFFFFFFFFF ∧
    readSigned? "8000000000000000".toList = some (-0x8000000000000000) ∧
    readSigned? "ffffffffffffffff".toList = some (-1) ∧
    readSigned? "10000000000000000".toList = none := by decide

end Numeral

end WindowDecor
