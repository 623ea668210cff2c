import Mathlib.Algebra.Group.Nat.Defs
import Mathlib.Data.Char
import Mathlib.Data.List.Lex
import WindowDecor.Window.Failure

/-!
# Texts in byte order

Texts are compared by the bytes of their UTF-8 form, and that is the order of their code points.
UTF-8 is a positional notation: a code point is written to the base 64, and the first byte is marked
with the number of bytes that follow it.

* `positional` — the notation, and `utf8EncodeChar_eq` that characters are written in it.
* `positional_lt` — among code points with the same number of bytes it keeps the order, by induction
  on that number; `firstByte_lt` — a mark is larger than everything without it.
* **`utf8EncodeChar_append_lt`** — so a smaller character is smaller whatever follows, and no
  character is the beginning of another one.
* `KeepsOrder.flatMap_lt_iff` — a code with that property keeps the order of texts.
* **`compareBytes_eq_compare`** — hence byte order is the order by code points.
-/

namespace WindowDecor

/-! ## First bytes -/

/-- A first byte that is smaller decides. -/
theorem cons_lt_cons_of_lt {m n : Nat} (h : m < n) (hn : n < 256) (s t : List UInt8) :
    UInt8.ofNat m :: s < UInt8.ofNat n :: t := by
  refine List.cons_lt_cons_iff.mpr (.inl ?_)
  rw [UInt8.lt_iff_toNat_lt, UInt8.toNat_ofNat', UInt8.toNat_ofNat']
  omega

/-- How many bytes follow the first one. -/
def followers (v : Nat) : Nat :=
  if v ≤ 0x7F then 0 else if v ≤ 0x7FF then 1 else if v ≤ 0xFFFF then 2 else 3

/-- What the first byte is marked with when `n` bytes follow it. -/
def lengthMark : Nat → Nat
  | 0 => 0
  | 1 => 0xC0
  | 2 => 0xE0
  | _ => 0xF0

/-- The first byte: the mark, and the digits that are left for it. -/
def firstByte (n v : Nat) : Nat := lengthMark n + v / 64 ^ n

/-- Greater characters have no fewer bytes. -/
theorem followers_mono {v w : Nat} (h : v ≤ w) : followers v ≤ followers w := by
  unfold followers
  split_ifs <;> omega

/-- **A longer encoding has a larger first byte.** -/
theorem firstByte_lt {v w : Nat} (h : followers v < followers w) :
    firstByte (followers v) v < firstByte (followers w) w := by
  unfold firstByte followers at *
  split_ifs at h ⊢ <;> simp only [lengthMark] <;> omega

/-- The first byte is a byte. -/
theorem firstByte_lt_256 {v : Nat} (h : v < 0x110000) : firstByte (followers v) v < 256 := by
  unfold firstByte followers
  split_ifs <;> simp only [lengthMark] <;> omega

/-! ## Positions -/

/-- A code point with `n` bytes after the first one, six bits in each of them. -/
def positional (mark : Nat) : Nat → Nat → List UInt8
  | 0, v => [UInt8.ofNat (mark + v)]
  | n + 1, v => positional mark n (v / 64) ++ [UInt8.ofNat (v % 64 + 0x80)]

/-- The number is in the first byte, as far as it is not in the others. -/
theorem exists_positional_eq (mark n v : Nat) :
    ∃ rest, positional mark n v = UInt8.ofNat (mark + v / 64 ^ n) :: rest := by
  induction n generalizing v with
  | zero => exact ⟨[], by simp [positional]⟩
  | succ n ih =>
    obtain ⟨rest, hrest⟩ := ih (v / 64)
    refine ⟨rest ++ [UInt8.ofNat (v % 64 + 0x80)], ?_⟩
    rw [positional, hrest, Nat.div_div_eq_div_mul, ← Nat.pow_succ', List.cons_append]

/-- **Positions keep the order**, whatever follows. -/
theorem positional_lt {mark n v w : Nat} (h : v < w) (hw : mark + w / 64 ^ n < 256)
    (s t : List UInt8) : positional mark n v ++ s < positional mark n w ++ t := by
  induction n generalizing v w s t with
  | zero =>
    simp only [Nat.pow_zero, Nat.div_one] at hw
    exact cons_lt_cons_of_lt (by omega) hw s t
  | succ n ih =>
    have hdigits : v / 64 < w / 64 ∨ v / 64 = w / 64 ∧ v % 64 < w % 64 := by omega
    simp only [positional, List.append_assoc, List.singleton_append]
    rcases hdigits with hbefore | ⟨hbefore, hlast⟩
    · refine ih hbefore ?_ _ _
      rwa [Nat.div_div_eq_div_mul, ← Nat.pow_succ']
    · rw [hbefore]
      exact List.append_left_lt (cons_lt_cons_of_lt (by omega) (by omega) s t)

/-! ## Characters -/

theorem code_lt (c : Char) : c.toNat < 0x110000 := by
  rcases c.valid with h | ⟨-, h⟩
  · exact Nat.lt_trans h (by decide)
  · exact h

/-- **A character is written to the base 64.** -/
theorem utf8EncodeChar_eq (c : Char) : String.utf8EncodeChar c =
    positional (lengthMark (followers c.toNat)) (followers c.toNat) c.toNat := by
  have hc := code_lt c
  have hval : c.val.toNat = c.toNat := rfl
  simp only [String.utf8EncodeChar, hval, followers]
  generalize c.toNat = v at hc ⊢
  -- the remainder that the first byte is taken by does not cut anything off
  split_ifs with h1 h2 h3
  · simp [positional, lengthMark]
  · have hfirst : v / 64 % 32 + 192 = 0xC0 + v / 64 := by omega
    simp [positional, lengthMark, hfirst]
  · have hfirst : v / 4096 % 16 + 224 = 0xE0 + v / 4096 := by omega
    simp [positional, lengthMark, hfirst, Nat.div_div_eq_div_mul]
  · have hfirst : v / 262144 % 8 + 240 = 0xF0 + v / 262144 := by omega
    simp [positional, lengthMark, hfirst, Nat.div_div_eq_div_mul]

/-- **A smaller character is smaller in bytes, whatever follows.** -/
theorem utf8EncodeChar_append_lt {c d : Char} (h : c < d) (s t : List UInt8) :
    String.utf8EncodeChar c ++ s < String.utf8EncodeChar d ++ t := by
  have hcode : c.toNat < d.toNat := h
  have hfirst := firstByte_lt_256 (code_lt d)
  rw [utf8EncodeChar_eq, utf8EncodeChar_eq]
  rcases Nat.lt_or_eq_of_le (followers_mono hcode.le) with hlonger | hsame
  · obtain ⟨p, hp⟩ := exists_positional_eq (lengthMark (followers c.toNat)) (followers c.toNat) c.toNat
    obtain ⟨q, hq⟩ := exists_positional_eq (lengthMark (followers d.toNat)) (followers d.toNat) d.toNat
    rw [hp, hq, List.cons_append, List.cons_append]
    exact cons_lt_cons_of_lt (firstByte_lt hlonger) hfirst _ _
  · rw [hsame]
    exact positional_lt hcode hfirst s t

/-! ## Texts -/

/-- A code for characters in which a smaller one is smaller whatever follows. -/
structure KeepsOrder {α : Type} [LT α] (code : Char → List α) : Prop where
  ne_nil : ∀ c, code c ≠ []
  append_lt : ∀ {c d}, c < d → ∀ s t, code c ++ s < code d ++ t

section

variable {α : Type} [LT α] {code : Char → List α} {s t : List Char}

/-- **Such a code keeps the order of texts**, by induction on what they have in common. -/
theorem KeepsOrder.flatMap_lt (hcode : KeepsOrder code) (h : s < t) :
    s.flatMap code < t.flatMap code := by
  induction h with
  | @nil c t =>
    obtain ⟨first, rest, hc⟩ := List.exists_cons_of_ne_nil (hcode.ne_nil c)
    simp only [List.flatMap_nil, List.flatMap_cons, hc, List.cons_append]
    exact List.nil_lt_cons _ _
  | cons _ ih =>
    simp only [List.flatMap_cons]
    exact List.append_left_lt ih
  | rel hcd =>
    simp only [List.flatMap_cons]
    exact hcode.append_lt hcd _ _

variable [Std.Asymm fun a b : α => a < b]

/-- **An encoding that keeps the order of characters keeps that of texts.** -/
theorem KeepsOrder.flatMap_lt_iff (hcode : KeepsOrder code) :
    s.flatMap code < t.flatMap code ↔ s < t := by
  refine ⟨fun h => ?_, hcode.flatMap_lt⟩
  rcases lt_trichotomy s t with hlt | rfl | hgt
  · exact hlt
  · exact absurd h (List.lt_asymm h)
  · exact absurd h (List.lt_asymm (hcode.flatMap_lt hgt))

theorem KeepsOrder.flatMap_inj (hcode : KeepsOrder code) :
    s.flatMap code = t.flatMap code ↔ s = t := by
  refine ⟨fun h => ?_, fun h => h ▸ rfl⟩
  rcases lt_trichotomy s t with hlt | heq | hgt
  · have hless := hcode.flatMap_lt hlt
    rw [h] at hless
    exact absurd hless (List.lt_asymm hless)
  · exact heq
  · have hless := hcode.flatMap_lt hgt
    rw [h] at hless
    exact absurd hless (List.lt_asymm hless)

end

/-- UTF-8 keeps the order of characters. -/
theorem keepsOrder_utf8EncodeChar : KeepsOrder String.utf8EncodeChar where
  ne_nil _ := String.utf8EncodeChar_ne_nil
  append_lt := utf8EncodeChar_append_lt

theorem keepsOrder_toNat : KeepsOrder fun c => [c.toNat] where
  ne_nil _ := List.cons_ne_nil _ _
  append_lt h _ _ := List.cons_lt_cons_iff.mpr (.inl h)

/-- **Byte order is the order of texts by code points.** -/
theorem compareBytes_eq_compare (a b : String) : compareBytes a b = compare a b := by
  show compareOfLessAndEq (a.toList.flatMap String.utf8EncodeChar)
    (b.toList.flatMap String.utf8EncodeChar) = compareOfLessAndEq a b
  simp only [compareOfLessAndEq, keepsOrder_utf8EncodeChar.flatMap_lt_iff,
    keepsOrder_utf8EncodeChar.flatMap_inj, String.lt_iff, String.toList_inj]

/-- In UTF-16 this would be the other way round. -/
example : compareBytes "\uFFEE" (String.singleton (Char.ofNat 0x10000)) = .lt := by decide

/-- Bytes decide like the order of texts. -/
theorem compareBytes_eq_lt_iff {a b : String} : compareBytes a b = .lt ↔ a < b := by
  rw [compareBytes_eq_compare]
  exact compareOfLessAndEq_eq_lt

/-- **Texts are ordered by their bytes.** -/
theorem toUTF8_lt_iff {a b : String} : a.toUTF8.data.toList < b.toUTF8.data.toList ↔ a < b := by
  have hbytes : ∀ s : String, s.toUTF8.data.toList = s.toList.flatMap String.utf8EncodeChar := by
    intro s
    rw [String.toUTF8, ← String.utf8Encode_toList, List.utf8Encode]
    simp
  rw [hbytes, hbytes, keepsOrder_utf8EncodeChar.flatMap_lt_iff, String.lt_iff]

theorem map_toNat_lt_iff {a b : String} :
    a.toList.map Char.toNat < b.toList.map Char.toNat ↔ a < b := by
  rw [List.map_eq_flatMap, List.map_eq_flatMap, keepsOrder_toNat.flatMap_lt_iff, String.lt_iff]

end WindowDecor
