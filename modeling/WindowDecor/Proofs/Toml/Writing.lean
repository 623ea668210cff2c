import WindowDecor.Proofs.Text.Digits
import WindowDecor.Proofs.Toml.RootKeys

/-!
# Tables that were written down

A table of integers and texts that was written down with a line `key = value` for each entry
(`TableSpelling`) is read as it was written.

* `basic?_of_textSpelling`, `integer?_writeInt`, `value?_of_valueSpelling`, `line?_writeLine`,
  `lines?_of_tableSpelling` — **each part is read as it was written**, and what follows it is left.
* **`Document.root?_of_tableSpelling`** — so is the table, and this is what is relied on of a reader
  (`Document.readsTables_reader`).

What a word may not be taken for takes most of the work: an integer in decimal is no date, no number
to another base and no truth value, and an empty text is not the beginning of a text over several
lines.
-/

namespace WindowDecor

namespace Numeral

/-! ## Digits -/

/-- A number is written in digits. -/
theorem isDigit_of_mem_write {n : Nat} {c : Char} (h : c ∈ write 10 n) : c.isDigit :=
  Nat.isDigit_of_mem_toDigits (by decide) (by decide) h

theorem isDigit_ten {c : Char} (h : c.isDigit) : isDigit 10 c := by
  have hrange : '0' ≤ c ∧ c ≤ '9' := by
    rw [Char.isDigit, Bool.and_eq_true, decide_eq_true_eq, decide_eq_true_eq] at h
    exact h
  have hsmall : c.toNat - '0'.toNat < 10 := by
    have hhigh : c.toNat ≤ '9'.toNat := hrange.2
    have hnine : '9'.toNat = 57 := rfl
    have hzero : '0'.toNat = 48 := rfl
    omega
  simp only [isDigit, digit?, hexDigit?, if_pos hrange, Option.filter,
    hsmall, decide_true, if_true, Option.isSome_some]

/-- An integer is written as digits, or as digits behind a minus sign. -/
theorem toList_writeInt (n : Int) :
    (0 ≤ n ∧ (writeInt n).toList = write 10 n.toNat) ∨
      (n < 0 ∧ (writeInt n).toList = '-' :: write 10 (-n).toNat) := by
  cases n with
  | ofNat m => exact .inl ⟨Int.natCast_nonneg m, String.toList_ofList⟩
  | negSucc m =>
    refine .inr ⟨Int.negSucc_lt_zero m, ?_⟩
    have hdecimal : (decimal (m + 1)).toList = write 10 (m + 1) :=
      String.toList_ofList
    rw [writeInt, String.toList_append, hdecimal]
    rfl

/-- Only the first character of a written integer may be other than a digit. -/
theorem isDigit_tail_writeInt (n : Int) : ∀ c ∈ (writeInt n).toList.tail, c.isDigit := by
  intro c h
  rcases toList_writeInt n with ⟨-, hword⟩ | ⟨-, hword⟩
  · rw [hword] at h
    exact isDigit_of_mem_write (List.mem_of_mem_tail h)
  · rw [hword] at h
    exact isDigit_of_mem_write h

end Numeral

namespace Toml

/-! ## Quoted texts -/

/-- A spelling of a character is read as the character. -/
theorem basic?_of_charSpelling {c : Char} {spelling : List Char} (h : CharSpelling c spelling)
    (r : List Char) : basic? (spelling ++ r) = push? (some c) (basic? r) := by
  cases h with
  | plain hvisible hquote hbackslash =>
    rw [List.singleton_append, basic?, if_pos hvisible]
    · exact hquote
    all_goals simp [hbackslash]
  | @short letter hletter =>
    have hu : letter ≠ 'u' := by
      rintro rfl
      cases hletter
    have hU : letter ≠ 'U' := by
      rintro rfl
      cases hletter
    rw [List.cons_append, List.singleton_append, basic?, hletter]
    · simp [hu]
    · simp [hU]
  | four hdigits => exact congrArg (push? · (basic? r)) hdigits
  | eight hdigits => exact congrArg (push? · (basic? r)) hdigits

/-- **A text between double quotes is read as it was meant.** -/
theorem basic?_of_textSpelling {text spelling : List Char} (h : TextSpelling text spelling)
    (r : List Char) : basic? (spelling ++ '"' :: r) = some (text, r) := by
  induction h with
  | nil => rfl
  | cons hc _ ih =>
    rw [List.append_assoc, basic?_of_charSpelling hc, ih]
    rfl

/-! ## Integers -/

/-- A run of digits is read to its end. -/
theorem digitRun?_eq_self {digits : List Char} (hne : digits ≠ [])
    (hdigits : ∀ c ∈ digits, c.isDigit) : digitRun? 10 digits = some digits := by
  induction digits with
  | nil => exact absurd rfl hne
  | cons c rest ih =>
    have hc := Numeral.isDigit_ten (hdigits c List.mem_cons_self)
    cases rest with
    | nil => simp only [digitRun?, hc, if_true]
    | cons c' rest' =>
      have hrest : ∀ c ∈ c' :: rest', c.isDigit :=
        fun c h => hdigits c (List.mem_cons_of_mem _ h)
      have hunderscore : c' ≠ '_' := by
        rintro rfl
        exact absurd (hrest '_' List.mem_cons_self) (by decide)
      rw [digitRun?, if_pos hc, ih (by simp) hrest, Option.map_some]
      · exact fun h => by simp at h
      · intro r h
        exact hunderscore (List.cons.inj h).1

/-- What is written for a number is read as a whole: it has no zero in front. -/
@[simp] theorem wholeDigits?_write (n : Nat) :
    wholeDigits? (Numeral.write 10 n) = some (Numeral.write 10 n) := by
  have hrun : digitRun? 10 (Numeral.write 10 n) = some (Numeral.write 10 n) :=
    digitRun?_eq_self Nat.toDigits_ne_nil fun _ => Numeral.isDigit_of_mem_write
  by_cases hn : n = 0
  · subst hn
    rfl
  · have hhead : (Numeral.write 10 n).head? ≠ some '0' :=
      Numeral.head?_write_ne_zero (by decide) (by decide) hn
    simp only [wholeDigits?, hrun]
    split
    · next h => exact h.symm
    · next h =>
      rw [Option.some.inj h] at hhead
      exact absurd rfl hhead
    · rfl

@[simp] theorem splitSign_write (n : Nat) :
    splitSign (Numeral.write 10 n) = (false, Numeral.write 10 n) := by
  have hdigits : ∀ c ∈ Numeral.write 10 n, c.isDigit := fun _ => Numeral.isDigit_of_mem_write
  unfold splitSign
  split
  · next h => exact absurd (hdigits '-' (h ▸ List.mem_cons_self)) (by decide)
  · next h => exact absurd (hdigits '+' (h ▸ List.mem_cons_self)) (by decide)
  · rfl

/-- A number is read with its sign, if it fits. -/
theorem decimalInteger?_eq {word : List Char} {negative : Bool} {n : Nat}
    (hsign : splitSign word = (negative, Numeral.write 10 n)) :
    decimalInteger? word = fit64? (if negative then -n else n) := by
  have hread : (wholeDigits? (Numeral.write 10 n)).bind (Numeral.read? 10) = some n := by
    rw [wholeDigits?_write, Option.bind_some]
    exact Numeral.read?_write (by decide) (by decide) n
  simp only [decimalInteger?, hsign, hread, Option.bind_some]

/-- **A number that fits is read as it was written.** -/
theorem decimalInteger?_writeInt {n : Int} (hfits : fit64? n = some n) :
    decimalInteger? (Numeral.writeInt n).toList = some n := by
  rcases Numeral.toList_writeInt n with ⟨hsign, hword⟩ | ⟨hsign, hword⟩
  · have hvalue : ((n.toNat : Nat) : Int) = n := Int.toNat_of_nonneg hsign
    rw [hword, decimalInteger?_eq (splitSign_write _), if_neg Bool.false_ne_true, hvalue, hfits]
  · have hvalue : -((-n).toNat : Int) = n := by omega
    rw [hword, decimalInteger?_eq rfl, if_pos rfl, hvalue, hfits]

/-- **An integer is read as it was written.** -/
theorem integer?_writeInt {n : Int} (hfits : fit64? n = some n) :
    integer? (Numeral.writeInt n).toList = some n := by
  have htail := Numeral.isDigit_tail_writeInt n
  have hdecimal := decimalInteger?_writeInt hfits
  -- what would make it another base is no digit
  unfold integer?
  split
  · next h => exact absurd (htail 'x' (h ▸ List.mem_cons_self)) (by decide)
  · next h => exact absurd (htail 'o' (h ▸ List.mem_cons_self)) (by decide)
  · next h => exact absurd (htail 'b' (h ▸ List.mem_cons_self)) (by decide)
  · exact hdecimal

/-- No number looks like a date. -/
@[simp] theorem isDate_writeInt (n : Int) : isDate (Numeral.writeInt n).toList = false := by
  have htail := Numeral.isDigit_tail_writeInt n
  have hnone : date? (Numeral.writeInt n).toList = none := by
    unfold date?
    split
    · next h => exact absurd (htail '-' (by simp [h])) (by decide)
    · rfl
  rw [isDate, hnone]
  rfl

/-! ## Values -/

/-- Nothing is left of the line. -/
def AtLineEnd (rest : List Char) : Prop := rest = [] ∨ ∃ r, rest = '\n' :: r

theorem isWordChar_of_isDigit {c : Char} (h : c.isDigit) : isWordChar c := by
  simp [isWordChar, isBareKeyChar, Char.isAlphanum, h]

/-- A word ends where the line ends. -/
theorem span_word {word rest : List Char} (hword : ∀ c ∈ word, isWordChar c)
    (hrest : AtLineEnd rest) :
    (word ++ rest).takeWhile isWordChar = word ∧ (word ++ rest).dropWhile isWordChar = rest := by
  rw [List.takeWhile_append_of_pos hword, List.dropWhile_append_of_pos hword]
  rcases hrest with rfl | ⟨r, rfl⟩
  · exact ⟨List.append_nil word, rfl⟩
  · exact ⟨List.append_nil word, rfl⟩

/-- A character that an integer may begin with. -/
def StartsInteger (c : Char) : Prop := c = '-' ∨ c.isDigit

/-- No character but a digit or a minus starts a number. -/
theorem StartsInteger.ne {c : Char} (h : StartsInteger c) (other : Char) (hminus : other ≠ '-')
    (hdigit : other.isDigit = false) : c ≠ other := by
  rintro rfl
  rcases h with hc | hc
  · exact hminus hc
  · exact absurd hc (by simp [hdigit])

/-- A number starts like one and goes on in digits. -/
theorem exists_cons_writeInt (n : Int) : ∃ c cs, (Numeral.writeInt n).toList = c :: cs ∧
    StartsInteger c ∧ ∀ c' ∈ cs, c'.isDigit := by
  have htail := Numeral.isDigit_tail_writeInt n
  rcases Numeral.toList_writeInt n with ⟨-, hword⟩ | ⟨-, hword⟩
  · obtain ⟨c, cs, hdigits⟩ := List.exists_cons_of_ne_nil
      (show Numeral.write 10 n.toNat ≠ [] from Nat.toDigits_ne_nil)
    rw [hword, hdigits] at htail ⊢
    exact ⟨c, cs, rfl, .inr (Numeral.isDigit_of_mem_write (hdigits ▸ List.mem_cons_self)), htail⟩
  · rw [hword] at htail ⊢
    exact ⟨'-', _, rfl, .inl rfl, htail⟩

theorem ofWord?_writeInt {n : Int} (hfits : fit64? n = some n) :
    Value.ofWord? (Numeral.writeInt n).toList = some (.integer n) := by
  obtain ⟨c, cs, hword, hfirst, -⟩ := exists_cons_writeInt n
  have htrue : (Numeral.writeInt n).toList ≠ ['t', 'r', 'u', 'e'] := fun h =>
    hfirst.ne 't' (by decide) rfl (List.cons.inj (hword.symm.trans h)).1
  have hfalse : (Numeral.writeInt n).toList ≠ ['f', 'a', 'l', 's', 'e'] := fun h =>
    hfirst.ne 'f' (by decide) rfl (List.cons.inj (hword.symm.trans h)).1
  rw [Value.ofWord?, if_neg htrue, if_neg hfalse, integer?_writeInt hfits, Option.map_some,
    Option.some_or]

/-- No other value begins as an integer does. -/
theorem value?_eq_scalarValue? {depth : Nat} {c : Char} {r : List Char} (hbracket : c ≠ '[')
    (hbrace : c ≠ '\x7b') : value? depth (c :: r) = scalarValue? (c :: r) := by
  cases depth with
  | zero => rw [value?] <;> simp
  | succ depth => rw [value?] <;> simp [hbracket, hbrace]

theorem text?_eq_none {c : Char} {r : List Char} (hquote : c ≠ '"') (hapostrophe : c ≠ '\x27') :
    text? (c :: r) = none := by
  rw [text?] <;> simp [hquote, hapostrophe]

/-- A number at the end of a line is read as that number. -/
theorem scalarValue?_writeInt {n : Int} (hfits : fit64? n = some n) {rest : List Char}
    (hrest : AtLineEnd rest) :
    scalarValue? ((Numeral.writeInt n).toList ++ rest) = some (.integer n, rest) := by
  obtain ⟨c, cs, hword, hfirst, hdigits⟩ := exists_cons_writeInt n
  have hchars : ∀ c' ∈ (Numeral.writeInt n).toList, isWordChar c' := by
    rw [hword, List.forall_mem_cons]
    refine ⟨?_, fun c' hc' => isWordChar_of_isDigit (hdigits c' hc')⟩
    rcases hfirst with rfl | hdigit
    · decide
    · exact isWordChar_of_isDigit hdigit
  have hnone : text? ((Numeral.writeInt n).toList ++ rest) = none := by
    rw [hword]
    exact text?_eq_none (hfirst.ne '"' (by decide) rfl) (hfirst.ne '\x27' (by decide) rfl)
  obtain ⟨htake, hdrop⟩ := span_word hchars hrest
  simp [scalarValue?, hnone, htake, hdrop, ofWord?_writeInt hfits]

/-- Written text has no quotes but those around it. -/
theorem TextSpelling.head?_ne {text spelling : List Char} (h : TextSpelling text spelling) :
    spelling.head? ≠ some '"' := by
  cases h with
  | nil => simp
  | cons hc _ =>
    cases hc with
    | plain _ hquote _ => simpa using hquote
    | _ => simp

/-- A text that does not begin with three quotes ends at the next one. -/
theorem text?_eq_basic? {r : List Char} (h : ∀ r', r ≠ '"' :: '"' :: r') :
    text? ('"' :: r) = basic? r := by
  rw [text?]
  exact fun r' hr => h r' hr

theorem scalarValue?_text {text : String} {spelling : List Char}
    (h : TextSpelling text.toList spelling) {rest : List Char} (hrest : AtLineEnd rest) :
    scalarValue? ('"' :: (spelling ++ '"' :: rest)) = some (.text text, rest) := by
  -- the quotes are not tripled: not even those of an empty text, for then the line ends
  have hsingle : ∀ r, spelling ++ '"' :: rest ≠ '"' :: '"' :: r := by
    intro r htriple
    cases spelling with
    | nil =>
      obtain rfl := (List.cons.inj htriple).2
      rcases hrest with hnil | ⟨r', hbreak⟩
      · cases hnil
      · cases hbreak
    | cons c cs =>
      obtain rfl := (List.cons.inj htriple).1
      exact h.head?_ne rfl
  have htext : text? ('"' :: (spelling ++ '"' :: rest)) = some (text.toList, rest) := by
    rw [text?_eq_basic? hsingle, basic?_of_textSpelling h]
  simp only [scalarValue?, htext, String.ofList_toList]

/-- **A value is read as it was written**, up to the end of the line. -/
theorem value?_of_valueSpelling {value : Value} {spelling : List Char}
    (h : ValueSpelling value spelling) {rest : List Char} (hrest : AtLineEnd rest) (depth : Nat) :
    value? depth (spelling ++ rest) = some (value, rest) ∧
      skipBlanks (spelling ++ rest) = spelling ++ rest := by
  cases h with
  | @integer n hlow hhigh =>
    have hfits : fit64? n = some n := if_pos ⟨hlow, hhigh⟩
    obtain ⟨c, cs, hword, hfirst, -⟩ := exists_cons_writeInt n
    have hscalar := scalarValue?_writeInt hfits hrest
    rw [hword, List.cons_append] at hscalar ⊢
    refine ⟨?_, ?_⟩
    · have hbracket := hfirst.ne '[' (by decide) rfl
      have hbrace := hfirst.ne '\x7b' (by decide) rfl
      rw [value?_eq_scalarValue? hbracket hbrace, hscalar]
    · have hblank : isBlank c = false := by
        have hspace := hfirst.ne ' ' (by decide) rfl
        have htab := hfirst.ne '\t' (by decide) rfl
        simp [isBlank, hspace, htab]
      rw [skipBlanks, List.dropWhile_cons, hblank]
      rfl
  | text htext =>
    rw [List.cons_append, List.append_assoc]
    refine ⟨?_, rfl⟩
    rw [value?_eq_scalarValue? (by decide) (by decide)]
    exact scalarValue?_text htext hrest

/-! ## Lines -/

/-- An assignment of a value to a single key. -/
def Assignment.Assigns (a : Assignment) (key : String) (value : Value) : Prop :=
  a.path.parents = [] ∧ a.path.last.text = key ∧ a.value = value

/-- Nothing else of a line begins as a bare key does. -/
theorem BareKey.exists_cons {key : List Char} (h : BareKey key) :
    ∃ c cs, key = c :: cs ∧ ∀ other, isBareKeyChar other = false → c ≠ other := by
  obtain ⟨c, cs, rfl⟩ := List.exists_cons_of_ne_nil h.1
  refine ⟨c, cs, rfl, ?_⟩
  rintro other hother rfl
  exact absurd (h.2 c List.mem_cons_self) (by simp [hother])

/-- A bare key is read up to the blank. -/
theorem BareKey.keyText? {key : List Char} (h : BareKey key) (r : List Char) :
    keyText? (key ++ ' ' :: r) = some (key, ' ' :: r) := by
  have htake : (key ++ ' ' :: r).takeWhile isBareKeyChar = key := by
    rw [List.takeWhile_append_of_pos h.2]
    exact List.append_nil _
  have hdrop : (key ++ ' ' :: r).dropWhile isBareKeyChar = ' ' :: r := by
    rw [List.dropWhile_append_of_pos h.2]
    rfl
  obtain ⟨c, cs, rfl, hne⟩ := h.exists_cons
  rw [Toml.keyText?]
  · simp only [htake, hdrop, List.isEmpty_cons, Bool.false_eq_true, if_false]
  · simp [hne '"' rfl]
  · simp [hne '\x27' rfl]

theorem BareKey.skipBlanks {key : List Char} (h : BareKey key) (r : List Char) :
    skipBlanks (key ++ r) = key ++ r := by
  obtain ⟨c, cs, rfl, hne⟩ := h.exists_cons
  have hblank : isBlank c = false := by simp [isBlank, hne ' ' rfl, hne '\t' rfl]
  rw [Toml.skipBlanks, List.cons_append, List.dropWhile_cons, hblank]
  rfl

theorem keyPath?_of_bareKey {key : List Char} (h : BareKey key) (r : List Char) :
    ∃ path : KeyPath, keyPath? maxKeyParts (key ++ ' ' :: '=' :: r) = some (path, '=' :: r) ∧
      path.parents = [] ∧ path.last.text = String.ofList key := by
  have hpart : keyPart? (key ++ ' ' :: '=' :: r) =
      some (⟨String.ofList key, ⟨key ++ ' ' :: '=' :: r, ' ' :: '=' :: r⟩⟩, ' ' :: '=' :: r) := by
    rw [keyPart?, h.keyText?]
    rfl
  refine ⟨⟨[], ⟨String.ofList key, ⟨key ++ ' ' :: '=' :: r, ' ' :: '=' :: r⟩⟩⟩, ?_, rfl, rfl⟩
  rw [maxKeyParts, keyPath?, h.skipBlanks, hpart]
  rfl

theorem lineEnd?_of_atLineEnd {rest : List Char} (h : AtLineEnd rest) :
    lineEnd? rest = some rest.tail := by
  rcases h with rfl | ⟨r, rfl⟩ <;> rfl

/-- A line that begins with a key does not end there. -/
theorem BareKey.lineEnd? {key : List Char} (h : BareKey key) (r : List Char) :
    lineEnd? (key ++ r) = none := by
  rw [Toml.lineEnd?, h.skipBlanks]
  obtain ⟨c, cs, rfl, hne⟩ := h.exists_cons
  have hcomment : skipComment (c :: cs ++ r) = c :: cs ++ r := by
    rw [skipComment]
    simp [hne '#' rfl]
  rw [hcomment]
  show lineBreak? (c :: (cs ++ r)) = none
  rw [lineBreak?]
  · simp [hne '\n' rfl]
  · simp [hne '\r' rfl]

/-- **A line is read as the assignment that was written.** -/
theorem assignment?_writeLine {key : List Char} (hkey : BareKey key) {value : Value}
    {spelling : List Char} (hvalue : ValueSpelling value spelling) {rest : List Char}
    (hrest : AtLineEnd rest) :
    ∃ a : Assignment, assignment? (writeLine key spelling ++ rest) = some (a, rest.tail) ∧
      a.Assigns (String.ofList key) value := by
  obtain ⟨hread, hstart⟩ := value?_of_valueSpelling hvalue hrest maxDepth
  obtain ⟨path, hpath, hsingle, hname⟩ := keyPath?_of_bareKey hkey (' ' :: (spelling ++ rest))
  refine ⟨⟨path, value, ⟨spelling ++ rest, rest⟩⟩, ?_, hsingle, hname, rfl⟩
  have hskip : skipBlanks (' ' :: (spelling ++ rest)) = spelling ++ rest := hstart
  have hline : writeLine key spelling ++ rest = key ++ ' ' :: '=' :: ' ' :: (spelling ++ rest) := by
    simp [writeLine]
  rw [hline, assignment?, hpath]
  simp only [Option.bind_eq_bind, Option.bind_some, hskip, hread, lineEnd?_of_atLineEnd hrest]

/-- **A line is read as it was written.** -/
theorem line?_writeLine {key : List Char} (hkey : BareKey key) {value : Value}
    {spelling : List Char} (hvalue : ValueSpelling value spelling) {rest : List Char}
    (hrest : AtLineEnd rest) :
    ∃ a : Assignment,
      line? (writeLine key spelling ++ rest) = some (some (.assignment a), rest.tail) ∧
        a.Assigns (String.ofList key) value := by
  obtain ⟨a, ha, hassigns⟩ := assignment?_writeLine hkey hvalue hrest
  refine ⟨a, ?_, hassigns⟩
  have hline : writeLine key spelling ++ rest = key ++ (' ' :: '=' :: ' ' :: spelling ++ rest) := by
    simp [writeLine]
  rw [hline] at ha ⊢
  rw [line?, hkey.lineEnd?, hkey.skipBlanks]
  obtain ⟨c, cs, rfl, hne⟩ := hkey.exists_cons
  simp only [List.cons_append] at ha ⊢
  split
  · next h => exact absurd (List.cons.inj h).1 (hne '[' rfl)
  · rw [ha]
    rfl

/-! ## Documents -/

/-- The entry that an assignment to a single key makes. -/
def Assignment.entry (a : Assignment) : String × Value := (a.path.last.text, a.value)

/-- Assignments to single keys. -/
def AllSingle (assignments : List Assignment) : Prop := ∀ a ∈ assignments, a.path.parents = []

/-- One line more is one assignment more. -/
theorem lines?_of_line {key : String} {value : Value} {spelling rest : List Char} (rounds : Nat)
    (hkey : BareKey key.toList) (hvalue : ValueSpelling value spelling) (hrest : AtLineEnd rest)
    {assignments : List Assignment} (hsingle : AllSingle assignments)
    (hlines : lines? rounds rest.tail = some (assignments.map .assignment)) :
    ∃ a : Assignment, lines? (rounds + 1) (writeLine key.toList spelling ++ rest) =
        some ((a :: assignments).map .assignment) ∧
      AllSingle (a :: assignments) ∧ a.entry = (key, value) := by
  obtain ⟨a, hline, hparents, hname, hread⟩ := line?_writeLine hkey hvalue hrest
  refine ⟨a, ?_, List.forall_mem_cons.mpr ⟨hparents, hsingle⟩, ?_⟩
  · obtain ⟨c, cs, hcons, -⟩ := hkey.exists_cons
    have hsome : ∃ c' cs', writeLine key.toList spelling ++ rest = c' :: cs' := by
      rw [hcons]
      exact ⟨c, _, rfl⟩
    obtain ⟨c', cs', htext⟩ := hsome
    rw [htext] at hline ⊢
    rw [lines?, hline]
    · simp only [Option.bind_eq_bind, Option.bind_some, hlines]
      rfl
    · simp
  · rw [Assignment.entry, hname, hread, String.ofList_toList]

/-- **The lines are read as they were written.** -/
theorem lines?_of_tableSpelling {entries : Entries} {text : List Char}
    (h : TableSpelling entries text) {rounds : Nat} (hrounds : text.length ≤ rounds) :
    ∃ assignments : List Assignment, lines? rounds text = some (assignments.map .assignment) ∧
      AllSingle assignments ∧ assignments.map (·.entry) = entries := by
  induction h generalizing rounds with
  | empty => exact ⟨[], by cases rounds <;> rfl, fun _ h => absurd h List.not_mem_nil, rfl⟩
  | @last key value spelling hkey hvalue =>
    cases rounds with
    | zero =>
      rw [writeLine, List.length_append, List.length_cons] at hrounds
      omega
    | succ rounds =>
      have hnone : lines? rounds [] = some (([] : List Assignment).map .assignment) := by
        cases rounds <;> rfl
      obtain ⟨a, hlines, hsingle, hentry⟩ :=
        lines?_of_line rounds hkey hvalue (.inl rfl) (fun _ h => absurd h List.not_mem_nil) hnone
      rw [List.append_nil] at hlines
      exact ⟨[a], hlines, hsingle, congrArg (fun entry => [entry]) hentry⟩
  | @line key value spelling entries text hkey hvalue _ ih =>
    rw [List.length_append, List.length_cons] at hrounds
    cases rounds with
    | zero => omega
    | succ rounds =>
      obtain ⟨rest, hrest, hsingle, rfl⟩ := ih (show text.length ≤ rounds by omega)
      obtain ⟨a, hlines, hall, hentry⟩ :=
        lines?_of_line rounds hkey hvalue (.inr ⟨text, rfl⟩) hsingle hrest
      exact ⟨a :: rest, hlines, hall, by rw [List.map_cons, hentry]⟩

theorem ofLines_map_assignment (assignments : List Assignment) :
    Document.ofLines (assignments.map .assignment) = ⟨assignments, []⟩ := by
  induction assignments with
  | nil => rfl
  | cons a rest ih => rw [List.map_cons, Document.ofLines, ih]

/-- Assignments to single keys that are all different make an entry each. -/
theorem foldlM_assign? {assignments : List Assignment} (hsingle : AllSingle assignments)
    {before : Entries} (hnodup : (keysOf (before ++ assignments.map (·.entry))).Nodup) :
    assignments.foldlM (fun entries a =>
        assign? a.path.parentTexts a.path.last.text a.value .header entries) before =
      some (before ++ assignments.map (·.entry)) := by
  induction assignments generalizing before with
  | nil => simp
  | cons a rest ih =>
    obtain ⟨hparents, hrest⟩ := List.forall_mem_cons.mp hsingle
    rw [List.map_cons, List.append_cons] at hnodup ⊢
    have hnew : ∀ entry ∈ before, entry.1 ≠ a.path.last.text := by
      intro entry hentry
      rw [keysOf, List.map_append, List.map_append, List.nodup_append, List.nodup_append] at hnodup
      exact hnodup.1.2.2 entry.1 (List.mem_map_of_mem hentry) _ (List.mem_singleton.mpr rfl)
    have hassign : assign? a.path.parentTexts a.path.last.text a.value .header before =
        some (before ++ [a.entry]) := by
      rw [KeyPath.parentTexts, hparents]
      exact if_pos ⟨by simp, hnew⟩
    rw [List.foldlM_cons, hassign]
    exact ih hrest hnodup

/-- No key begins with a byte order mark. -/
theorem TableSpelling.dropByteOrderMark {entries : Entries} {text : List Char}
    (h : TableSpelling entries text) : dropByteOrderMark text = text := by
  rw [Toml.dropByteOrderMark]
  rintro s rfl
  have hne : ∀ {key : String} {r : List Char}, BareKey key.toList →
      '\uFEFF' :: s = key.toList ++ r → False := by
    intro key r hkey htext
    obtain ⟨c, cs, hcons, hother⟩ := hkey.exists_cons
    rw [hcons] at htext
    exact hother '\uFEFF' (by decide) (List.cons.inj htext).1.symm
  generalize htext : '\uFEFF' :: s = text at h
  cases h with
  | empty => cases htext
  | last hkey _ => exact hne hkey htext
  | line hkey _ _ => exact hne hkey (htext.trans (List.append_assoc _ _ _))

/-- **A table is read as it was written**, if no key is there twice. -/
theorem Document.root?_of_tableSpelling {entries : Entries} {text : List Char}
    (h : TableSpelling entries text) (hnodup : (keysOf entries).Nodup) :
    ∃ d, Document.read? text = some d ∧ d.root? = some entries := by
  obtain ⟨assignments, hlines, hsingle, rfl⟩ := lines?_of_tableSpelling h Nat.le.refl
  refine ⟨⟨assignments, []⟩, ?_, ?_⟩
  · rw [Document.read?, h.dropByteOrderMark, hlines, Option.map_some, ofLines_map_assignment]
  · exact root?_eq_some_iff.mpr ⟨_, foldlM_assign? hsingle hnodup, rfl⟩

/-- **The reader of documents reads tables.** -/
theorem Document.readsTables_reader : Document.reader.ReadsTables := by
  intro entries text htext hnodup
  obtain ⟨d, hread, hroot⟩ := Document.root?_of_tableSpelling htext hnodup
  have hreading : (Document.reader.read? text).map (·.entries) = some entries := by
    simp [Document.reader, hread, hroot]
  exact Option.map_eq_some_iff.mp hreading

end Toml

end WindowDecor
