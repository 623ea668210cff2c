import WindowDecor.Toml.Reader
import WindowDecor.Toml.Text

/-!
# What is relied on of a reader

Two things are, and each is asked for where it is needed and nowhere else.

**Order.**  The root table has the keys that the text names, each of them once and in order of first
appearance (`Reader.InOrder`).  Which keys a text names is told by whoever asks, for what a text names
is a matter of the reader's language too.

**Reading tables.**  A table of integers and texts, written down with a line `key = value` for each
entry, is read as it was written (`Reader.ReadsTables`).  A text may be written in many ways, for every
character has escapes besides itself, so it is said what the ways are, and not which one is taken.

* `keysOf` — the keys of a table; `noteName`, `firstAppearances` — names without those that were there
  before.
* `CharSpelling`, `TextSpelling` — the ways to write a text between double quotes, and
  `textSpelling_escape` that there is one for every text.
* `ValueSpelling`, `TableSpelling` — the ways to write an integer or a text, and a table of them.
-/

namespace WindowDecor.Toml

/-! ## The order of keys -/

/-- Names with one more at the end, unless it is there already. -/
def noteName (names : List String) (name : String) : List String :=
  if name ∈ names then names else names ++ [name]

/-- Each name once, where it appears first. -/
def firstAppearances (names : List String) : List String := names.foldl noteName []

theorem noteName_of_mem {names : List String} {name : String} (h : name ∈ names) :
    noteName names name = names := if_pos h

theorem mem_noteName {names : List String} {name key : String} :
    key ∈ noteName names name ↔ key ∈ names ∨ key = name := by
  simp only [noteName]
  split
  · next h =>
    constructor
    · exact .inl
    · rintro (hkey | rfl)
      · exact hkey
      · exact h
  · rw [List.mem_append, List.mem_singleton]

/-- Every name appears for a first time. -/
theorem mem_firstAppearances {names : List String} {key : String} :
    key ∈ firstAppearances names ↔ key ∈ names := by
  suffices h : ∀ seen, key ∈ names.foldl noteName seen ↔ key ∈ seen ∨ key ∈ names by
    exact (h []).trans (by simp)
  induction names with
  | nil => simp
  | cons name rest ih =>
    intro seen
    rw [List.foldl_cons, ih, mem_noteName, List.mem_cons, or_assoc]

theorem nodup_snoc {names : List String} {name : String} (h : names.Nodup) (hnew : name ∉ names) :
    (names ++ [name]).Nodup := by
  refine List.nodup_append.mpr ⟨h, by simp, fun a ha b hb => ?_⟩
  rintro rfl
  exact hnew (List.mem_singleton.mp hb ▸ ha)

theorem nodup_noteName {names : List String} (h : names.Nodup) (name : String) :
    (noteName names name).Nodup := by
  simp only [noteName]
  split
  · exact h
  · next hnew => exact nodup_snoc h hnew

/-- No name appears twice for the first time. -/
theorem nodup_firstAppearances (names : List String) : (firstAppearances names).Nodup := by
  suffices h : ∀ seen : List String, seen.Nodup → (names.foldl noteName seen).Nodup from
    h [] List.nodup_nil
  induction names with
  | nil => exact fun _ hseen => hseen
  | cons name rest ih => exact fun seen hseen => ih _ (nodup_noteName hseen name)

/-- Names that were noted stay in front. -/
theorem prefix_foldl_noteName (seen names : List String) : seen <+: names.foldl noteName seen := by
  induction names generalizing seen with
  | nil => exact List.prefix_refl seen
  | cons name rest ih =>
    refine List.IsPrefix.trans ?_ (ih (noteName seen name))
    simp only [noteName]
    split
    · exact List.prefix_refl seen
    · exact List.prefix_append seen [name]

/-- A name that was not there before comes behind those that were. -/
theorem firstAppearances_append_cons {before : List String} {name : String}
    (hnew : name ∉ before) (after : List String) : ∃ rest,
      firstAppearances (before ++ name :: after) = firstAppearances before ++ name :: rest := by
  have hnoted : noteName (firstAppearances before) name = firstAppearances before ++ [name] :=
    if_neg (mt mem_firstAppearances.mp hnew)
  obtain ⟨rest, hrest⟩ := prefix_foldl_noteName (firstAppearances before ++ [name]) after
  refine ⟨rest, ?_⟩
  rw [firstAppearances, List.foldl_append, List.foldl_cons, ← firstAppearances, hnoted, ← hrest,
    List.append_assoc, List.singleton_append]

/-- The keys of a table, in order. -/
def keysOf (entries : Entries) : List String := entries.map (·.1)

/-- Nothing is found under a key just when it is not among the keys. -/
theorem lookup_eq_none_iff {entries : Entries} {key : String} :
    entries.lookup key = none ↔ key ∉ keysOf entries := by
  rw [List.lookup_eq_none_iff, keysOf, List.mem_map, not_exists]
  refine forall_congr' fun entry => ?_
  rw [not_and, bne_iff_ne, ne_comm]

/-- The reader takes the root keys of a text in order of first appearance, if `names` tells the root
keys that a text names, each as often as it does. -/
def Reader.InOrder (reader : Reader) (names : String → List String) (text : String) : Prop :=
  ∀ reading, reader.read? text = some reading →
    keysOf reading.entries = firstAppearances (names text)

/-! ## Texts -/

/-- The ways to write a character between double quotes. -/
inductive CharSpelling : Char → List Char → Prop
  | plain {c : Char} (hvisible : isVisible c) (hquote : c ≠ '"') (hbackslash : c ≠ '\\') :
      CharSpelling c [c]
  | short {c letter : Char} (hletter : shortEscape? letter = some c) : CharSpelling c ['\\', letter]
  | four {c d₁ d₂ d₃ d₄ : Char} (hdigits : codePoint? [d₁, d₂, d₃, d₄] = some c) :
      CharSpelling c ['\\', 'u', d₁, d₂, d₃, d₄]
  | eight {c d₁ d₂ d₃ d₄ d₅ d₆ d₇ d₈ : Char}
      (hdigits : codePoint? [d₁, d₂, d₃, d₄, d₅, d₆, d₇, d₈] = some c) :
      CharSpelling c ['\\', 'U', d₁, d₂, d₃, d₄, d₅, d₆, d₇, d₈]

/-- The ways to write a text between double quotes. -/
inductive TextSpelling : List Char → List Char → Prop
  | nil : TextSpelling [] []
  | cons {c : Char} {text spelling rest : List Char} (hc : CharSpelling c spelling)
      (hrest : TextSpelling text rest) : TextSpelling (c :: text) (spelling ++ rest)

/-- What is written for a character: itself where it can stand, else an escape. -/
def escapeChar (c : Char) : List Char :=
  if c = '"' then ['\\', '"']
  else if c = '\\' then ['\\', '\\']
  else if isVisible c then [c]
  else ['\\', 'u', '0', '0', Nat.digitChar (c.toNat / 16), Nat.digitChar (c.toNat % 16)]

/-- Four hexadecimal digits name every character of ASCII. -/
theorem codePoint?_ascii : ∀ n < 128,
    codePoint? ['0', '0', Nat.digitChar (n / 16), Nat.digitChar (n % 16)] =
      some (Char.ofNat n) := by
  decide

/-- Only characters of ASCII need to be escaped. -/
theorem toNat_lt_of_not_isVisible {c : Char} (h : ¬ isVisible c) : c.toNat < 128 := by
  rw [isVisible, Bool.or_eq_true, Bool.and_eq_true, not_or, not_and, decide_eq_true_eq,
    bne_iff_ne, Decidable.not_not] at h
  by_cases hlow : ' ' ≤ c
  · rw [h.2 hlow]
    decide
  · have hless : c.toNat < 32 := Nat.lt_of_not_le hlow
    omega

/-- **What a character is escaped to is a spelling of it.** -/
theorem charSpelling_escapeChar (c : Char) : CharSpelling c (escapeChar c) := by
  simp only [escapeChar]
  split
  · next hquote =>
    subst hquote
    exact .short rfl
  split
  · next hbackslash =>
    subst hbackslash
    exact .short rfl
  split
  · exact .plain ‹_› ‹_› ‹_›
  · next hcontrol =>
    have hcode := codePoint?_ascii c.toNat (toNat_lt_of_not_isVisible hcontrol)
    rw [Char.ofNat_toNat] at hcode
    exact .four hcode

/-- Every text can be written. -/
theorem textSpelling_escape (text : List Char) : TextSpelling text (text.flatMap escapeChar) := by
  induction text with
  | nil => exact .nil
  | cons c text ih => exact .cons (charSpelling_escapeChar c) ih

/-! ## Tables -/

/-- The ways to write a value: an integer of 64 bits in decimal, and a text between double quotes. -/
inductive ValueSpelling : Value → List Char → Prop
  | integer {n : Int} (hlow : -0x8000000000000000 ≤ n) (hhigh : n < 0x8000000000000000) :
      ValueSpelling (.integer n) (Numeral.writeInt n).toList
  | text {text : String} {spelling : List Char} (h : TextSpelling text.toList spelling) :
      ValueSpelling (.text text) ('"' :: (spelling ++ ['"']))

/-- A key that needs no quotes. -/
def BareKey (key : List Char) : Prop := key ≠ [] ∧ ∀ c ∈ key, isBareKeyChar c

/-- A line that assigns a value to a key. -/
def writeLine (key spelling : List Char) : List Char := key ++ ' ' :: '=' :: ' ' :: spelling

/-- The ways to write a table whose keys need no quotes: a line for each entry, and no line break
needed behind the last one. -/
inductive TableSpelling : Entries → List Char → Prop
  | empty : TableSpelling [] []
  | last {key : String} {value : Value} {spelling : List Char} (hkey : BareKey key.toList)
      (hvalue : ValueSpelling value spelling) :
      TableSpelling [(key, value)] (writeLine key.toList spelling)
  | line {key : String} {value : Value} {spelling : List Char} {entries : Entries}
      {text : List Char} (hkey : BareKey key.toList) (hvalue : ValueSpelling value spelling)
      (hrest : TableSpelling entries text) :
      TableSpelling ((key, value) :: entries) (writeLine key.toList spelling ++ '\n' :: text)

/-- The reader reads tables as they are written, if no key is there twice. -/
def Reader.ReadsTables (reader : Reader) : Prop :=
  ∀ (entries : Entries) (text : String), TableSpelling entries text.toList →
    (keysOf entries).Nodup → ∃ reading, reader.read? text = some reading ∧ reading.entries = entries

end WindowDecor.Toml
