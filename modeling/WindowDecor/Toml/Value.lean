import WindowDecor.Toml.Key
import WindowDecor.Toml.Moment
import WindowDecor.Toml.Number
import WindowDecor.Toml.Table

/-!
# Reading values

* `Value.ofWord?` — what a word means: a number, a truth value or a moment.  No word means two
  things, so the order of the attempts does not matter.
* `scalarValue?` — a quoted text, or a word; a date and a time of day may be two words.
* `value?` — any value; `depth` bounds the nesting of arrays and inline tables.

The loops over the elements of an array and the entries of an inline table count down from the
length of the text, since each round consumes some of it.
-/

namespace WindowDecor.Toml

/-- What a word means. -/
def Value.ofWord? (word : List Char) : Option Value :=
  if word = ['t', 'r', 'u', 'e'] then some (.boolean true)
  else if word = ['f', 'a', 'l', 's', 'e'] then some (.boolean false)
  else
    ((integer? word).map .integer).or <|
      ((float? word).map .float).or <|
        if isMoment word then some (.moment word) else none

/-- The second word of a moment, and what follows it: a time of day behind a date and one space. -/
def clockWord? : List Char → Option (List Char × List Char)
  | ' ' :: r =>
      let word := r.takeWhile isWordChar
      if isClockWithOffset word then some (word, r.dropWhile isWordChar) else none
  | _ => none

/-- A quoted text or a word, and what follows it. -/
def scalarValue? (s : List Char) : Option (Value × List Char) :=
  match text? s with
  | some (text, rest) => some (.text (String.ofList text), rest)
  | none =>
      let word := s.takeWhile isWordChar
      let rest := s.dropWhile isWordChar
      match (if isDate word then clockWord? rest else none) with
      | some (clock, rest) => some (.moment (word ++ ' ' :: clock), rest)
      | none => (Value.ofWord? word).map (·, rest)

/-- The elements of an array up to the closing bracket, and what follows it.  A comma may stand
behind the last one. -/
def elements? (element? : List Char → Option (Value × List Char)) :
    Nat → List Char → Option (List Value × List Char)
  | 0, _ => none
  | rounds + 1, s => do
      match ← skipGaps? false s with
      | ']' :: r => some ([], r)
      | s =>
          let (value, r) ← element? s
          match ← skipGaps? false r with
          | ']' :: r => some ([value], r)
          | ',' :: r => do
              let (values, r) ← elements? element? rounds r
              some (value :: values, r)
          | _ => none

/-- The assignments of an inline table up to the closing brace, added to those before, and what
follows the brace. -/
def inlineEntries? (value? : List Char → Option (Value × List Char)) :
    Nat → Entries → List Char → Option (Entries × List Char)
  | 0, _, _ => none
  | rounds + 1, entries, s => do
      let (path, r) ← keyPath? maxKeyParts s
      match r with
      | '=' :: r =>
          let (value, r) ← value? (skipBlanks r)
          let entries ← assign? path.parentTexts path.last.text value .inline entries
          match skipBlanks r with
          | '\x7d' :: r => some (entries, r)
          | ',' :: r => inlineEntries? value? rounds entries r
          | _ => none
      | _ => none

/-- A value, and what follows it.  Arrays and inline tables are nested at most `depth` deep. -/
def value? : Nat → List Char → Option (Value × List Char)
  | depth + 1, '[' :: r =>
      (elements? (value? depth) (r.length + 1) r).map fun (values, r) => (.array values, r)
  | depth + 1, '\x7b' :: r =>
      match skipBlanks r with
      | '\x7d' :: r => some (.table .inline [], r)
      | _ =>
          (inlineEntries? (value? depth) r.length [] r).map fun (entries, r) =>
            (.table .inline entries, r)
  | _, s => scalarValue? s

/-- How deep arrays and inline tables may be nested. -/
def maxDepth : Nat := 79

end WindowDecor.Toml
