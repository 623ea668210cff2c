import WindowDecor.Text.Numeral

/-!
# Numbers

A number is a word: a run of characters up to the next blank, comma or bracket.  These readers look
at a whole word.

* `digitRun?` — digits with single underscores between them.
* `integer?` — a decimal integer, or one to the base 16, 8 or 2, that fits 64 bits.
* `float?` — a decimal fraction or a number with an exponent, rounded to the nearest double, and the
  words for infinity and for what is not a number.  **A number that is too large for a double is
  refused**, unless it is negative: those round to negative infinity.
-/

namespace WindowDecor.Toml

/-- The digits of a run that may have single underscores between its digits. -/
def digitRun? (base : Nat) : List Char → Option (List Char)
  | [] => none
  | [c] => if Numeral.isDigit base c then some [c] else none
  | c :: '_' :: r =>
      if Numeral.isDigit base c then (digitRun? base r).map (c :: ·) else none
  | c :: r => if Numeral.isDigit base c then (digitRun? base r).map (c :: ·) else none

/-- The digits of a decimal integer, which has no leading zeros. -/
def wholeDigits? (word : List Char) : Option (List Char) :=
  match digitRun? 10 word with
  | some ['0'] => some ['0']
  | some ('0' :: _) => none
  | digits => digits

/-- The sign of a word, and the word without it. -/
def splitSign : List Char → Bool × List Char
  | '-' :: r => (true, r)
  | '+' :: r => (false, r)
  | word => (false, word)

/-- A number that fits a signed 64-bit word. -/
def fit64? (n : Int) : Option Int :=
  if -0x8000000000000000 ≤ n ∧ n < 0x8000000000000000 then some n else none

/-- The value of a run of digits to a base that is given by the word's beginning. -/
def radix? (base : Nat) (word : List Char) : Option Int :=
  ((digitRun? base word).bind (Numeral.read? base)).bind fun n => fit64? n

/-- The value of a decimal integer. -/
def decimalInteger? (word : List Char) : Option Int :=
  let (negative, word) := splitSign word
  ((wholeDigits? word).bind (Numeral.read? 10)).bind fun n => fit64? (if negative then -n else n)

/-- The value of a word that is an integer. -/
def integer? : List Char → Option Int
  | '0' :: 'x' :: r => radix? 16 r
  | '0' :: 'o' :: r => radix? 8 r
  | '0' :: 'b' :: r => radix? 2 r
  | word => decimalInteger? word

/-- The double nearest to `digits * 10 ^ exponent`, a half going to the even one.  Far outside of the
doubles' range, where it is known to be infinity or zero, the power is not computed. -/
def nearestFloat (digits : Nat) (exponent : Int) : Float :=
  let places := (Numeral.write 10 digits).length + exponent
  if digits = 0 ∨ places < -400 then 0.0
  else if 400 < places then Float.ofScientific 1 false 400
  else Float.ofScientific digits (exponent < 0) exponent.natAbs

/-- The double with the given parts.  The fraction and the exponent may have leading zeros. -/
def floatOf? (negative : Bool) (whole : List Char) (fraction : Option (List Char))
    (exponent : Option (List Char)) : Option Float := do
  let whole ← wholeDigits? whole
  let fraction ← match fraction with
    | none => some []
    | some f => digitRun? 10 f
  let exponent ← match exponent with
    | none => some 0
    | some e =>
      let (negativeExponent, e) := splitSign e
      ((digitRun? 10 e).bind (Numeral.read? 10)).map fun n =>
        if negativeExponent then -(n : Int) else n
  let digits ← Numeral.read? 10 (whole ++ fraction)
  let size := nearestFloat digits (exponent - fraction.length)
  if negative then some (-size) else if size.isInf then none else some size

/-- Whether a character marks an exponent. -/
def isExponentMark (c : Char) : Bool := c == 'e' || c == 'E'

/-- The double of a word that has a fraction or an exponent. -/
def decimalFloat? (word : List Char) : Option Float :=
  let (negative, word) := splitSign word
  let mantissa := word.takeWhile fun c => !isExponentMark c
  let exponent := (word.dropWhile fun c => !isExponentMark c).tail?
  let whole := mantissa.takeWhile (· ≠ '.')
  let fraction := (mantissa.dropWhile (· ≠ '.')).tail?
  if fraction.isNone && exponent.isNone then none else floatOf? negative whole fraction exponent

/-- The double of a word that is a float. -/
def float? (word : List Char) : Option Float :=
  let (negative, name) := splitSign word
  if name = ['i', 'n', 'f'] then
    let infinity := Float.ofScientific 1 false 400
    some (if negative then -infinity else infinity)
  else if name = ['n', 'a', 'n'] then some (0.0 / 0.0)
  else decimalFloat? word

end WindowDecor.Toml
