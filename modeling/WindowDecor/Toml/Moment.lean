import WindowDecor.Text.Numeral

/-!
# Dates and times

A moment is a date, a time of day, or both; with both it may have an offset.  It is kept as it is
written, so these predicates are all there is to know about it: whether a word is a moment.

* `isDate` — a day of the calendar, with the lengths of the months and leap years.
* `isClock`, `isClockWithOffset` — a time of day with seconds, which may run to sixty.
* `isMoment` — any of these in one word.  A date and a time of day may also be two words, and then
  the reader of values puts them together.
-/

namespace WindowDecor.Toml

/-- The value of some decimal digits. -/
def decimalDigits? (digits : List Char) : Option Nat := Numeral.read? 10 digits

/-- Every fourth year is a leap year, except for full centuries that four does not divide. -/
def isLeapYear (year : Nat) : Bool := year % 4 == 0 && (year % 100 != 0 || year % 400 == 0)

/-- How many days a month has that is given by its number. -/
def daysInMonth (year : Nat) : Nat → Nat
  | 2 => if isLeapYear year then 29 else 28
  | 4 | 6 | 9 | 11 => 30
  | _ => 31

/-- Whether there is such a day. -/
def isDay (year month day : Nat) : Bool :=
  1 ≤ month && month ≤ 12 && 1 ≤ day && day ≤ daysInMonth year month

/-- What follows a date, if the word begins with one. -/
def date? : List Char → Option (List Char)
  | y₁ :: y₂ :: y₃ :: y₄ :: '-' :: m₁ :: m₂ :: '-' :: d₁ :: d₂ :: r => do
      let year ← decimalDigits? [y₁, y₂, y₃, y₄]
      let month ← decimalDigits? [m₁, m₂]
      let day ← decimalDigits? [d₁, d₂]
      if isDay year month day then some r else none
  | _ => none

/-- What follows a fraction of a second, or everything if there is none; a point needs digits. -/
def secondFraction? : List Char → Option (List Char)
  | '.' :: r =>
      if (r.takeWhile (Numeral.isDigit 10)).isEmpty then none
      else some (r.dropWhile (Numeral.isDigit 10))
  | r => some r

/-- What follows a time of day, if the word begins with one. -/
def clock? : List Char → Option (List Char)
  | h₁ :: h₂ :: ':' :: m₁ :: m₂ :: ':' :: s₁ :: s₂ :: r => do
      let hour ← decimalDigits? [h₁, h₂]
      let minute ← decimalDigits? [m₁, m₂]
      let second ← decimalDigits? [s₁, s₂]
      if hour ≤ 23 ∧ minute ≤ 59 ∧ second ≤ 60 then secondFraction? r else none
  | _ => none

/-- Whether this is nothing, or an offset from universal time. -/
def isOptionalOffset : List Char → Bool
  | [] | ['Z'] | ['z'] => true
  | [sign, h₁, h₂, ':', m₁, m₂] =>
      (sign == '+' || sign == '-') &&
        ((decimalDigits? [h₁, h₂]).any (· ≤ 23)) && ((decimalDigits? [m₁, m₂]).any (· ≤ 59))
  | _ => false

/-- A date and nothing else. -/
def isDate (word : List Char) : Bool := date? word == some []

/-- A time of day and nothing else. -/
def isClock (word : List Char) : Bool := clock? word == some []

/-- A time of day that may have an offset. -/
def isClockWithOffset (word : List Char) : Bool := (clock? word).any isOptionalOffset

/-- A date, a time of day, or both in one word. -/
def isMoment (word : List Char) : Bool :=
  isClock word ||
    match date? word with
    | some [] => true
    | some (mark :: r) => (mark == 'T' || mark == 't') && isClockWithOffset r
    | none => false

end WindowDecor.Toml
