/-!
# Numerals

Numbers are written with the digits `0`–`9`, `a`–`f`, the most significant first and without leading
zeros; they are read with either letter case and with any number of leading zeros.

* `TextForm` — texts can be asked for in two forms.
* `Numeral.write` — the digits of a number to a base; `Numeral.hex` puts `0x` in front of the
  hexadecimal ones, and `Numeral.hexAs` does so in one of the forms.
* `Numeral.writeInt` — decimal digits with a minus sign where one is due.
* `Numeral.digit?`, `Numeral.read?` — the value of one digit, and of a run of digits.
* **`read?_write`** — reading undoes writing, to every base from two to sixteen.
-/

namespace WindowDecor

/-- How a text is asked for: as it is, or with marks that tell how to read it. -/
inductive TextForm where
  | plain
  | alternate
  deriving DecidableEq

namespace Numeral

/-- The digits of `n` to the base `base`. -/
def write (base n : Nat) : List Char := Nat.toDigits base n

/-- Lower-case hexadecimal digits behind `0x`. -/
def hex (n : Nat) : String := "0x" ++ String.ofList (write 16 n)

/-- Lower-case hexadecimal digits, marked as such in the alternate form. -/
def hexAs : TextForm → Nat → String
  | .plain, n => String.ofList (write 16 n)
  | .alternate, n => hex n

/-- Decimal digits. -/
def decimal (n : Nat) : String := String.ofList (write 10 n)

/-- Decimal digits, behind a minus sign if the number is negative. -/
def writeInt : Int → String
  | .ofNat n => decimal n
  | .negSucc n => "-" ++ decimal (n + 1)

/-- The value of a hexadecimal digit. -/
def hexDigit? (c : Char) : Option Nat :=
  if '0' ≤ c ∧ c ≤ '9' then some (c.toNat - '0'.toNat)
  else if 'a' ≤ c ∧ c ≤ 'f' then some (c.toNat - 'a'.toNat + 10)
  else if 'A' ≤ c ∧ c ≤ 'F' then some (c.toNat - 'A'.toNat + 10)
  else none

/-- The value of a digit to a base up to sixteen: a hexadecimal digit that is small enough. -/
def digit? (base : Nat) (c : Char) : Option Nat := (hexDigit? c).filter (· < base)

/-- Whether `c` is a digit to the given base. -/
def isDigit (base : Nat) (c : Char) : Bool := (digit? base c).isSome

/-- Puts one more digit behind a number. -/
def pushDigit? (base total : Nat) (c : Char) : Option Nat :=
  (digit? base c).map (base * total + ·)

/-- The value of a run of digits; `none` if one of them is no digit.  The empty run has the value
zero, so a reader that wants at least one digit has to see to it. -/
def read? (base : Nat) (digits : List Char) : Option Nat := digits.foldlM (pushDigit? base) 0

/-! ## Reading what was written -/

/-- Every hexadecimal digit that is written is read as what it stands for. -/
theorem hexDigit?_digitChar : ∀ d < 16, hexDigit? (Nat.digitChar d) = some d := by decide

theorem digit?_digitChar {base d : Nat} (hbase : base ≤ 16) (hd : d < base) :
    digit? base (Nat.digitChar d) = some d := by
  rw [digit?, hexDigit?_digitChar d (by omega)]
  simp [hd]

/-- **Reading undoes writing.** -/
theorem read?_write {base : Nat} (htwo : 2 ≤ base) (hsixteen : base ≤ 16) (n : Nat) :
    read? base (write base n) = some n := by
  induction n using Nat.strongRecOn with
  | ind n ih =>
    rw [write, Nat.toDigits_eq_if (by omega)]
    split
    · next hlt => simp [read?, pushDigit?, digit?_digitChar hsixteen hlt]
    · next hge =>
      have hdiv : n / base < n := Nat.div_lt_self (by omega) (by omega)
      have hhead : List.foldlM (pushDigit? base) 0 (Nat.toDigits base (n / base))
          = some (n / base) := ih (n / base) hdiv
      rw [read?, List.foldlM_append, hhead]
      simp [pushDigit?, digit?_digitChar hsixteen (Nat.mod_lt n (by omega : base > 0)),
        Nat.div_add_mod]

end Numeral

end WindowDecor
