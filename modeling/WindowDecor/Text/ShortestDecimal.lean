import WindowDecor.Text.Numeral

/-!
# The shortest decimal of a floating-point number

A finite double stands for all reals that round to it.  It is written as a decimal among these with
as few digits as possible, and of several such decimals as the nearest.

* `Magnitude` — the magnitude of a finite double, taken from its bits.
* `Magnitude.onGrid?` — a multiple of a power of ten that stands for the double, if there is one.  Only
  the two multiples next to the double have to be looked at.
* `Magnitude.shortest` — the coarsest power of ten with such a multiple; **coarsest means fewest
  digits**.
* `ShortestDecimal.write` — the number in positional notation, with a decimal point always.

All arithmetic is exact, on natural numbers.
-/

namespace WindowDecor

/-- The magnitude `mantissa * 2 ^ exponent` of a finite double. -/
structure Magnitude where
  mantissa : Nat
  exponent : Int
  /-- Whether the next smaller double is only half as far away as the next larger one. -/
  narrowBelow : Bool

/-- A decimal, `digits * 10 ^ exponent`. -/
structure Decimal where
  digits : Nat
  exponent : Int

namespace Magnitude

/-- The magnitude of the double with the given bits, which must be finite. -/
def ofBits (bits : UInt64) : Magnitude :=
  let exponent := ((bits >>> 52) &&& 0x7FF).toNat
  let fraction := (bits &&& 0xFFFFFFFFFFFFF).toNat
  if exponent = 0 then ⟨fraction, -1074, false⟩
  else ⟨0x10000000000000 + fraction, exponent - 1075, fraction = 0 ∧ 1 < exponent⟩

/-- The multiple of `10 ^ k` that is nearest to the number, of those next to it that round to it;
halfway between two, the larger. -/
def onGrid? (x : Magnitude) (k : Int) : Option Decimal :=
  -- quarters of the last place: the number, and the ends of the reals that round to it
  let scale := Nat.pow 2 (x.exponent - 2).toNat * Nat.pow 10 (-k).toNat
  let unit := Nat.pow 2 (2 - x.exponent).toNat * Nat.pow 10 k.toNat
  let value := 4 * x.mantissa * scale
  let low := (4 * x.mantissa - if x.narrowBelow then 1 else 2) * scale
  let high := (4 * x.mantissa + 2) * scale
  let closed := x.mantissa % 2 = 0
  let below := value / unit
  let fitsBelow := low < below * unit ∨ closed ∧ low = below * unit
  let fitsAbove := (below + 1) * unit < high ∨ closed ∧ (below + 1) * unit = high
  let aboveIsNearer := (below + 1) * unit - value ≤ value - below * unit
  if fitsAbove ∧ (¬ fitsBelow ∨ aboveIsNearer) then some ⟨below + 1, k⟩
  else if fitsBelow then some ⟨below, k⟩
  else none

/-- The shortest decimal that rounds to the number, which must not be zero.  Powers of ten above
`10 ^ 309` are too coarse for any double, and seventeen digits are enough for all. -/
def shortest (x : Magnitude) : Decimal :=
  ((List.range 660).findSome? fun (i : Nat) => x.onGrid? (309 - (i : Int))).getD ⟨0, 0⟩

end Magnitude

namespace Decimal

/-- A decimal in positional notation, with at least one digit on either side of the point. -/
def write (d : Decimal) : String :=
  let digits := Numeral.write 10 d.digits
  let text :=
    if 0 ≤ d.exponent then digits ++ List.replicate d.exponent.toNat '0' ++ ['.', '0']
    else
      let places := (-d.exponent).toNat
      let padded := List.replicate (places + 1 - digits.length) '0' ++ digits
      padded.take (padded.length - places) ++ '.' :: padded.drop (padded.length - places)
  String.ofList text

end Decimal

/-- A double as its shortest decimal.  Infinities and what is not a number have words of their own;
a zero keeps its sign. -/
def ShortestDecimal.write (x : Float) : String :=
  if x.isNaN then "NaN"
  else
    let sign := if x.toBits >>> 63 = 1 then "-" else ""
    let size :=
      if x.isInf then "inf"
      else
        let magnitude := Magnitude.ofBits x.toBits
        if magnitude.mantissa = 0 then "0.0" else magnitude.shortest.write
    sign ++ size

end WindowDecor
