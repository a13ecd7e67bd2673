import AdmissionLedger.Number.Double
import AdmissionLedger.Text.CodePoint

/-!
# Shortest decimals

A double is written with the fewest digits that read back to it.  For each number
of digits the two decimals next to the exact value are tried; the first number of
digits with one inside the interval that rounds to the double wins, of two the
nearer, and of two equally near the even one.

## Main definitions

* `Double.shortest` — the digits and the position of the point.
* `Double.toText` — the written form.
-/

namespace AdmissionLedger

namespace Double

/-- The numbers that round to `mantissa * 2 ^ exponent`, in units of `2 ^ (exponent - 2)`: from
`low` to `high`, the ends included if `closed`. -/
structure Interval where
  low : Nat
  value : Nat
  high : Nat
  closed : Bool

/-- The interval of a positive double.  Below a power of two the doubles lie closer. -/
def interval (mantissa : Nat) (exponent : Int) : Interval :=
  let gap := if mantissa = Nat.pow 2 52 && minExponent < exponent then 1 else 2
  ⟨4 * mantissa - gap, 4 * mantissa, 4 * mantissa + 2, mantissa % 2 == 0⟩

/-- Whether `num / den`, in the same units, lies in the interval. -/
def Interval.contains (i : Interval) (num den : Nat) : Bool :=
  if i.closed then i.low * den ≤ num && num ≤ i.high * den
  else i.low * den < num && num < i.high * den

/-- The number of digits before the point of `mantissa * 2 ^ exponent`, or minus the number of zeros
after it: the least `p` with the value below `10 ^ p`. -/
def decimalPlace (mantissa : Nat) (exponent : Int) : Int :=
  let below (p : Int) : Bool :=
    let (n, d) := shiftRatio mantissa 1 exponent
    if 0 ≤ p then n < d * Nat.pow 10 p.toNat else n * Nat.pow 10 (-p).toNat < d
  let guess := Int.fdiv (((mantissa.log2 : Int) + exponent) * 30103) 100000
  if below (guess - 1) then guess - 1 else if below guess then guess
  else if below (guess + 1) then guess + 1 else guess + 2

/-- The best decimal with `count` digits for a positive double, as a multiple of
`10 ^ (decimalPlace - count)`, if one rounds to the double. -/
def nearestWith (mantissa : Nat) (exponent : Int) (count : Nat) : Option Nat :=
  let i := interval mantissa exponent
  let grid := decimalPlace mantissa exponent - count
  -- in units of `2 ^ (exponent - 2)` one grid step is `num / den`
  let (num, den) :=
    let (a, b) := shiftRatio 1 1 (2 - exponent)
    if 0 ≤ grid then (a * Nat.pow 10 grid.toNat, b) else (a, b * Nat.pow 10 (-grid).toNat)
  let lower := i.value * den / num
  let hitLower := lower != 0 && i.contains (lower * num) den
  let hitUpper := i.contains ((lower + 1) * num) den
  let below := i.value * den - lower * num
  let above := (lower + 1) * num - i.value * den
  if hitLower && hitUpper then
    if below < above || (below == above && lower % 2 == 0) then some lower else some (lower + 1)
  else if hitLower then some lower
  else if hitUpper then some (lower + 1)
  else none

/-- The first count from `count` on with a decimal that rounds to the double, at most `fuel`
further. -/
def shortestFrom (mantissa : Nat) (exponent : Int) (count : Nat) : (fuel : Nat) → Nat × Nat
  | 0 => ((nearestWith mantissa exponent count).getD 0, count)
  | fuel + 1 =>
    match nearestWith mantissa exponent count with
    | some digits => (digits, count)
    | none => shortestFrom mantissa exponent (count + 1) fuel

/-- A positive number without the zeros at its end; `fuel` bounds their number. -/
def dropZeros (n : Nat) : (fuel : Nat) → Nat
  | 0 => n
  | fuel + 1 => if n != 0 && n % 10 == 0 then dropZeros (n / 10) fuel else n

/-- The shortest digits of a positive double and the place of its point: the value is written as
`0.d₁d₂… * 10 ^ place`.  Seventeen digits always suffice. -/
def shortest (mantissa : Nat) (exponent : Int) : Text × Int :=
  let (digits, count) := shortestFrom mantissa exponent 1 16
  let place := decimalPlace mantissa exponent
  -- rounding up to a power of ten gives one digit more
  let place := if digits = Nat.pow 10 count then place + 1 else place
  (Text.decimal (dropZeros digits 18), place)

/-- How the digits of a double are laid out. -/
structure Layout where
  /-- Positional for places above this one … -/
  positionalAbove : Int
  /-- … up to this one, with an exponent for all others. -/
  positionalUpTo : Int
  /-- The least number of digits in an exponent. -/
  exponentDigits : Nat

/-- Positional from 0.0001 up to below 10¹⁶; exponents have a sign and at least two digits. -/
def layout : Layout := ⟨-4, 16, 2⟩

/-- Digits with a point at a place, zeros where there are no digits, and `.0` after a whole one. -/
def positional (digits : Text) (place : Int) : Text :=
  let zeros (n : Nat) : Text := List.replicate n (CodePoint.ofChar '0')
  if place ≤ 0 then Text.ofString "0." ++ zeros (-place).toNat ++ digits
  else if digits.length ≤ place.toNat then
    digits ++ zeros (place.toNat - digits.length) ++ ".0"
  else digits.take place.toNat ++ "." ++ digits.drop place.toNat

/-- Digits with the point after the first one and a power of ten. -/
def scientific (digits : Text) (place : Int) : Text :=
  let fraction := digits.drop 1
  let power := place - 1
  digits.take 1 ++ (if fraction.isEmpty then [] else Text.ofString "." ++ fraction) ++
    (if power < 0 then Text.ofString "e-" else Text.ofString "e+") ++
    Text.paddedDecimal layout.exponentDigits power.natAbs

/-- The written form of a double. -/
def toText : Double → Text
  | .nan => "nan"
  | .infinite negative => if negative then "-inf" else "inf"
  | .finite negative m e =>
    let sign : Text := if negative then "-" else ""
    if m = 0 then sign ++ "0.0"
    else
      let (digits, place) := shortest m e
      if layout.positionalAbove < place && place ≤ layout.positionalUpTo then
        sign ++ positional digits place
      else sign ++ scientific digits place

end Double

end AdmissionLedger
