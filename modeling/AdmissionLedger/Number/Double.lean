/-!
# Doubles

A double is kept as what it stands for: a sign, a whole number below 2⁵³ and a
power of two, or an infinity, or not a number.  Arithmetic is exact arithmetic
followed by one rounding to nearest, ties to even, and comparison with an integer
is comparison of exact values.

## Main definitions

* `Double` — the values.
* `Double.ofRatio`, `Double.ofDecimal` — the double nearest to a quotient, to a decimal.
* `Double.scale` — the product of a double and a natural number.
* `Double.sameValue`, `Double.sameValueInt` — equality of exact values.
-/

namespace AdmissionLedger

/-- A double-precision number. -/
inductive Double
  /-- Not a number. -/
  | nan
  /-- An infinity, negative if `negative`. -/
  | infinite (negative : Bool)
  /-- `mantissa` times two to the power `exponent`, negated if `negative`.  Rounding gives a
  mantissa below 2⁵³ and an exponent from -1074 to 971, and the mantissa is at least 2⁵² unless the
  exponent is the least. -/
  | finite (negative : Bool) (mantissa : Nat) (exponent : Int)
  deriving DecidableEq, Repr

/-- A quotient rounded to the nearest whole number, a half to the even neighbour. -/
def roundHalfEven (num den : Nat) : Nat :=
  let q := num / den
  let r := num % den
  if den < 2 * r || (2 * r == den && q % 2 == 1) then q + 1 else q

/-- A number times two to an integer power, as a quotient of natural numbers. -/
def shiftRatio (num den : Nat) (exponent : Int) : Nat × Nat :=
  if 0 ≤ exponent then (num * Nat.pow 2 exponent.toNat, den)
  else (num, den * Nat.pow 2 (-exponent).toNat)

namespace Double

/-- The least exponent of a finite double. -/
def minExponent : Int := -1074

/-- The greatest exponent of a finite double. -/
def maxExponent : Int := 971

/-- Zero of either sign. -/
def zero (negative : Bool) : Double := .finite negative 0 minExponent

/-- The exponent at which a positive quotient has a 53-bit whole part, or the least one. -/
def fitExponent (num den : Nat) : Int :=
  let guess := (num.log2 : Int) - den.log2 - 53
  let (n, d) := shiftRatio num den (-guess)
  max (if Nat.pow 2 53 ≤ n / d then guess + 1 else guess) minExponent

/-- The double nearest to a quotient, ties to even; infinite from halfway past the greatest. -/
def ofRatio (negative : Bool) (num den : Nat) : Double :=
  if num = 0 then zero negative
  else
    let e := fitExponent num den
    let (n, d) := shiftRatio num den (-e)
    let q := roundHalfEven n d
    let (m, e) := if q = Nat.pow 2 53 then (Nat.pow 2 52, e + 1) else (q, e)
    if maxExponent < e then .infinite negative else .finite negative m e

/-- The double nearest to `digits` times ten to the power `exponent`.  Powers that no double comes
near are not computed. -/
def ofDecimal (negative : Bool) (digits : Nat) (exponent : Int) : Double :=
  if digits = 0 then zero negative
  else if 400 < exponent then .infinite negative
  else if exponent < -400 - (digits.log2 : Int) then zero negative
  else if 0 ≤ exponent then ofRatio negative (digits * Nat.pow 10 exponent.toNat) 1
  else ofRatio negative digits (Nat.pow 10 (-exponent).toNat)

/-- The double nearest to an integer divided by a positive number. -/
def ofIntRatio (num : Int) (den : Nat) : Double :=
  ofRatio (num < 0) num.natAbs den

/-- The double nearest to the product of a double and a natural number. -/
def scale (x : Double) (factor : Nat) : Double :=
  match x with
  | .finite negative m e =>
    let (n, d) := shiftRatio (m * factor) 1 e
    ofRatio negative n d
  | x => x

/-- The whole number that a finite double is, if it is one. -/
def toInt? : Double → Option Int
  | .finite negative m e =>
    let (n, d) := shiftRatio m 1 e
    if n % d = 0 then some (if negative then -(n / d : Nat) else (n / d : Nat)) else none
  | _ => none

/-- Whether a double is neither infinite nor not a number. -/
def isFinite : Double → Bool
  | .finite .. => true
  | _ => false

/-- Whether two doubles have the same exact value; not a number has none, and the zeros are one. -/
def sameValue : Double → Double → Bool
  | .infinite a, .infinite b => a == b
  | .finite a m e, .finite b n f =>
    (m == 0 && n == 0) ||
      (a == b && (shiftRatio m 1 (e - min e f)).1 == (shiftRatio n 1 (f - min e f)).1)
  | _, _ => false

/-- Whether a double is exactly an integer. -/
def sameValueInt (x : Double) (n : Int) : Bool :=
  x.toInt? == some n

end Double

end AdmissionLedger
