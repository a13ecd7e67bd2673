import AdmissionLedger.Number.Double
import AdmissionLedger.Text.CodePoint

/-!
# Whole numbers with decimals

A whole number can be asked for with a decimal fraction, with a power of ten, or in the
shorter of these two forms.

## Main definitions

* `Decimals` — what is in front of the point, what is behind it, and what follows.
* `Decimals.leading` — the first digits of a number, rounded.
* `Decimals.ofLetter?` — a number as the letter of a presentation says.
-/

namespace AdmissionLedger.Template

/-- A number in decimal notation. -/
structure Decimals where
  whole : Text
  fraction : Text
  /-- What follows the digits. -/
  ending : Text := []
  deriving DecidableEq, Repr

namespace Decimals

/-- Zeros in a row. -/
def zeros (count : Nat) : Text :=
  List.replicate count ↑ '0'

/-- A number with so many places behind the point. -/
def positional (places n : Nat) : Decimals :=
  ⟨Text.decimal n, zeros places, []⟩

/-- The first digits of a number, rounded to the nearest with a half to the even neighbour, and the
power of ten of the first one. -/
def leading (count n : Nat) : Text × Nat :=
  let power := (Text.decimal n).length - 1
  let digits := Text.decimal (roundHalfEven n (Nat.pow 10 (power + 1 - count)))
  if count < digits.length then (digits.take count, power + 1)
  else (digits ++ zeros (count - digits.length), power)

/-- A power of ten, behind the letter that announces it. -/
def exponent (letter : CodePoint) (power : Nat) : Text :=
  letter :: Text.ofString "+" ++ Text.paddedDecimal 2 power

/-- A number with one digit in front of the point, so many places behind it, and a power of ten. -/
def scientific (letter : CodePoint) (places n : Nat) : Decimals :=
  let (digits, power) := leading (places + 1) n
  ⟨digits.take 1, digits.drop 1, exponent letter power⟩

/-- A number with so many digits, and with a power of ten only if that is more than the digits
reach.  Zeros at the end of the fraction are kept or left out. -/
def general (letter : CodePoint) (count : Nat) (keepsZeros : Bool) (n : Nat) : Decimals :=
  let count := max count 1
  let (digits, power) := leading count n
  let split (place : Nat) (ending : Text) : Decimals :=
    let fraction := digits.drop place
    let shown := if keepsZeros then fraction
      else (fraction.reverse.dropWhile (· = ↑ '0')).reverse
    ⟨digits.take place, shown, ending⟩
  if power < count then split (power + 1) [] else split 1 (exponent letter power)

/-- The greatest number of places or digits that can be asked for. -/
def placesLimit : Nat := Nat.pow 2 31 - 1

/-- A number as the letter of a presentation says, if that letter asks for decimals.  There are six
places if no number of them is given. -/
def ofLetter? (letter : CodePoint) (places : Option Nat) (keepsZeros : Bool) (n : Nat) :
    Option Decimals :=
  let places := places.getD 6
  if placesLimit < places then none
  else
    match letter.toChar with
    | 'f' | 'F' => some (positional places n)
    | '%' => some { positional places (100 * n) with ending := "%" }
    | 'e' => some (scientific ↑ 'e' places n)
    | 'E' => some (scientific ↑ 'E' places n)
    | 'g' => some (general ↑ 'e' places keepsZeros n)
    | 'G' => some (general ↑ 'E' places keepsZeros n)
    | _ => none

end Decimals

end AdmissionLedger.Template
