import AdmissionLedger.Template.Decimals
import AdmissionLedger.Template.Spec

/-!
# Numbers by specification

A whole number is shown in a base, with decimals, or as a code point.  Its sign comes first,
and marks may stand between groups of its digits.

## Main definitions

* `Spec.showPoint`, `Spec.showDigits`, `Spec.showDecimals` — the three ways to show a number.
* `Spec.showNumber` — a number as a specification says.
-/

namespace AdmissionLedger.Template.Spec

/-- How the letter of a presentation writes whole numbers: the base, the text that shows it, and the
number of digits in a group. -/
def base? (letter : Option CodePoint) : Option (Nat × Text × Nat) :=
  match letter.map CodePoint.toChar with
  | none | some 'd' | some 'n' => some (10, [], 3)
  | some 'b' => some (2, "0b", 4)
  | some 'o' => some (8, "0o", 4)
  | some 'x' => some (16, "0x", 4)
  | some 'X' => some (16, "0X", 4)
  | _ => none

/-- Whether a separator may stand between the digits that the letter of a presentation writes. -/
def separates (letter : Option CodePoint) (separator : CodePoint) : Bool :=
  match letter.map CodePoint.toChar with
  | none | some 'd' => true
  | some 'n' => false
  | _ => separator = ↑ '_'

/-- Digits with a separator between the groups, counted from the right. -/
def grouped (separator : Option CodePoint) (size : Nat) (digits : Text) : Text :=
  match separator with
  | none => digits
  | some mark =>
    let count := digits.length
    (digits.mapIdx fun i c =>
      if i ≠ 0 && (count - i) % size = 0 then [mark, c] else [c]).flatten

/-- Digits in groups, with zeros in front until they are as wide as is asked for. -/
def widened (separator : Option CodePoint) (size width : Nat) : (zeros : Nat) → Text → Text
  | 0, digits => grouped separator size digits
  | zeros + 1, digits =>
    let t := grouped separator size digits
    if width ≤ t.length then t else widened separator size width zeros (↑ '0' :: digits)

/-- Where a number stands if nothing is said of it. -/
def numberAlignment (s : Spec) : Alignment :=
  s.alignment.getD (if s.zeros then .inner else .right)

/-- The code point of a number as a specification says; it has no sign and no base. -/
def showPoint (s : Spec) (n : Int) : Except Fault Text :=
  if s.precision.isSome || s.unsignedZero || s.sign.isSome || s.showsBase ||
      s.separator.isSome then .error .unusable
  else if n < 0 || 0x110000 ≤ n then .error (.outOfRange "%c arg not in range(0x110000)")
  else .ok (s.pad s.numberAlignment [] [.ofNat n.toNat])

/-- The sign of a whole number. -/
def signOf (s : Spec) (n : Int) : Text :=
  if n < 0 then "-" else match s.sign with
    | some c => if c = ↑ '-' then [] else [c]
    | none => []

/-- A number filled up: zeros behind its sign are digits, all else stands around the number. -/
def fillNumber (s : Spec) (size : Nat) (front digits ending : Text) : Text :=
  let alignment := s.numberAlignment
  let width := if alignment = .inner && s.fill = ↑ '0' then s.width - front.length - ending.length
    else 0
  s.pad alignment front (widened s.separator size width width digits ++ ending)

/-- A whole number with decimals. -/
def showDecimals (s : Spec) (n : Int) (d : Decimals) : Text :=
  let point : Text := if d.fraction.isEmpty && !s.showsBase then [] else "."
  s.fillNumber 3 (s.signOf n) d.whole (point ++ d.fraction ++ d.ending)

/-- A whole number in the base that a letter asks for. -/
def showDigits (s : Spec) (n : Int) : Option Text := do
  let (base, mark, size) ← base? s.letter
  let separable := s.separator.all (separates s.letter)
  if s.precision.isSome || s.unsignedZero || !separable then none
  let digits := Text.ofChars (Nat.toDigits base n.natAbs)
  let digits := if s.letter = some ↑ 'X' then digits.upperAscii else digits
  return s.fillNumber size (s.signOf n ++ if s.showsBase then mark else []) digits []

/-- A whole number as a specification says, if it is a specification for whole numbers. -/
def showNumber (s : Spec) (n : Int) : Except Fault Text :=
  if s.letter = some ↑ 'c' then s.showPoint n
  else
    match s.letter.bind (Decimals.ofLetter? · s.precision s.showsBase n.natAbs) with
    | some decimals => .ok (s.showDecimals n decimals)
    | none => orUnusable (s.showDigits n)

end AdmissionLedger.Template.Spec
