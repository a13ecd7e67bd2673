import AdmissionLedger.Domain.DirectionTable
import AdmissionLedger.Text.CodePoint

/-!
# Directions of labels

A label with letters that are written from right to left must not be read in two
ways.  It runs in one direction, which its first letter gives, and ends in a letter
or a digit.

## Main definitions

* `Direction`, `CodePoint.direction` — the classes of code points by direction.
* `DirectionFault`, `directionFault?` — what can be wrong with a label, and the check.
-/

namespace AdmissionLedger

/-- The classes of code points by direction. -/
inductive Direction
  | leftToRight
  | rightToLeft
  | arabicLetter
  | arabicNumber
  | europeanNumber
  | separator
  | neutral
  | boundary
  | nonspacing
  /-- The class is not known. -/
  | unknown
  deriving DecidableEq, Repr

namespace Direction

/-- The runs of all classes but the first. -/
def runs : List (List (Nat × Nat) × Direction) :=
  [(DirectionTable.rightToLeft, rightToLeft), (DirectionTable.arabicLetter, arabicLetter),
    (DirectionTable.arabicNumber, arabicNumber), (DirectionTable.europeanNumber, europeanNumber),
    (DirectionTable.separator, separator), (DirectionTable.neutral, neutral),
    (DirectionTable.boundary, boundary), (DirectionTable.nonspacing, nonspacing),
    (DirectionTable.unknown, unknown)]

/-- The letters that are written from right to left. -/
def isRightLetter (d : Direction) : Bool :=
  d == rightToLeft || d == arabicLetter

/-- The classes that make a label one to be checked. -/
def isFromRight (d : Direction) : Bool :=
  d.isRightLetter || d == arabicNumber

end Direction

/-- The class of a code point that may stand in a label. -/
def CodePoint.direction (c : CodePoint) : Direction :=
  ((Direction.runs.find? fun row => c.isIn row.1).map (·.2)).getD .leftToRight

/-- What is wrong with the directions in a label.  Indices count from zero. -/
inductive DirectionFault
  | unknown (index : Nat)
  /-- The first code point gives no direction. -/
  | noFirst
  /-- A code point from left to right in a label from right to left. -/
  | leftInRight (index : Nat)
  /-- A code point from right to left in a label from left to right. -/
  | rightInLeft (index : Nat)
  /-- Digits of two kinds. -/
  | mixedDigits
  /-- The label does not end in a letter or a digit. -/
  | badEnd
  deriving DecidableEq, Repr

namespace DirectionFault

/-- The check of a label from right to left, from an index on.  `ends` tells whether the label could
end here, `digits` the kind of digits so far. -/
def scanRight : (index : Nat) → (ends : Bool) → (digits : Option Direction) → List Direction →
    Option DirectionFault
  | _, ends, _, [] => if ends then none else some badEnd
  | index, ends, digits, d :: rest =>
    let isDigit := d == .arabicNumber || d == .europeanNumber
    if d = .leftToRight then some (leftInRight index)
    else if isDigit && digits.isSome && digits ≠ some d then some mixedDigits
    else scanRight (index + 1) (d.isRightLetter || isDigit || (d == .nonspacing && ends))
      (if isDigit then some d else digits) rest

/-- The check of a label from left to right, from an index on. -/
def scanLeft : (index : Nat) → (ends : Bool) → List Direction → Option DirectionFault
  | _, ends, [] => if ends then none else some badEnd
  | index, ends, d :: rest =>
    if d.isFromRight then some (rightInLeft index)
    else scanLeft (index + 1)
      (d == .leftToRight || d == .europeanNumber || (d == .nonspacing && ends)) rest

end DirectionFault

/-- What is wrong with the directions in a label.  One without code points from right to left is not
looked at further. -/
def directionFault? (label : Text) : Option DirectionFault :=
  let ds := label.map CodePoint.direction
  if ds.contains .unknown then some (.unknown (ds.takeWhile (· ≠ .unknown)).length)
  else if !ds.any Direction.isFromRight then none
  else match ds with
    | [] => none
    | first :: _ =>
      if first.isRightLetter then DirectionFault.scanRight 0 false none ds
      else if first = .leftToRight then DirectionFault.scanLeft 0 false ds
      else some .noFirst

end AdmissionLedger
