import AdmissionLedger.Template.Piece

/-!
# Specifications

How a value is shown: filled up to a width on one of its sides, cut to a precision, and
for a number also its sign, its base and marks between groups of digits.

## Main definitions

* `Spec`, `Spec.ofText` — a specification, and the one that a text spells.
* `Spec.showText` — a text as a specification says.
* `Spec.apply`, `showTextBy` — the same with the text of a specification, up to a limit.
-/

namespace AdmissionLedger.Template

/-- Where a value stands in what is filled up. -/
inductive Alignment
  | left
  | right
  | center
  /-- A number is filled up behind its sign. -/
  | inner
  deriving DecidableEq, Repr

/-- The alignment that a mark stands for. -/
def Alignment.ofMark? (c : CodePoint) : Option Alignment :=
  match c.toChar with
  | '<' => some left
  | '>' => some right
  | '^' => some center
  | '=' => some inner
  | _ => none

/-- How much of what is filled in stands before the value and its sign. -/
def Alignment.before : Alignment → (missing : Nat) → Nat
  | left, _ | inner, _ => 0
  | right, missing => missing
  | center, missing => missing / 2

/-- How a value is shown. -/
structure Spec where
  fill : CodePoint := ↑ ' '
  alignment : Option Alignment := none
  /-- Whether a sign is shown even if it is not a minus, and which. -/
  sign : Option CodePoint := none
  /-- Whether the sign of a zero is to be dropped. -/
  unsignedZero : Bool := false
  /-- Whether the base of a number is shown, or the point behind its last digit. -/
  showsBase : Bool := false
  /-- Whether zeros fill up. -/
  zeros : Bool := false
  /-- The least number of code points. -/
  width : Nat := 0
  /-- What stands between groups of digits. -/
  separator : Option CodePoint := none
  /-- The greatest number of code points taken from a text, or the places of a number. -/
  precision : Option Nat := none
  /-- The letter of the presentation. -/
  letter : Option CodePoint := none
  deriving DecidableEq, Repr

namespace Spec

/-- Digits of any script at the start of a text, the number that they spell, and the rest; nothing
if the number is refused. -/
def leadingNumber (t : Text) : Option (Option Nat × Text) :=
  let digits := t.takeWhile fun c => c.digitValue?.isSome
  let rest := t.drop digits.length
  if digits.isEmpty then some (none, rest)
  else
    match key? digits with
    | some (.number n) => some (some n, rest)
    | _ => none

/-- Whether a mark comes first, and what is left. -/
def leadingMark (marks : List Char) (t : Text) : Option CodePoint × Text :=
  match t with
  | c :: rest => if marks.contains c.toChar then (some c, rest) else (none, t)
  | [] => (none, [])

/-- The fill and the alignment in front of a specification, and what is left.  A fill is given only
together with an alignment. -/
def leading (t : Text) : Option CodePoint × Option Alignment × Text :=
  let single : Option CodePoint × Option Alignment × Text :=
    match t with
    | a :: rest =>
      match Alignment.ofMark? a with
      | some alignment => (none, some alignment, rest)
      | none => (none, none, t)
    | [] => (none, none, [])
  match t with
  | fill :: a :: rest =>
    match Alignment.ofMark? a with
    | some alignment => (some fill, some alignment, rest)
    | none => single
  | _ => single

/-- The specification that a text spells. -/
def ofText (t : Text) : Option Spec := do
  let (fill, alignment, t) := leading t
  let (sign, t) := leadingMark [' ', '+', '-'] t
  let (unsignedZero, t) := leadingMark ['z'] t
  let (showsBase, t) := leadingMark ['#'] t
  let (zero, t) := if fill.isNone then leadingMark ['0'] t else (none, t)
  let (width, t) ← leadingNumber t
  let (separator, t) := leadingMark [',', '_'] t
  if separator.isSome && (leadingMark [',', '_'] t).1.isSome then none
  let (point, t) := leadingMark ['.'] t
  let (precision, t) ← if point.isSome then leadingNumber t else some (none, t)
  if point.isSome && precision.isNone then none
  if 1 < t.length then none
  return {
    fill := (fill.or zero).getD ↑ ' ', alignment, sign, unsignedZero := unsignedZero.isSome
    showsBase := showsBase.isSome, zeros := zero.isSome, width := width.getD 0, separator
    precision, letter := t.head? }

/-- A text filled up with nothing between its sign and the rest. -/
def pad (s : Spec) (alignment : Alignment) (front t : Text) : Text :=
  let missing := s.width - (front.length + t.length)
  let before := alignment.before missing
  let inner := if alignment = .inner then missing else 0
  List.replicate before s.fill ++ front ++ List.replicate inner s.fill ++ t ++
    List.replicate (missing - before - inner) s.fill

/-- Whether a specification asks for nothing that only numbers have. -/
def fitsText (s : Spec) : Bool :=
  s.sign.isNone && !s.unsignedZero && !s.showsBase && s.separator.isNone &&
    s.alignment ≠ some .inner && (s.letter.isNone || s.letter = some ↑ 's')

/-- A text up to the precision. -/
def cut (s : Spec) (t : Text) : Text :=
  match s.precision with
  | some n => t.take n
  | none => t

/-- A text as a specification says, if it is a specification for texts. -/
def showText (s : Spec) (t : Text) : Except Fault Text :=
  if s.fitsText then .ok (s.pad (s.alignment.getD .left) [] (s.cut t)) else .error .unusable

/-- What is shown with the text of a specification, unless that is wider than a limit.  All else
that is wrong with it comes first. -/
def apply (limit : Nat) (shown : Spec → Except Fault Text) (spec : Text) : Except Fault Text :=
  match ofText spec with
  | none => .error .unusable
  | some s =>
    if limit < s.width then (shown { s with width := 0 }).bind fun _ => .error .tooWide
    else shown s

end Spec

/-- A text shown with a specification; one that is empty leaves it as it is. -/
def showTextBy (limit : Nat) (t spec : Text) : Except Fault Text :=
  if spec.isEmpty then .ok t else Spec.apply limit (·.showText t) spec

end AdmissionLedger.Template
