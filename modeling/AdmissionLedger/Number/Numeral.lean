import AdmissionLedger.Json.Reader
import AdmissionLedger.Text.Blank
import AdmissionLedger.Text.Digit
import AdmissionLedger.Text.Quoted

/-!
# Integers as people write them

Settings are read with blanks around, a sign, the digits of any script and single
underscores between digits.  Numbers in alert documents may also be quoted; those
are read with ASCII digits, leading zeros and a fraction of zeros.

## Main definitions

* `Text.readInt`, `NumeralError` — the integer of a setting, or why there is none.
* `Text.readLooseInt?` — the integer of a quoted number.
-/

namespace AdmissionLedger

/-- Why a text is no integer. -/
inductive NumeralError
  | malformed (text : Text)
  | tooManyDigits (count : Nat)
  deriving DecidableEq, Repr

/-- How much of a malformed text is shown. -/
def NumeralError.shown : Nat := 200

/-- The wording of a failure. -/
def NumeralError.message : NumeralError → Text
  | malformed t => Text.ofString "invalid literal for int() with base 10: " ++ t.quoted.take shown
  | tooManyDigits count => Json.tooManyDigitsMessage count

/-- The underscore, which may stand between two digits. -/
def underscore : CodePoint := ↑ '_'

/-- Whether two underscores stand side by side. -/
def Text.doubleUnderscore : Text → Bool
  | a :: b :: rest => (a = underscore && b = underscore) || doubleUnderscore (b :: rest)
  | _ => false

/-- Digits with single underscores between them. -/
def Text.isGrouped (t : Text) : Bool :=
  t.head? ≠ some underscore && t.getLast? ≠ some underscore && !t.doubleUnderscore

/-- A code point of a numeral in ASCII: a digit of another script by its value, a blank of another
script as a blank.  ASCII stays as it is, so the separators U+001C to U+001F are no blanks here. -/
def CodePoint.asciiNumeral (c : CodePoint) : CodePoint :=
  if c.val < 0x7F then c
  else if c.isBlank then ↑ ' '
  else match c.digitValue? with
    | some n => .ofNat (0x30 + n)
    | none => ↑ '?'

/-- The text without a sign at its start, and whether the sign was a minus. -/
def Text.splitSign : Text → Bool × Text
  | [] => (false, [])
  | c :: rest =>
    if c = ↑ '-' then (true, rest) else if c = ↑ '+' then (false, rest) else (false, c :: rest)

/-- A number with a sign. -/
def signed (negative : Bool) (n : Nat) : Int :=
  if negative then -n else n

/-- The integer of a setting.  Too many digits are refused before what follows them is looked at. -/
def Text.readInt (t : Text) : Except NumeralError Int :=
  let plain := if t.all fun c => c.val < 0x80 then t else t.map CodePoint.asciiNumeral
  let (negative, unsigned) := splitSign (plain.dropWhile CodePoint.isAsciiSpace)
  let run : Text := unsigned.takeWhile fun c => c.isDigit || c = underscore
  let digits := run.filter CodePoint.isDigit
  if !Text.isGrouped run then .error (.malformed t)
  else if Json.maxDigits < digits.length then .error (.tooManyDigits digits.length)
  else if digits.isEmpty || !(unsigned.drop run.length).all CodePoint.isAsciiSpace then
    .error (.malformed t)
  else .ok (signed negative (Json.digitsValue digits))

namespace Text

/-- Digits as a document writes an integer: not too many, and no zero in front of others. -/
def documentDigits? (t : Text) : Option Nat :=
  if t.isEmpty || !t.all CodePoint.isDigit || Json.maxDigits < t.length then none
  else if t.head? = some ↑ '0' && t.length ≠ 1 then none
  else some (Json.digitsValue t)

/-- An integer as a document writes it. -/
def documentInt? (t : Text) : Option Int :=
  if t.startsWith "-" then (documentDigits? (t.drop 1)).map (signed true)
  else (documentDigits? t).map (signed false)

/-- The text without zeros and underscores in front of its first other digit or a minus, provided
that it begins with a zero.  A zero before a point is kept, and so is the last code point of all. -/
def withoutLeadingZeros : (last : CodePoint) → Text → Option Text
  | last, [] => some [last]
  | last, c :: rest =>
    if c = ↑ '0' || c = underscore then withoutLeadingZeros c rest
    else if c.isDigit || c = ↑ '-' then some (c :: rest)
    else if c = ↑ '.' then some (last :: c :: rest)
    else none

/-- A number without superfluous zeros in front; it has to begin with a digit. -/
def stripLeadingZeros? (t : Text) : Option Text :=
  match t with
  | [] => none
  | c :: rest =>
    if c = ↑ '0' then withoutLeadingZeros c rest
    else if c.isDigit then some t
    else none

/-- A number without a fraction of one or more zeros. -/
def stripZeroFraction (t : Text) : Text :=
  let fraction := (t.dropWhile (· ≠ ↑ '.')).drop 1
  if !fraction.isEmpty && fraction.all (· = ↑ '0') then t.takeWhile (· ≠ ↑ '.') else t

/-- A number without underscores that stand singly inside it. -/
def stripUnderscores (t : Text) : Text :=
  if t.isGrouped then t.filter (· ≠ underscore) else t

/-- A number without its sign, and the sign that it keeps.  A plus is dropped and must not stand
before a minus. -/
def splitKeptSign? (t : Text) : Option (Text × Text) :=
  if t.startsWith "+" then
    let rest := t.drop 1
    if Text.startsWith rest "-" then none else some ([], rest)
  else if t.startsWith "-" then some ("-", t.drop 1)
  else some ([], t)

/-- The integer of a quoted number: blanks around, a plus in front, zeros in front, a fraction of
zeros and single underscores are passed over. -/
def readLooseInt? (t : Text) : Option Int :=
  (documentInt? t).or <| do
    let (sign, unsigned) ← splitKeptSign? (t.stripBy CodePoint.isWhiteSpace)
    let digits ← stripLeadingZeros? unsigned
    documentInt? (sign ++ stripUnderscores (stripZeroFraction digits))

end Text

end AdmissionLedger
