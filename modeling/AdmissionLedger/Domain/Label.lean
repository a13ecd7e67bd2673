import AdmissionLedger.Domain.Context
import AdmissionLedger.Domain.LabelTable
import AdmissionLedger.Domain.Punycode
import AdmissionLedger.Text.Quoted

/-!
# Labels

A name consists of labels.  A label beyond ASCII is composed, keeps to the code points
that are permitted, and reads in one direction; on the wire it is written in ASCII
behind a mark.

## Main definitions

* `LabelFault` — what can be wrong with a label.
* `Label.check` — whether a text is a label.
* `Label.toWire`, `Label.ofWire` — its form on the wire, and the label of such a form.
-/

namespace AdmissionLedger

/-- What is wrong with a label, or with the name that it is part of.  Indices count from zero. -/
inductive LabelFault
  | empty
  | tooLong
  | notComposed
  /-- Hyphens in third and fourth place are kept for marks. -/
  | innerHyphens
  | outerHyphen
  | leadingMark
  /-- A joiner stands where it must not. -/
  | misplacedJoiner (label : Text) (index : Nat) (joiner : CodePoint)
  /-- A mark or a digit stands where it must not. -/
  | misplaced (label : Text) (index : Nat) (point : CodePoint)
  | notPermitted (label : Text) (index : Nat) (point : CodePoint)
  | direction (label : Text) (fault : DirectionFault)
  /-- Nothing follows the mark of the form on the wire. -/
  | nothingWritten
  | trailingHyphen
  /-- What follows the mark is not the form of a label. -/
  | unreadable
  | nameTooLong
  deriving DecidableEq, Repr

namespace LabelFault

/-- A code point by its number. -/
def point (c : CodePoint) : Text :=
  Text.ofString "U+" ++ (Text.paddedHex 4 c.val).upperAscii

/-- A place in a label, counted from one. -/
def place (index : Nat) : Text :=
  Text.ofString "position " ++ Text.decimal (index + 1)

/-- The wording of a fault of direction. -/
def directionMessage (label : Text) : DirectionFault → Text
  | .unknown index =>
    Text.ofString "Unknown directionality in label " ++ label.quoted ++ " at " ++ place index
  | .noFirst =>
    Text.ofString "First codepoint in label " ++ label.quoted ++
      " must be directionality L, R or AL"
  | .leftInRight index =>
    Text.ofString "Invalid direction for codepoint at " ++ place index ++
      " in a right-to-left label"
  | .rightInLeft index =>
    Text.ofString "Invalid direction for codepoint at " ++ place index ++
      " in a left-to-right label"
  | .mixedDigits => "Can not mix numeral types in a right-to-left label"
  | .badEnd => "Label ends with illegal codepoint directionality"

/-- The wording of a fault. -/
def message : LabelFault → Text
  | empty => "Empty Label"
  | tooLong => "Label too long"
  | notComposed => "Label must be in Normalization Form C"
  | innerHyphens => "Label has disallowed hyphens in 3rd and 4th position"
  | outerHyphen => "Label must not start or end with a hyphen"
  | leadingMark => "Label begins with an illegal combining character"
  | misplacedJoiner label index joiner =>
    Text.ofString "Unknown codepoint adjacent to joiner " ++ point joiner ++ " at " ++
      place index ++ " in " ++ label.quoted
  | misplaced label index c =>
    Text.ofString "Codepoint " ++ point c ++ " not allowed at " ++ place index ++ " in " ++
      label.quoted
  | notPermitted label index c =>
    Text.ofString "Codepoint " ++ point c ++ " at " ++ place index ++ " of " ++ label.quoted ++
      " not allowed"
  | direction label fault => directionMessage label fault
  | nothingWritten => "Malformed A-label, no Punycode eligible content found"
  | trailingHyphen => "A-label must not end with a hyphen"
  | unreadable => "Invalid A-label"
  | nameTooLong => "Domain too long"

end LabelFault

namespace Label

/-- The mark of the form on the wire. -/
def wireMark : Text := "xn--"

/-- The greatest length of a form on the wire. -/
def maxLength : Nat := 63

/-- Whether a code point may stand anywhere. -/
def isPermitted (c : CodePoint) : Bool :=
  c.isIn LabelTable.permittedBasic || c.isIn LabelTable.permittedBeyond

/-- The first code point that may not stand where it does.  The code points before are in `before`,
the nearest first. -/
def misfit? (label : Text) : (before : Text) → Text → Option LabelFault
  | _, [] => none
  | before, c :: rest =>
    let index := before.length
    let fault : Option LabelFault :=
      if isPermitted c then none
      else if Context.isJoiner c then
        if Context.joinerFits c before rest then none else some (.misplacedJoiner label index c)
      else if Context.isDependent c then
        if Context.fits c before rest then none else some (.misplaced label index c)
      else some (.notPermitted label index c)
    fault.or (misfit? label (c :: before) rest)

/-- Whether a text is a label; if not, the first fault in a fixed order. -/
def check (label : Text) : Except LabelFault Unit :=
  let hyphen := CodePoint.ofChar '-'
  if label.isEmpty then .error .empty
  else if !label.isComposed then .error .notComposed
  else if Text.startsWith (label.drop 2) "--" then .error .innerHyphens
  else if label.head? = some hyphen || label.getLast? = some hyphen then .error .outerHyphen
  else if label.head?.any (CodePoint.isIn LabelTable.marks) then .error .leadingMark
  else
    match misfit? label [] label with
    | some fault => .error fault
    | none =>
      match directionFault? label with
      | some fault => .error (.direction label fault)
      | none => .ok ()

/-- Whether a text is ASCII. -/
def isAscii (t : Text) : Bool :=
  t.all fun c => c.val < 0x80

/-- The label of a text in ASCII, which may be its form on the wire. -/
def ofAscii (t : Text) : Except LabelFault Text :=
  let lower := t.lowerAscii
  if lower.startsWith wireMark then
    let written := lower.drop wireMark.length
    if written.isEmpty then .error .nothingWritten
    else if written.getLast? = some (CodePoint.ofChar '-') then .error .trailingHyphen
    else
      match Punycode.decode? written with
      | none => .error .unreadable
      | some label => (check label).map fun _ => label
  else (check lower).map fun _ => lower

/-- The label of its form on the wire.  A label beyond ASCII has no other form. -/
def ofWire (t : Text) : Except LabelFault Text :=
  if isAscii t then ofAscii t else (check t).map fun _ => t

/-- The form of a label on the wire; one in ASCII is its own. -/
def toWire (label : Text) : Except LabelFault Text := do
  let wire ← if isAscii label then (ofAscii label).map fun _ => label
    else (check label).map fun _ => wireMark ++ Punycode.encode label
  if maxLength < wire.length then .error .tooLong else .ok wire

end Label

end AdmissionLedger
