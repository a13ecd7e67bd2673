import AdmissionLedger.Domain.Label
import AdmissionLedger.Text.Lower

/-!
# Names of hosts

A name is a sequence of labels with dots between them, where three further code points
count as dots.  A dot at the end is kept.

## Main definitions

* `DomainName.toWire`, `DomainName.ofWire` — a name in ASCII, and the name of such a form.
-/

namespace AdmissionLedger.DomainName

/-- The code points that divide labels. -/
def isDot (c : CodePoint) : Bool :=
  c.val == 0x2E || c.val == 0x3002 || c.val == 0xFF0E || c.val == 0xFF61

/-- The dot of the form on the wire. -/
def dot : CodePoint := CodePoint.ofChar '.'

/-- The greatest length of a name, and of one with a dot at its end. -/
def maxLength (endsWithDot : Bool) : Nat :=
  if endsWithDot then 254 else 253

/-- The labels of a name, and whether a dot ends it. -/
def labels (name : Text) : List Text × Bool :=
  let parts := Text.splitOn dot (name.map fun c => if isDot c then dot else c)
  if parts.getLast? = some [] then (parts.dropLast, true) else (parts, false)

/-- A name label by label. -/
def mapLabels (f : Text → Except LabelFault Text) (name : Text) : Except LabelFault (Text × Bool) :=
  if maxLength true < name.length then .error .nameTooLong
  else do
    let (parts, endsWithDot) := labels name
    let parts ← parts.mapM f
    return (Text.join [dot] parts ++ if endsWithDot then [dot] else [], endsWithDot)

/-- A name in ASCII. -/
def toWire (name : Text) : Except LabelFault Text := do
  let (wire, endsWithDot) ← mapLabels Label.toWire name
  if maxLength endsWithDot < wire.length then .error .nameTooLong else .ok wire

/-- The name of a form on the wire. -/
def ofWire (wire : Text) : Except LabelFault Text :=
  (mapLabels Label.ofWire wire).map (·.1)

end AdmissionLedger.DomainName
