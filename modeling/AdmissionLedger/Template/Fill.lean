import AdmissionLedger.Template.Spec

/-!
# Templates

The fields of a template are replaced by values from the left.  The specification of a
field may have fields of its own.

A template that cannot be filled in is mostly shown as it is.  Only what is asked of a
value and not possible is a fault of its own.

## Main definitions

* `Reflection.look`, `Reflection.convert`, `Reflection.display` — what a field does with a value.
* `Field.value` — the value that a field names.
* `fill` — a template with its fields replaced.
-/

namespace AdmissionLedger.Template

/-- The values that a template can name. -/
abbrev Values := List (Text × Text)

namespace Reflection

variable (r : Reflection)

/-- A look into a value. -/
def look (v : Value r.Object) : Step → Except Fault (Value r.Object)
  | .member name => r.member v name
  | .item key => r.itemOf v key
  | .malformed => .error .unusable

/-- A value in one of its written forms. -/
def written (ofText : Text → Text) (ofObject : r.Object → Except Fault Text) :
    Value r.Object → Except Fault (Value r.Object)
  | .text t => .ok (.text (ofText t))
  | .object o => (ofObject o).map .text

/-- A value quoted as a conversion says; the null character says nothing. -/
def convert (v : Value r.Object) : Option CodePoint → Except Fault (Value r.Object)
  | none => .ok v
  | some c =>
    if c.val = 0 then .ok v
    else if c = ↑ 's' then r.written id r.plain v
    else if c = ↑ 'r' then r.written Text.quoted r.quoted v
    else if c = ↑ 'a' then r.written Text.quotedAscii r.quotedAscii v
    else .error .unusable

/-- A value as the text of a specification says. -/
def display (spec : Text) : Value r.Object → Except Fault Text
  | .text t => showTextBy r.widthLimit t spec
  | .object o => r.shown o spec

end Reflection

variable (r : Reflection) (values : Values)

/-- The value that a field names, with all looks into it.  Numbers name nothing. -/
def Field.value (f : Field) : Except Fault (Value r.Object) :=
  match key? f.first with
  | some (.name name) =>
    match values.lookup name with
    | none => .error .unusable
    | some value => f.steps.foldlM r.look (.text value)
  | _ => .error .unusable

/-- The text of some pieces, filled in from the left up to the first fault.  `expand` replaces the
fields of specifications. -/
def fillPieces (expand : Text → Except Fault Text) : List Piece → Except Fault Text
  | [] => .ok []
  | .literal t :: rest => (fillPieces expand rest).map (t ++ ·)
  | .malformed :: _ => .error .unusable
  | .field f :: rest => do
    let value ← f.value r values
    let value ← r.convert value f.conversion
    let spec ← expand f.spec
    let text ← r.display spec value
    let rest ← fillPieces expand rest
    return text ++ rest

/-- A specification with its own fields replaced, and those of their specifications, down to
`depth`. -/
def expandSpec : (depth : Nat) → Text → Except Fault Text
  | 0, spec => if spec.contains .openBrace then .error .unusable else .ok spec
  | depth + 1, spec =>
    if spec.contains .openBrace then fillPieces r values (expandSpec depth) (pieces spec)
    else .ok spec

/-- How deep the fields of specifications may be nested. -/
def maxDepth : Nat := 1

/-- A template with its fields replaced by values. -/
def fill (template : Text) : Except Fault Text :=
  fillPieces r values (expandSpec r values maxDepth) (pieces template)

end AdmissionLedger.Template
