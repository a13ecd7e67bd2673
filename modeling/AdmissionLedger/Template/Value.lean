import AdmissionLedger.Text.Digit
import AdmissionLedger.Text.Quoted

/-!
# Looking into values

A template names texts and looks into them, by the place of an item or by the name of a
member.  What it finds there need not be a text.  Of which members a text has, and of what
is no text, nothing is said here: that is up to the machine.

## Main definitions

* `Value`, `Key` — what a look can find, and what an item is looked up by.
* `Fault` — why a template could not be filled in.
* `Reflection` — what a machine knows of its values.
* `Reflection.itemOf` — an item of a value.
-/

namespace AdmissionLedger.Template

/-- Why a template cannot be filled in. -/
inductive Fault
  /-- Wrong syntax, an unknown name or an index past the end. -/
  | unusable
  /-- A value has no member of this name. -/
  | noMember (message : Text)
  /-- A value is not of a kind for what is asked of it. -/
  | wrongKind (message : Text)
  /-- A number is too great for what is asked of it. -/
  | outOfRange (message : Text)
  /-- A value is to be shown wider than any text can be. -/
  | tooWide
  deriving DecidableEq, Repr

/-- The wording of a fault. -/
def Fault.message : Fault → Text
  | .unusable | .tooWide => []
  | .noMember message | .wrongKind message | .outOfRange message => message

/-- What a look into a value can find. -/
inductive Value (Object : Type)
  | text (t : Text)
  | object (o : Object)
  deriving DecidableEq, Repr

/-- What an item is looked up by. -/
inductive Key
  | number (n : Nat)
  | name (t : Text)
  deriving DecidableEq, Repr

/-- What a machine knows of its values. -/
structure Reflection where
  /-- All values that are not texts. -/
  Object : Type
  /-- A member of a value. -/
  member : Value Object → Text → Except Fault (Value Object)
  /-- An item of an object. -/
  item : Object → Key → Except Fault (Value Object)
  /-- An object as it is written on its own. -/
  plain : Object → Except Fault Text
  /-- An object with the texts in it in quotes. -/
  quoted : Object → Except Fault Text
  /-- The same in ASCII. -/
  quotedAscii : Object → Except Fault Text
  /-- An object as the text of a specification says. -/
  shown : Object → Text → Except Fault Text
  /-- No text is shown wider than this. -/
  widthLimit : Nat

/-- The only value of an optional one; without one the template cannot be used. -/
def orUnusable {α : Type} (result : Option α) : Except Fault α :=
  result.elim (.error .unusable) .ok

namespace Reflection

variable (r : Reflection)

/-- An item of a value.  The items of a text are its code points, which have no names. -/
def itemOf : Value r.Object → Key → Except Fault (Value r.Object)
  | .text t, .number n => orUnusable (t[n]?.map fun c => .text [c])
  | .text _, .name _ => .error (.wrongKind "string indices must be integers, not 'str'")
  | .object o, key => r.item o key

end Reflection

end AdmissionLedger.Template
