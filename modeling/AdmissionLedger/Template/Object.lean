import AdmissionLedger.Template.MemberTable
import AdmissionLedger.Template.Number

/-!
# Objects

What a look into a text finds need not be a text: it may be an operation that texts have, their
kind, or what a kind is made of.  All this can be looked into in turn.

## Main definitions

* `Object`, `Object.kindOf` — what a look can find, and of which kind it is.
* `Object.member`, `Object.item` — one look into an object.
* `Object.plain`, `Object.quoted` — how an object is written.
* `Reflection.standard` — all this together.
-/

namespace AdmissionLedger.Template

/-- An item of a sequence. -/
inductive Element
  | kind (k : Kind)
  | key (key : Key)
  deriving DecidableEq, Repr

/-- What a look into a text can find, and what can be found from there. -/
inductive Object
  | text (t : Text)
  | number (n : Int)
  /-- The truth value of what does not hold. -/
  | untrue
  | nothing
  | kind (k : Kind)
  | sequence (elements : List Element)
  /-- The members of a kind. -/
  | table (k : Kind)
  /-- A table that can be changed, without entries. -/
  | emptyTable
  /-- A kind with an argument. -/
  | applied (k : Kind) (argument : Key)
  /-- A member as its kind declares it. -/
  | unbound (origin : Kind) (m : Member)
  /-- A member of an object. -/
  | bound (owner : Object) (origin : Kind) (m : Member)
  /-- A member without a value, as its kind holds it. -/
  | held (origin : Kind) (m : Member)
  deriving DecidableEq, Repr

namespace Kind

/-- The kinds whose members a kind has, itself first. -/
def lineage : Kind → List Kind
  | root => [root]
  | truth => [truth, number, root]
  | k => [k, root]

/-- A member that a kind declares itself. -/
def own? (k : Kind) (name : Text) : Option Member :=
  k.members.find? fun m => Text.ofString m.name == name

/-- A member of a kind, with the kind that declares it. -/
def find? (k : Kind) (name : Text) : Option (Kind × Member) :=
  k.lineage.findSome? fun origin => (origin.own? name).map (origin, ·)

/-- The name of a kind, behind that of its module unless it is built in. -/
def name (k : Kind) : Text :=
  Text.ofString k.facts.name

/-- The module of a kind, and its name there. -/
def path (k : Kind) : Text × Text :=
  let module := k.name.takeWhile (· ≠ ↑ '.')
  if module.length = k.name.length then ("builtins", k.name)
  else (module, k.name.drop (module.length + 1))

/-- The kind of a member that is not bound. -/
def ofRole : Role → Kind
  | .slot => slot
  | .computed => computed
  | .stored => stored
  | .shared => shared
  | _ => operation

end Kind

namespace Object

/-- The value of a key. -/
def ofKey : Key → Object
  | .number n => number n
  | .name t => text t

/-- The value of an item. -/
def ofElement : Element → Object
  | .kind k => kind k
  | .key key => ofKey key

/-- The kind of an object. -/
def kindOf : Object → Kind
  | text _ => .text
  | number _ => .number
  | untrue => .truth
  | nothing => .nothing
  | kind _ => .kind
  | sequence _ => .sequence
  | table _ => .table
  | emptyTable => .dictionary
  | applied .. => .applied
  | unbound _ m => .ofRole m.role
  | bound _ _ m => if m.role = .slot then .boundSlot else .callable
  | held .. => .static

/-- A text if there is one. -/
def ofString? : Option String → Object
  | some s => text (Text.ofString s)
  | none => nothing

/-- A description, which is nothing if it has no lines. -/
def ofLines (lines : List String) : Object :=
  if lines.isEmpty then nothing
  else text (Text.join [.lineFeed] (lines.map Text.ofString))

/-! ### How objects are written -/

section

-- where an object is in memory
variable (place : Object → Text)

/-- How a kind is written. -/
def kindText (k : Kind) : Text :=
  Text.ofString "<class " ++ k.name.quoted ++ Text.ofString ">"

/-- How a key is written. -/
def keyText : Key → Text
  | .number n => Text.decimal n
  | .name t => t.quoted

/-- How an item is written. -/
def elementText : Element → Text
  | .kind k => kindText k
  | .key key => keyText key

/-- How a sequence is written. -/
def sequenceText (elements : List Element) : Text :=
  Text.ofString "(" ++ Text.join ", " (elements.map elementText) ++
    if elements.length = 1 then Text.ofString ",)" else Text.ofString ")"

/-- How a kind with an argument is written. -/
def appliedText (k : Kind) (argument : Key) : Text :=
  k.name ++ Text.ofString "[" ++ keyText argument ++ Text.ofString "]"

/-- How a member that is not bound is written. -/
def unboundText (origin : Kind) (m : Member) : Text :=
  let word := match m.role with
    | .slot => "slot wrapper"
    | .computed => "attribute"
    | .stored => "member"
    | _ => "method"
  Text.ofString s!"<{word} '{m.name}' of " ++ origin.name.quoted ++ Text.ofString " objects>"

/-- How a member of an object is written. -/
def boundText (owner : Object) (m : Member) : Text :=
  Text.ofString (if m.role = .slot then s!"<method-wrapper '{m.name}' of "
    else s!"<built-in method {m.name} of ") ++ owner.kindOf.name ++
    Text.ofString " object at " ++ place owner ++ Text.ofString ">"

/-- How a member without a value is written. -/
def heldText (origin : Kind) (m : Member) : Text :=
  Text.ofString "<staticmethod(" ++ boundText place (kind origin) m ++ Text.ofString ")>"

/-- What a table holds of a member. -/
def entry (k : Kind) (m : Member) : Object :=
  match m.role with
  | .maker => bound (kind k) k m
  | .static => held k m
  | .documentation => ofLines k.facts.description
  | .absent => nothing
  | _ => unbound k m

/-- How an entry of a table is written. -/
def entryText (k : Kind) (m : Member) : Text :=
  Text.quoted (Text.ofString m.name) ++ Text.ofString ": " ++
    match entry k m with
    | text t => t.quoted
    | bound owner _ m => boundText place owner m
    | held origin m => heldText place origin m
    | unbound origin m => unboundText origin m
    | _ => "None"

/-- How a table is written. -/
def tableText (k : Kind) : Text :=
  .openBrace :: Text.join ", " (k.members.map (entryText place k)) ++ [.closeBrace]

/-- An object as it is written on its own. -/
def plain : Object → Text
  | text t => t
  | number n => Text.ofInt n
  | untrue => "False"
  | nothing => "None"
  | kind k => kindText k
  | sequence elements => sequenceText elements
  | table k => tableText place k
  | emptyTable => [.openBrace, .closeBrace]
  | applied k argument => appliedText k argument
  | unbound origin m => unboundText origin m
  | bound owner _ m => boundText place owner m
  | held origin m => heldText place origin m

/-- An object with texts in quotes. -/
def quoted : Object → Text
  | text t => t.quoted
  | table k => Text.ofString "mappingproxy(" ++ tableText place k ++ Text.ofString ")"
  | o => o.plain place

/-- An object as the text of a specification says.  Only texts and numbers have more than one
form. -/
def shown (limit : Nat) (o : Object) (spec : Text) : Except Fault Text :=
  if spec.isEmpty then .ok (o.plain place)
  else match o with
    | text t => showTextBy limit t spec
    | number n => Spec.apply limit (·.showNumber n) spec
    | untrue => Spec.apply limit (·.showNumber 0) spec
    | o => .error (.wrongKind (Text.ofString "unsupported format string passed to " ++
        o.kindOf.name ++ Text.ofString ".__format__"))

end

/-! ### Members -/

/-- The fault of an object that has no member of a name. -/
def noMember (o : Object) (name : Text) : Fault :=
  let owner := match o with
    | kind k => Text.ofString "type object " ++ k.name.quoted
    | o => o.kindOf.name.quoted ++ Text.ofString " object"
  .noMember (owner ++ Text.ofString " has no attribute '" ++ name ++ Text.ofString "'")

/-- The description of a kind; one that describes its values one by one has that member instead. -/
def kindDescription (k : Kind) : Object :=
  match k.facts.description, k.own? "__doc__" with
  | [], some m => if m.role = .computed then unbound k m else nothing
  | lines, _ => ofLines lines

/-- What a kind knows of itself. -/
def kindAttribute (k : Kind) (name : String) : Except Fault Object :=
  let facts := k.facts
  match name with
  | "__name__" | "__qualname__" => .ok (text k.path.2)
  | "__module__" => .ok (text k.path.1)
  | "__doc__" => .ok (kindDescription k)
  | "__text_signature__" => .ok (ofString? facts.signature)
  | "__mro__" => .ok (sequence (k.lineage.map .kind))
  | "__bases__" => .ok (sequence ((k.lineage[1]?.map .kind).toList))
  | "__base__" => .ok ((k.lineage[1]?.map kind).getD nothing)
  | "__dict__" => .ok (table k)
  | "__basicsize__" => .ok (number facts.size)
  | "__itemsize__" => .ok (number facts.itemSize)
  | "__flags__" => .ok (number facts.flags)
  | "__dictoffset__" => .ok (number facts.dictionaryOffset)
  | "__weakrefoffset__" => .ok (number facts.referenceOffset)
  | "__abstractmethods__" => .error (.noMember (Text.ofString name))
  | _ => .error ((kind k).noMember (Text.ofString name))

/-- What a number knows of itself. -/
def numberAttribute (n : Int) (name : String) : Object :=
  number (if name = "imag" then 0 else if name = "denominator" then 1 else n)

/-- What a kind with an argument knows of itself. -/
def appliedAttribute (k : Kind) (argument : Key) (name : String) : Object :=
  match name with
  | "__origin__" => kind k
  | "__args__" => sequence [.key argument]
  | "__parameters__" => sequence []
  | "__unpacked__" => untrue
  | _ => nothing

/-- What a member knows of itself.  `qualifier` is the kind that its full name begins with. -/
def memberAttribute (self : Object) (qualifier origin : Kind) (m : Member) (name : String) :
    Object :=
  match name with
  | "__name__" => text (Text.ofString m.name)
  | "__qualname__" => text (qualifier.path.2 ++ Text.ofString "." ++ Text.ofString m.name)
  | "__doc__" => ofLines m.description
  | "__text_signature__" => ofString? m.signature
  | "__objclass__" => kind origin
  | "__self__" => if m.role = .static then nothing else self
  | _ => nothing

/-- What a member without a value knows of itself, as its kind holds it. -/
def heldAttribute (origin : Kind) (m : Member) (name : String) : Object :=
  match name with
  | "__func__" | "__wrapped__" => bound (kind origin) origin m
  | "__isabstractmethod__" => untrue
  | "__dict__" => emptyTable
  | _ => nothing

/-- What is computed from an object or stored with it. -/
def derived (o : Object) (name : String) : Except Fault Object :=
  if name = "__class__" then .ok (kind o.kindOf)
  else
    match o with
    | kind k => kindAttribute k name
    | number n => .ok (numberAttribute n name)
    | untrue => .ok (numberAttribute 0 name)
    | applied k argument => .ok (appliedAttribute k argument name)
    | unbound origin m => .ok (memberAttribute nothing origin origin m name)
    | bound owner origin m =>
      let qualifier := match owner with
        | kind k => if m.role = .slot then origin else k
        | owner => if m.role = .slot then origin else owner.kindOf
      .ok (memberAttribute owner qualifier origin m name)
    | held origin m => .ok (heldAttribute origin m name)
    | _ => .ok nothing

/-- A member that is declared by `origin`, looked up in an object of the kind `k`. -/
def bind (o : Object) (k origin : Kind) (m : Member) : Except Fault Object :=
  match m.role with
  | .computed | .stored => o.derived m.name
  | .operation | .slot => .ok (bound o origin m)
  | .shared => .ok (bound (kind k) origin m)
  | .maker | .static => .ok (bound (kind origin) origin m)
  | .documentation => .ok (ofLines origin.facts.description)
  | .absent => .ok nothing

/-- A member that is declared by `origin`, looked up in the kind `k` itself. -/
def ofKind (k origin : Kind) (m : Member) : Object :=
  match m.role with
  | .shared => bound (kind k) origin m
  | .static => bound (kind origin) origin m
  | _ => entry origin m

/-- A member of a kind: what kinds know of themselves comes first, then what the kind declares for
its values, then what can be done with kinds. -/
def memberOfKind (k : Kind) (name : Text) : Except Fault Object :=
  let self := kind k
  let declaredOr (otherwise : Except Fault Object) : Except Fault Object :=
    match k.find? name with
    | some (origin, m) => .ok (ofKind k origin m)
    | none => otherwise
  match Kind.kind.find? name with
  | some (origin, m) =>
    if m.role = .computed || m.role = .stored then self.derived m.name
    else declaredOr (self.bind .kind origin m)
  | none => declaredOr (.error (self.noMember name))

/-- The members that a kind with an argument has itself; all others are those of the kind. -/
def appliedNames : List Text :=
  ["__class__", "__origin__", "__args__", "__unpacked__", "__parameters__",
    "__typing_unpacked_tuple_args__", "__mro_entries__", "__reduce_ex__", "__reduce__", "__copy__",
    "__deepcopy__"]

/-- A member that the kind of an object declares. -/
def declaredMember (o : Object) (name : Text) : Except Fault Object :=
  match o.kindOf.find? name with
  | some (origin, m) => o.bind o.kindOf origin m
  | none => .error (o.noMember name)

/-- A member of an object. -/
def member (o : Object) (name : Text) : Except Fault Object :=
  match o with
  | kind k => memberOfKind k name
  | applied k _ => if appliedNames.contains name then o.declaredMember name else memberOfKind k name
  | o => o.declaredMember name

/-! ### Items -/

/-- Whether a kind takes an argument. -/
def takesArgument (k : Kind) : Bool :=
  k = .kind || (k.own? "__class_getitem__").isSome

/-- The fault of something without items. -/
def notSubscriptable (owner : Text) : Fault :=
  .wrongKind (owner ++ Text.ofString " is not subscriptable")

/-- An item of an object. -/
def item (o : Object) (key : Key) : Except Fault Object :=
  match o, key with
  | text t, .number n => orUnusable (t[n]?.map fun c => text [c])
  | sequence elements, .number n => orUnusable (elements[n]?.map ofElement)
  | text _, .name _ => .error (.wrongKind "string indices must be integers, not 'str'")
  | sequence _, .name _ =>
    .error (.wrongKind "tuple indices must be integers or slices, not str")
  | table k, .name t => orUnusable ((k.own? t).map (entry k))
  | table _, .number _ | emptyTable, _ => .error .unusable
  | kind k, key =>
    if takesArgument k then .ok (applied k key)
    else .error (notSubscriptable (Text.ofString "type " ++ k.name.quoted))
  | applied k argument, _ =>
    .error (.wrongKind (appliedText k argument ++ Text.ofString " is not a generic class"))
  | o, _ => .error (notSubscriptable (o.kindOf.name.quoted ++ Text.ofString " object"))

end Object

namespace Value

/-- A value as an object. -/
def toObject : Value Object → Object
  | text t => .text t
  | object o => o

/-- An object as a value. -/
def ofObject : Object → Value Object
  | .text t => text t
  | o => object o

end Value

/-- What a machine knows that has these objects, given where they are in its memory and how wide a
text it can show. -/
def Reflection.standard (place : Template.Object → Text) (widthLimit : Nat) : Reflection where
  Object := Template.Object
  member v name := (v.toObject.member name).map Value.ofObject
  item o key := (o.item key).map Value.ofObject
  plain o := .ok (o.plain place)
  quoted o := .ok (o.quoted place)
  quotedAscii o := .ok (o.quoted place).escapedAscii
  shown o spec := o.shown place widthLimit spec
  widthLimit := widthLimit

end AdmissionLedger.Template
