import AdmissionLedger.Number.Double
import AdmissionLedger.Text.CodePoint

/-!
# Object trees

A submitted object is a tree of maps, sequences and scalars, as its document
gives it: integers of any size beside doubles, texts with any code points, and
maps that keep the order of their keys.  `null` stands for a missing value.

## Main definitions

* `Tree`, `Tree.Kind`, `Tree.kind` — the trees and how the algorithms classify them.
* `Tree.get?` — the value under a key of a map.
* `Tree.put` — setting a key of a map.
-/

namespace AdmissionLedger

/-- A decoded document. -/
inductive Tree
  | null
  | bool (value : Bool)
  | int (value : Int)
  | float (value : Double)
  | str (value : Text)
  | array (items : List Tree)
  /-- The entries of a map in order.  A map from a document has no key twice. -/
  | object (entries : List (Text × Tree))
  deriving Inhabited, Repr

namespace Tree

instance : Coe Text Tree := ⟨Tree.str⟩

/-- How the algorithms on trees classify a node. -/
inductive Kind
  /-- No value: `null`. -/
  | absent
  | map
  | sequence
  | scalar
  deriving DecidableEq, Repr

/-- The class of a node. -/
def kind : Tree → Kind
  | .null => .absent
  | .object _ => .map
  | .array _ => .sequence
  | _ => .scalar

/-- The name of a class. -/
def Kind.name : Kind → Text
  | .absent => "absent"
  | .map => "map"
  | .sequence => "sequence"
  | .scalar => "scalar"

/-- The name of the type of a node in messages. -/
def typeName : Tree → Text
  | .null => "NoneType"
  | .bool _ => "bool"
  | .int _ => "int"
  | .float _ => "float"
  | .str _ => "str"
  | .array _ => "list"
  | .object _ => "dict"

/-- Whether a node is `null`. -/
def isNull : Tree → Bool
  | .null => true
  | _ => false

/-- A missing value is `null`. -/
def ofOption : Option Tree → Tree
  | some t => t
  | none => .null

/-- The value under a key, if the node is a map that has it. -/
def get? (key : Text) : Tree → Option Tree
  | .object entries => entries.lookup key
  | _ => none

/-- Entries with a key set to a value: in its place if the key is there, else at the end. -/
def put (key : Text) (value : Tree) : List (Text × Tree) → List (Text × Tree)
  | [] => [(key, value)]
  | (k, v) :: rest => if k = key then (key, value) :: rest else (k, v) :: put key value rest

/-- A map of keys known in advance. -/
def record (entries : List (String × Tree)) : Tree :=
  .object (entries.map fun (key, value) => (Text.ofString key, value))

/-- A sequence of texts. -/
def texts (items : List Text) : Tree :=
  .array (items.map .str)

/-- A natural number. -/
def nat (n : Nat) : Tree := .int n

end Tree

end AdmissionLedger
