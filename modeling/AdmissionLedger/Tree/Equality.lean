import AdmissionLedger.Tree.Basic

/-!
# Equality of trees

Two trees are equal if they are built alike from equal scalars, whatever the order
of their keys.  Numbers are compared by exact value, so an integer may equal a
double; a boolean equals no number, and not-a-number not even itself.

## Main definitions

* `Tree.scalarEqual`, `Tree.deepEqual`
-/

namespace AdmissionLedger.Tree

/-- Equality of two scalars by value. -/
def scalarEqual : Tree → Tree → Bool
  | .bool a, .bool b => a == b
  | .int a, .int b => a == b
  | .int a, .float y => y.sameValueInt a
  | .float x, .int b => x.sameValueInt b
  | .float x, .float y => x.sameValue y
  | .str a, .str b => a == b
  | _, _ => false

/-- Whether two maps have the same keys. -/
def sameKeys (left right : List (Text × Tree)) : Bool :=
  left.all (fun e => (right.lookup e.1).isSome) && right.all (fun e => (left.lookup e.1).isSome)

mutual

/-- Structural equality, independent of the order of keys. -/
def deepEqual : Tree → Tree → Bool
  | .null, .null => true
  | .object left, .object right => sameKeys left right && entriesEqual left right
  | .array left, .array right => itemsEqual left right
  | .bool a, right => scalarEqual (.bool a) right
  | .int a, right => scalarEqual (.int a) right
  | .float a, right => scalarEqual (.float a) right
  | .str a, right => scalarEqual (.str a) right
  | _, _ => false

/-- Whether two sequences are as long and equal item by item. -/
def itemsEqual : List Tree → List Tree → Bool
  | [], [] => true
  | a :: left, b :: right => deepEqual a b && itemsEqual left right
  | _, _ => false

/-- Whether every value of one map equals the value that the other has under its key. -/
def entriesEqual : List (Text × Tree) → List (Text × Tree) → Bool
  | [], _ => true
  | (key, a) :: left, right =>
    (match right.lookup key with
      | some b => deepEqual a b
      | none => false) && entriesEqual left right

end

end AdmissionLedger.Tree
