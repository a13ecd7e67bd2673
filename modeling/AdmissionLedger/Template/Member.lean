/-!
# Kinds and members

Every value that a template reaches is of a kind, and a kind declares members that can
be looked up in its values by name.

## Main definitions

* `Kind` — the kinds of values.
* `Member`, `Role` — a member, and what it is when it is looked up.
* `Facts` — what is known of a kind as a whole.
-/

namespace AdmissionLedger.Template

/-- The kinds of values. -/
inductive Kind
  /-- What every value is. -/
  | root
  /-- Kinds are values too. -/
  | kind
  | text
  | sequence
  | number
  /-- The kind of what stands for no value. -/
  | nothing
  /-- Operations that are bound to a value. -/
  | callable
  /-- Operations that are not bound. -/
  | operation
  /-- Operations that belong to the nature of a kind, not bound. -/
  | slot
  /-- The same, bound to a value. -/
  | boundSlot
  | computed
  | stored
  | shared
  /-- Members by name. -/
  | table
  /-- Kinds with an argument. -/
  | applied
  /-- Operations without a value, as their kind holds them. -/
  | static
  /-- Truth values, which are numbers, too. -/
  | truth
  /-- Tables that can be changed. -/
  | dictionary
  deriving DecidableEq, Repr

/-- What a member is. -/
inductive Role
  /-- Makes values of a kind. -/
  | maker
  /-- Is bound to the value in which it is looked up. -/
  | operation
  /-- Is bound likewise, and belongs to the nature of the kind. -/
  | slot
  /-- Gives a value that is computed. -/
  | computed
  /-- Gives a value that is stored. -/
  | stored
  /-- Is bound to the kind of the value. -/
  | shared
  /-- Is bound to the kind that declares it. -/
  | static
  /-- Gives the description of the kind. -/
  | documentation
  /-- Gives no value, and hides the member of the root. -/
  | absent
  deriving DecidableEq, Repr

/-- A member of a kind. -/
structure Member where
  name : String
  role : Role
  /-- How it is called. -/
  signature : Option String
  /-- Its description, line by line. -/
  description : List String
  deriving DecidableEq, Repr

/-- What is known of a kind as a whole. -/
structure Facts where
  name : String
  signature : Option String
  description : List String
  /-- The size of its values in memory, and of each of their items. -/
  size : Nat
  itemSize : Nat
  flags : Nat
  dictionaryOffset : Nat
  referenceOffset : Nat

end AdmissionLedger.Template
