import AdmissionLedger.Tree.Basic

/-!
# Checking the shape of documents

A decoded document is checked field by field.  All fields are checked even after
one is found bad, so that a refused document comes with the number of its faults.

## Main definitions

* `Check` — a value, or the number of faults found instead.
* `Check.all` — a list checked item by item.
* `Tree.asText`, `Tree.asTexts` — the shapes that occur most.
* `Tree.fieldUnder` — a field of a map that may have several names.
-/

namespace AdmissionLedger

/-- The result of checking a part of a document. -/
inductive Check (α : Type)
  | ok (value : α)
  /-- The part is refused; so many faults were found. -/
  | bad (faults : Nat)
  deriving Repr

namespace Check

variable {α β : Type}

/-- The image of a value; faults stay. -/
def map (f : α → β) : Check α → Check β
  | ok a => ok (f a)
  | bad n => bad n

/-- Two checks side by side: the faults add up. -/
def both : Check (α → β) → Check α → Check β
  | ok f, ok a => ok (f a)
  | ok _, bad n => bad n
  | bad n, ok _ => bad n
  | bad m, bad n => bad (m + n)

instance : Applicative Check where
  pure := ok
  map := map
  seq f x := both f (x ())

/-- A check that depends on the value of another. -/
def andThen (x : Check α) (f : α → Check β) : Check β :=
  match x with
  | ok a => f a
  | bad n => bad n

/-- The value, if there is no fault. -/
def toOption : Check α → Option α
  | ok a => some a
  | bad _ => none

/-- A list checked item by item. -/
def all (check : α → Check β) : List α → Check (List β)
  | [] => ok []
  | a :: rest => both ((check a).map List.cons) (all check rest)

end Check

namespace Tree

/-- A text. -/
def asText : Tree → Check Text
  | .str t => .ok t
  | _ => .bad 1

/-- A sequence whose items pass a check. -/
def asList {α : Type} (check : Tree → Check α) : Tree → Check (List α)
  | .array items => .all check items
  | _ => .bad 1

/-- A sequence of texts. -/
def asTexts : Tree → Check (List Text) :=
  asList asText

/-- A map, with its entries as they are written. -/
def asEntries : Tree → Check (List (Text × Tree))
  | .object entries => .ok entries
  | _ => .bad 1

/-- Entries with each key once: the place of its first entry, the value of its last. -/
def merged (entries : List (Text × Tree)) : List (Text × Tree) :=
  entries.foldl (fun done (key, value) => put key value done) []

/-- The value of a key; of several, the last. -/
def lastOf? (key : String) (entries : List (Text × Tree)) : Option Tree :=
  entries.reverse.lookup (Text.ofString key)

/-- The field under the first of some names that a map has; a default if it has none. -/
def fieldUnder {α : Type} (names : List String) (default : Check α) (check : Tree → Check α)
    (entries : List (Text × Tree)) : Check α :=
  match names.findSome? fun name => lastOf? name entries with
  | some value => check value
  | none => default

end Tree

end AdmissionLedger
