/-!
# Supplies

A supply gives one value after another and never runs out: its last value is given
again and again.

## Main definitions

* `Supply`, `Supply.next` — the values, and the supply after one was taken.
-/

namespace AdmissionLedger

/-- Values given one after the other. -/
structure Supply (α : Type) where
  /-- The value that is given next. -/
  now : α
  /-- The values after it; the last one is repeated. -/
  later : List α := []

/-- The supply after its value was taken. -/
def Supply.next {α : Type} (s : Supply α) : Supply α :=
  match s.later with
  | [] => s
  | value :: later => ⟨value, later⟩

/-- The supply of a list, with a value to give if the list is empty. -/
def Supply.ofList {α : Type} (default : α) : List α → Supply α
  | [] => ⟨default, []⟩
  | value :: later => ⟨value, later⟩

end AdmissionLedger
