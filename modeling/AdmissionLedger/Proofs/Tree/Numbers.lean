import AdmissionLedger.Json.Writer
import AdmissionLedger.Proofs.Number.Double
import AdmissionLedger.Proofs.Tree.Everywhere

/-!
# The numbers of a tree

Two conditions are put on the doubles of a tree: that they are as rounding gives them,
which is so in every tree that was read, and that they are finite, without which a tree
has no canonical text.

## Main definitions

* `Tree.NormalNumbers` — all doubles of a tree are as rounding gives them.
* `Tree.AsRead` — what is true of every tree that was read.

## Main results

* `Tree.isFinite_array`, `Tree.isFinite_object` — finiteness asked of the parts.
-/

namespace AdmissionLedger.Tree

mutual

/-- All doubles of a tree are as rounding gives them. -/
def NormalNumbers : Tree → Prop
  | .float x => x.Normal
  | .array items => ItemsNormal items
  | .object entries => EntriesNormal entries
  | _ => True

/-- The condition on the items of a sequence. -/
def ItemsNormal : List Tree → Prop
  | [] => True
  | item :: rest => NormalNumbers item ∧ ItemsNormal rest

/-- The condition on the values of a map. -/
def EntriesNormal : List (Text × Tree) → Prop
  | [] => True
  | (_, value) :: rest => NormalNumbers value ∧ EntriesNormal rest

end

@[simp] theorem normalNumbers_float {x : Double} : NormalNumbers (.float x) ↔ x.Normal := by
  rw [NormalNumbers]

@[simp] theorem normalNumbers_array {items : List Tree} :
    NormalNumbers (.array items) ↔ ∀ t ∈ items, NormalNumbers t := by
  rw [NormalNumbers]
  induction items with
  | nil => simp [ItemsNormal]
  | cons item rest ih => simp [ItemsNormal, ih]

@[simp] theorem normalNumbers_object {entries : List (Text × Tree)} :
    NormalNumbers (.object entries) ↔ ∀ e ∈ entries, NormalNumbers e.2 := by
  rw [NormalNumbers]
  induction entries with
  | nil => simp [EntriesNormal]
  | cons e rest ih =>
    obtain ⟨key, value⟩ := e
    simp [EntriesNormal, ih]

/-- What is true of every tree that was read: no map has a key twice, and all doubles are as
rounding gives them. -/
structure AsRead (t : Tree) : Prop where
  distinct : t.Distinct
  normal : t.NormalNumbers

theorem AsRead.of_mem {entries : List (Text × Tree)} (h : AsRead (.object entries)) :
    ∀ e ∈ entries, e.2.AsRead :=
  fun e he => ⟨(distinct_object.mp h.distinct).2 e he, normalNumbers_object.mp h.normal e he⟩

theorem isFinite_array {items : List Tree} :
    isFinite (.array items) = true ↔ ∀ t ∈ items, isFinite t = true := by
  rw [isFinite]
  induction items with
  | nil => simp [itemsFinite]
  | cons item rest ih => simp [itemsFinite, ih]

theorem isFinite_object {entries : List (Text × Tree)} :
    isFinite (.object entries) = true ↔ ∀ e ∈ entries, isFinite e.2 = true := by
  rw [isFinite]
  induction entries with
  | nil => simp [entriesFinite]
  | cons e rest ih =>
    obtain ⟨key, value⟩ := e
    simp [entriesFinite, ih]

end AdmissionLedger.Tree
