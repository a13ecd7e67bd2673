import AdmissionLedger.Proofs.Patch.Rebuild
import AdmissionLedger.Proofs.Tree.Equality

/-!
# Equal trees need no edits

No edits are made exactly between equal trees.  So values that are found equal under a
common key may be passed over, as they are: to descend into them would give no edits
either.

## Main definitions

* `Tree.unprunedEdits` — the edits between two trees, found by going down under every common
  key.

## Main results

* `Tree.edits_eq_nil_iff` — no edits are made exactly between equal trees.
* `Tree.unprunedEdits_eq` — equal values can be passed over.
* `Patch.between_nil_iff_and_eq_unpruned` — what both mean for the patch between two trees.
-/

namespace AdmissionLedger

namespace Tree

/-! ### No edits -/

theorem nodeEdit_eq_nil_iff (location : List Text) (old new : Tree) :
    nodeEdit location old new = [] ↔ deepEqual old new = true := by
  have hkinds : old.kind ≠ new.kind → ¬ deepEqual old new = true := mt kind_eq_of_deepEqual
  unfold nodeEdit
  split
  · next hold hnew =>
    rw [kind_eq_absent_iff.mp hold, kind_eq_absent_iff.mp hnew]
    exact iff_of_true rfl rfl
  · next hold hnew =>
    exact iff_of_false (List.cons_ne_nil _ _) (hkinds fun h => hnew (h.symm.trans hold))
  · next hnew hold =>
    exact iff_of_false (List.cons_ne_nil _ _) (hkinds fun h => hold (h.trans hnew))
  · split
    · next hne => exact iff_of_false (List.cons_ne_nil _ _) (hkinds hne)
    · split <;> simp_all

theorem changesUnder_eq_nil_iff {location : List Text} {before : Tree} {after? : Option Tree}
    (ih : ∀ after, after? = some after →
      (edits location before after = [] ↔ deepEqual before after = true)) :
    changesUnder location before after? = [] ↔
      ∃ after, after? = some after ∧ deepEqual before after = true := by
  cases after? with
  | none => simp [changesUnder]
  | some after =>
    rw [changesUnder]
    split
    · next h => simp [h]
    · simp [ih after rfl]

theorem additions_eq_nil_iff {location : List Text} {old new : List (Text × Tree)} :
    additions location old new = [] ↔ ∀ e ∈ new, (old.lookup e.1).isSome = true := by
  rw [additions, List.map_eq_nil_iff, List.filter_eq_nil_iff]
  simp

/-- No edits are made exactly between equal trees. -/
theorem edits_eq_nil_iff (location : List Text) (old new : Tree) :
    edits location old new = [] ↔ deepEqual old new = true := by
  refine edits.induct
    (fun location old new => edits location old new = [] ↔ deepEqual old new = true)
    (fun location old new => entryEdits location old new = [] ↔
      ∀ e ∈ old, ∃ after, new.lookup e.1 = some after ∧ deepEqual e.2 after = true)
    ?maps ?nodes ?nil ?cons location old new
  case maps =>
    intro location old new ih
    rw [edits, List.append_eq_nil_iff, ih, additions_eq_nil_iff, deepEqual_object_iff]
  case nodes =>
    intro location old new hnot
    rw [edits.eq_2 location old new hnot]
    exact nodeEdit_eq_nil_iff location old new
  case nil =>
    intro location new
    simp [entryEdits]
  case cons =>
    intro location key before old new here ihvalue ihrest
    rw [entryEdits_cons, List.append_eq_nil_iff, ihrest, List.forall_mem_cons,
      changesUnder_eq_nil_iff fun after _ => ihvalue after]

/-! ### Nothing to pass over -/

mutual

/-- The edits that turn the old tree into the new one, found by going down under every common key,
whether or not the values there are equal. -/
def unprunedEdits (location : List Text) : (old new : Tree) → List (Edit (List Text))
  | .object old, .object new =>
    unprunedEntryEdits location old new ++ additions location old new
  | old, new => nodeEdit location old new

/-- The removals and changes for the entries of an old map. -/
def unprunedEntryEdits (location : List Text) :
    (old new : List (Text × Tree)) → List (Edit (List Text))
  | [], _ => []
  | (key, before) :: old, new =>
    let here := location ++ [key]
    (match new.lookup key with
      | none => [.remove here]
      | some after => unprunedEdits here before after) ++
      unprunedEntryEdits location old new

end

/-- The changes under a key that both maps have are the edits between its values. -/
theorem changesUnder_some (location : List Text) (before after : Tree) :
    changesUnder location before (some after) = edits location before after := by
  rw [changesUnder]
  split
  · next hequal => exact ((edits_eq_nil_iff location before after).mpr hequal).symm
  · rfl

/-- Equal values can be passed over: to go down under them gives the same edits in the same
order. -/
theorem unprunedEdits_eq (location : List Text) (old new : Tree) :
    unprunedEdits location old new = edits location old new := by
  refine edits.induct
    (fun location old new => unprunedEdits location old new = edits location old new)
    (fun location old new => unprunedEntryEdits location old new = entryEdits location old new)
    ?maps ?nodes ?nil ?cons location old new
  case maps =>
    intro location old new ih
    rw [unprunedEdits, edits, ih]
  case nodes =>
    intro location old new hnot
    rw [unprunedEdits.eq_2 location old new hnot, edits.eq_2 location old new hnot]
  case nil =>
    intro location new
    rw [unprunedEntryEdits, entryEdits]
  case cons =>
    intro location key before old new here ihvalue ihrest
    rw [unprunedEntryEdits, entryEdits_cons, ihrest]
    congr 1
    cases new.lookup key with
    | none => rfl
    | some after =>
      rw [changesUnder_some]
      exact ihvalue after

end Tree

namespace Patch

open AdmissionLedger.Tree

variable {kind : Text} {old new old' new' : Tree}

/-- The patch between two trees holds the edits between the prepared ones. -/
theorem between_eq (h : prepare kind old = .ok old') (h' : prepare kind new = .ok new') :
    between kind old new = .ok ((edits [] old' new').map (Edit.relocate Pointer.ofKeys)) := by
  rw [between, h, h']
  rfl

theorem between_eq_nil_iff (h : prepare kind old = .ok old') (h' : prepare kind new = .ok new') :
    between kind old new = .ok [] ↔ deepEqual old' new' = true := by
  rw [between_eq h h', Except.ok.injEq, List.map_eq_nil_iff, edits_eq_nil_iff]

/-- The patch between two trees that can be prepared is empty exactly if the prepared trees are
equal, and it would be the same, in the same order, if no equal values were passed over. -/
theorem between_nil_iff_and_eq_unpruned (h : prepare kind old = .ok old')
    (h' : prepare kind new = .ok new') :
    (between kind old new = .ok [] ↔ deepEqual old' new' = true) ∧
      between kind old new =
        .ok ((unprunedEdits [] old' new').map (Edit.relocate Pointer.ofKeys)) := by
  refine ⟨between_eq_nil_iff h h', ?_⟩
  rw [between_eq h h', unprunedEdits_eq]

/-- Under `n` the number one is written as an integer and as a double, under `t` it goes over into a
truth value, and under `x` stands not-a-number, which does not even equal itself. -/
theorem between_nil_iff_and_eq_unpruned_numbers :
    let old := record [("a", .object []), ("n", .int 1), ("t", .int 1), ("x", .float .nan)]
    let new := record [("x", .float .nan), ("t", .bool true),
      ("n", .float (.finite false 4503599627370496 (-52))), ("a", .object [])]
    between "Pod" old new ≠ .ok [] ∧
      between "Pod" old new =
        .ok ((unprunedEdits [] old new).map (Edit.relocate Pointer.ofKeys)) ∧
      (unprunedEdits [] old new).map (fun e => Pointer.ofKeys e.location) = ["/t", "/x"] := by
  intro old new
  have hold : prepare "Pod" old = .ok old := rfl
  have hnew : prepare "Pod" new = .ok new := rfl
  obtain ⟨hnil, hunpruned⟩ := between_nil_iff_and_eq_unpruned hold hnew
  refine ⟨?_, hunpruned, by decide⟩
  rw [Ne, hnil]
  decide

end Patch

end AdmissionLedger
