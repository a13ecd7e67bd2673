import AdmissionLedger.Proofs.Patch.Pruning

/-!
# What the edits are, location by location

Whether there is an edit at a location, and which, is a matter of what the two trees have
there, wherever they share the location.  The order of keys has no say in it, and no edit
is at or below the location of another.

## Main definitions

* `Edit.CalledFor` — when an edit is due, by what is there in the old tree and in the new one.

## Main results

* `Tree.mem_edits_iff` — the edits between two trees are those that are called for.
* `Tree.pairwise_apart_edits` — any two of them are apart.
-/

namespace AdmissionLedger

namespace Edit

theorem relocate_injective {ρ σ : Type} {f : ρ → σ} (hf : Function.Injective f) :
    Function.Injective (relocate f) := by
  intro e e' h
  cases e <;> cases e' <;> simp_all [relocate, hf.eq_iff]

/-- An edit is called for by what is at its location in the old tree and in the new one: a removal
where something is lost, an addition of what was missing, a replacement where one value took the
place of another. -/
def CalledFor {ρ : Type} (old? new? : Option Tree) : Edit ρ → Prop
  | .remove _ =>
    old?.isSome = true ∧ new? = none ∨ (∃ before, old? = some before ∧ before ≠ .null) ∧
      new? = some .null
  | .add _ value => new? = some value ∧ (old? = none ∨ old? = some .null ∧ value ≠ .null)
  | .replace _ value =>
    new? = some value ∧ value ≠ .null ∧ ∃ before, old? = some before ∧ before ≠ .null ∧
      (before.kind ≠ value.kind ∨
        (value.kind = .sequence ∨ value.kind = .scalar) ∧ Tree.deepEqual before value = false)

theorem calledFor_relocate {ρ σ : Type} (f : ρ → σ) (e : Edit ρ) (old? new? : Option Tree) :
    (e.relocate f).CalledFor old? new? ↔ e.CalledFor old? new? := by
  cases e <;> rfl

theorem location_under (key : Text) (e : Edit (List Text)) :
    (e.under key).location = key :: e.location :=
  location_relocate _ e

theorem calledFor_under (key : Text) (e : Edit (List Text)) (old? new? : Option Tree) :
    (e.under key).CalledFor old? new? ↔ e.CalledFor old? new? :=
  calledFor_relocate _ e old? new?

/-- Where neither tree has anything, nothing is called for. -/
theorem not_calledFor_none {ρ : Type} (e : Edit ρ) : ¬ e.CalledFor none none := by
  cases e <;> simp [CalledFor]

/-- Where two maps are, nothing is called for. -/
theorem not_calledFor_maps {ρ : Type} (e : Edit ρ) (old new : List (Text × Tree)) :
    ¬ e.CalledFor (some (.object old)) (some (.object new)) := by
  cases e with
  | add location value => simp [CalledFor]
  | remove location => simp [CalledFor]
  | replace location value =>
    rintro ⟨⟨⟩, -, before, ⟨⟩, -, h⟩
    simp [Tree.kind] at h

theorem calledFor_added_iff {e : Edit (List Text)} {after : Tree} :
    e.location = [] ∧ e.CalledFor none (some after) ↔ e = .add [] after := by
  cases e <;> simp [CalledFor, location]
  exact fun _ => eq_comm

theorem calledFor_removed_iff {e : Edit (List Text)} {before : Tree} :
    e.location = [] ∧ e.CalledFor (some before) none ↔ e = .remove [] := by
  cases e <;> simp [CalledFor, location]

end Edit

namespace Tree

open Edit Location

/-! ### Induction over what two trees have in common -/

/-- Two trees are related if any two nodes are that are not both maps, and any two maps whose values
under each common key are. -/
theorem common_induction {motive : Tree → Tree → Prop}
    (maps : ∀ old new : List (Text × Tree), (∀ key before after, old.lookup key = some before →
      new.lookup key = some after → motive before after) → motive (.object old) (.object new))
    (nodes : ∀ old new : Tree, ¬ (old.kind = .map ∧ new.kind = .map) → motive old new)
    (old new : Tree) : motive old new := by
  induction old using nested_induction generalizing new with
  | object old ih =>
    cases new with
    | object new =>
      exact maps old new fun key before after hbefore _ => ih _ (mem_of_lookup hbefore) after
    | _ => exact nodes _ _ fun h => nomatch h.2
  | _ => exact nodes _ _ fun h => nomatch h.1

/-! ### The edits at and below a key -/

/-- The edits between what two trees have at a location, where either may have nothing. -/
def valueEdits : (old? new? : Option Tree) → List (Edit (List Text))
  | some before, after? => changesUnder [] before after?
  | none, some after => [.add [] after]
  | none, none => []

theorem entryEdits_eq_flatMap (old new : List (Text × Tree)) :
    entryEdits [] old new = old.flatMap fun entry =>
      (valueEdits (some entry.2) (new.lookup entry.1)).map (under entry.1) := by
  induction old with
  | nil => rw [entryEdits, List.flatMap_nil]
  | cons entry old ih =>
    obtain ⟨key, before⟩ := entry
    rw [entryEdits_cons, ih, List.flatMap_cons, changesUnder_eq_map (edits_eq_map before)]
    rfl

/-- The keys of two maps: those of the old one, then those that only the new one has. -/
def jointKeys (old new : List (Text × Tree)) : List Text :=
  keysOf old ++ keysOf (new.filter fun e => (old.lookup e.1).isNone)

theorem mem_keysOf_filter_isNone_iff {old new : List (Text × Tree)} {key : Text} :
    key ∈ keysOf (new.filter fun e => (old.lookup e.1).isNone) ↔
      key ∈ keysOf new ∧ key ∉ keysOf old := by
  simp only [keysOf, List.mem_map, List.mem_filter, Option.isNone_iff_eq_none]
  constructor
  · rintro ⟨e, ⟨he, hnone⟩, rfl⟩
    refine ⟨⟨e, he, rfl⟩, fun hold => ?_⟩
    rw [← Option.not_isSome_iff_eq_none] at hnone
    exact hnone (lookup_isSome_iff.mpr (List.mem_map.mpr hold))
  · rintro ⟨⟨e, he, rfl⟩, hold⟩
    exact ⟨e, ⟨he, lookup_eq_none_of_not_mem fun h => hold (List.mem_map.mp h)⟩, rfl⟩

theorem nodup_jointKeys {old new : List (Text × Tree)} (hold : (keysOf old).Nodup)
    (hnew : (keysOf new).Nodup) : (jointKeys old new).Nodup := by
  refine List.nodup_append'.mpr ⟨hold, hnew.sublist (List.filter_sublist.map _), ?_⟩
  intro key hkey hadded
  exact (mem_keysOf_filter_isNone_iff.mp hadded).2 hkey

/-- The edits between two maps without equal keys are those between their values, key by key. -/
theorem edits_object_eq {old new : List (Text × Tree)} (hold : (keysOf old).Nodup)
    (hnew : (keysOf new).Nodup) : edits [] (.object old) (.object new) =
      (jointKeys old new).flatMap fun key =>
        (valueEdits (old.lookup key) (new.lookup key)).map (under key) := by
  rw [edits, jointKeys, List.flatMap_append, keysOf, keysOf, List.flatMap_map, List.flatMap_map,
    entryEdits_eq_flatMap]
  congr 1
  · refine List.flatMap_congr fun entry hentry => ?_
    rw [lookup_of_mem hold hentry]
  · rw [additions, List.map_eq_flatMap]
    refine List.flatMap_congr fun entry hentry => ?_
    obtain ⟨hentry, hnone⟩ := List.mem_filter.mp hentry
    rw [Option.isNone_iff_eq_none.mp hnone, lookup_of_mem hnew hentry]
    rfl

theorem mem_edits_object_iff {e : Edit (List Text)} {old new : List (Text × Tree)}
    (hold : (keysOf old).Nodup) (hnew : (keysOf new).Nodup) :
    e ∈ edits [] (.object old) (.object new) ↔
      ∃ key, ∃ e' ∈ valueEdits (old.lookup key) (new.lookup key), e'.under key = e := by
  rw [edits_object_eq hold hnew, List.mem_flatMap]
  simp only [List.mem_map]
  refine exists_congr fun key => ⟨And.right, fun h => ⟨?_, h⟩⟩
  obtain ⟨e', he', -⟩ := h
  rw [jointKeys, List.mem_append, mem_keysOf_filter_isNone_iff]
  by_contra hkey
  -- a key that neither map has brings no edits
  have hnot : key ∉ keysOf old ∧ key ∉ keysOf new := by tauto
  rw [lookup_eq_none_of_not_mem hnot.1, lookup_eq_none_of_not_mem hnot.2] at he'
  cases he'

/-- The edits between two trees that are not both maps are those between two nodes. -/
theorem edits_nodes {old new : Tree} (hmaps : ¬ (old.kind = .map ∧ new.kind = .map)) :
    edits [] old new = nodeEdit [] old new := by
  refine edits.eq_2 [] old new fun left right hold hnew => ?_
  exact hmaps ⟨kind_eq_map_iff.mpr ⟨left, hold⟩, kind_eq_map_iff.mpr ⟨right, hnew⟩⟩

/-! ### No edit at or below another -/

theorem pairwise_apart_nodeEdit (old new : Tree) :
    (nodeEdit [] old new).Pairwise fun e f => Apart e.location f.location := by
  unfold nodeEdit
  split
  · exact .nil
  · exact List.pairwise_singleton _ _
  · exact List.pairwise_singleton _ _
  · split
    · exact List.pairwise_singleton _ _
    · split
      · exact .nil
      · exact List.pairwise_singleton _ _

/-- Between what two trees have under a key no edit is at or below the location of another, if this
is so of the values that both have. -/
theorem pairwise_apart_valueEdits {before? after? : Option Tree}
    (h : ∀ before after, before? = some before → after? = some after →
      (edits [] before after).Pairwise fun e f => Apart e.location f.location) :
    (valueEdits before? after?).Pairwise fun e f => Apart e.location f.location := by
  cases before? with
  | none =>
    cases after? with
    | none => exact .nil
    | some after => exact List.pairwise_singleton _ _
  | some before =>
    cases after? with
    | none => exact List.pairwise_singleton _ _
    | some after =>
      rw [valueEdits, changesUnder_some]
      exact h before after rfl rfl

/-- No edit between two trees without equal keys is at or below the location of another. -/
theorem pairwise_apart_edits {old new : Tree} (hold : old.Distinct) (hnew : new.Distinct) :
    (edits [] old new).Pairwise fun e f => Apart e.location f.location := by
  induction old, new using common_induction with
  | maps old new ih =>
    have hkeys := (distinct_object.mp hold).1
    have hkeys' := (distinct_object.mp hnew).1
    rw [edits_object_eq hkeys hkeys', List.pairwise_flatMap]
    constructor
    · intro key _
      have hvalues := pairwise_apart_valueEdits fun before after hbefore hafter =>
        ih key before after hbefore hafter (distinct_of_lookup hold hbefore)
          (distinct_of_lookup hnew hafter)
      rw [List.pairwise_map]
      refine hvalues.imp fun hapart => ?_
      rw [location_under, location_under]
      exact apart_cons_iff.mpr (.inr hapart)
    · -- edits below different keys are apart from the key on
      refine (nodup_jointKeys hkeys hkeys').imp fun hne e he f hf => ?_
      obtain ⟨e, -, rfl⟩ := List.mem_map.mp he
      obtain ⟨f, -, rfl⟩ := List.mem_map.mp hf
      rw [location_under, location_under]
      exact apart_cons_iff.mpr (.inl hne)
  | nodes old new hmaps =>
    rw [edits_nodes hmaps]
    exact pairwise_apart_nodeEdit old new

/-! ### Which edits are made -/

/-- The edit between two nodes that are not both maps is the one that they call for. -/
theorem mem_nodeEdit_iff {e : Edit (List Text)} {old new : Tree}
    (hmaps : ¬ (old.kind = .map ∧ new.kind = .map)) :
    e ∈ nodeEdit [] old new ↔ e.location = [] ∧ e.CalledFor (some old) (some new) := by
  have habsent (t : Tree) : t.kind = .absent ↔ t = .null := kind_eq_absent_iff
  unfold nodeEdit
  split
  · next hold hnew =>
    rw [habsent] at hold hnew
    cases e <;> grind [CalledFor, Edit.location]
  · next hold hnew =>
    rw [habsent] at hold hnew
    cases e <;> grind [CalledFor, Edit.location]
  · next hnew hold =>
    rw [habsent] at hold hnew
    cases e <;> grind [CalledFor, Edit.location]
  · next hold hnew =>
    rw [habsent] at hold hnew
    -- two values of one kind are no maps here, so they are sequences or scalars
    have hkinds : new.kind = .absent ∨ new.kind = .map ∨ new.kind = .sequence ∨
        new.kind = .scalar := by
      cases new <;> simp [kind]
    cases e <;> grind [CalledFor, Edit.location]

theorem mem_edits_nodes_iff {e : Edit (List Text)} {old new : Tree}
    (hmaps : ¬ (old.kind = .map ∧ new.kind = .map)) : e ∈ edits [] old new ↔
      Shares old new e.location ∧ e.CalledFor (old.at? e.location) (new.at? e.location) := by
  rw [edits_nodes hmaps, mem_nodeEdit_iff hmaps]
  cases e.location with
  | nil => simp [shares_nil]
  | cons key keys =>
    refine iff_of_false (fun h => nomatch h.1) fun h => ?_
    obtain ⟨left, right, rfl, rfl⟩ := h.1.maps
    exact hmaps ⟨rfl, rfl⟩

/-- Under a key of two maps those edits are made that are called for at the locations that the maps
share there, if this is so of the values that both have. -/
theorem mem_valueEdits_iff {e : Edit (List Text)} {old new : List (Text × Tree)} {key : Text}
    (ih : ∀ before after, old.lookup key = some before → new.lookup key = some after →
      (e ∈ edits [] before after ↔ Shares before after e.location ∧
        e.CalledFor (before.at? e.location) (after.at? e.location))) :
    e ∈ valueEdits (old.lookup key) (new.lookup key) ↔
      Shares (.object old) (.object new) (key :: e.location) ∧
        e.CalledFor ((object old).at? (key :: e.location))
          ((object new).at? (key :: e.location)) := by
  rw [at?_object_cons, at?_object_cons]
  cases hbefore : old.lookup key with
  | none =>
    rw [shares_cons_of_none (.inl hbefore)]
    cases hafter : new.lookup key with
    | none => exact iff_of_false List.not_mem_nil fun h => not_calledFor_none e h.2
    | some after =>
      rw [valueEdits, List.mem_singleton, ← calledFor_added_iff]
      exact and_congr_right fun hnil => by rw [hnil]; rfl
  | some before =>
    cases hafter : new.lookup key with
    | none =>
      rw [shares_cons_of_none (.inr hafter), valueEdits, changesUnder, List.mem_singleton,
        ← calledFor_removed_iff]
      exact and_congr_right fun hnil => by rw [hnil]; rfl
    | some after =>
      rw [shares_cons_of_some hbefore hafter, valueEdits, changesUnder_some,
        ih before after hbefore hafter]
      rfl

/-- The edits between two trees are those that are called for at the locations that the trees
share. -/
theorem mem_edits_iff {old new : Tree} (hold : old.Distinct) (hnew : new.Distinct)
    (e : Edit (List Text)) : e ∈ edits [] old new ↔ Shares old new e.location ∧
      e.CalledFor (old.at? e.location) (new.at? e.location) := by
  induction old, new using common_induction generalizing e with
  | maps old new ih =>
    have hvalues (key : Text) (e : Edit (List Text)) :=
      mem_valueEdits_iff (e := e) fun before after hbefore hafter =>
        ih key before after hbefore hafter (distinct_of_lookup hold hbefore)
          (distinct_of_lookup hnew hafter) e
    rw [mem_edits_object_iff (distinct_object.mp hold).1 (distinct_object.mp hnew).1]
    constructor
    · rintro ⟨key, e', he', rfl⟩
      rw [location_under, calledFor_under]
      exact (hvalues key e').mp he'
    · rintro ⟨hshares, hcalled⟩
      cases hlocation : e.location with
      | nil =>
        rw [hlocation] at hcalled
        exact absurd hcalled (not_calledFor_maps e old new)
      | cons key keys =>
        -- without its first key it is an edit between the values there
        refine ⟨key, e.relocate fun _ => keys, (hvalues key _).mpr ?_, ?_⟩
        · rw [location_relocate, calledFor_relocate, ← hlocation]
          exact ⟨hshares, hcalled⟩
        · rw [under, relocate_relocate]
          cases e <;> cases hlocation <;> rfl
  | nodes old new hmaps => exact mem_edits_nodes_iff hmaps

end Tree

end AdmissionLedger
