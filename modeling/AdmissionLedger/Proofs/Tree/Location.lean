import AdmissionLedger.Proofs.Tree.Everywhere

/-!
# Locations in trees

A location is a list of keys, one for every map on the way.  Two trees share a location
if both have a map wherever the way to it leads through.  What is at the location may
still be missing in either of them.

## Main definitions

* `Tree.at?` — the value at the end of several keys.
* `Tree.Shares` — both trees have maps all the way to a location.
* `Location.Apart` — neither of two locations is the other or leads to it.

## Main results

* `Tree.shares_cons_iff` — when two maps share a location.
* `Location.apart_cons_iff` — when two locations below keys are apart.
-/

namespace AdmissionLedger

namespace Tree

/-- The value of a tree at the end of several keys. -/
def at? (t : Tree) : List Text → Option Tree
  | [] => some t
  | key :: keys => (t.get? key).bind fun value => value.at? keys

@[simp] theorem at?_nil (t : Tree) : t.at? [] = some t := rfl

theorem at?_object_cons (entries : List (Text × Tree)) (key : Text) (keys : List Text) :
    (object entries).at? (key :: keys) = (entries.lookup key).bind fun value => value.at? keys :=
  rfl

theorem kind_eq_absent_iff {t : Tree} : t.kind = .absent ↔ t = .null := by
  cases t <;> simp [kind]

theorem kind_eq_map_iff {t : Tree} : t.kind = .map ↔ ∃ entries, t = .object entries := by
  cases t <;> simp [kind]

theorem distinct_of_lookup {entries : List (Text × Tree)} (h : (object entries).Distinct)
    {key : Text} {value : Tree} (hlookup : entries.lookup key = some value) : value.Distinct :=
  (distinct_object.mp h).2 _ (mem_of_lookup hlookup)

/-- No key stands twice in a tree that is part of one without. -/
theorem distinct_of_at? {t t' : Tree} (h : t.Distinct) {keys : List Text}
    (hat : t.at? keys = some t') : t'.Distinct := by
  induction keys generalizing t with
  | nil =>
    cases hat
    exact h
  | cons key keys ih =>
    cases t with
    | object entries =>
      obtain ⟨value, hlookup, hat⟩ := Option.bind_eq_some_iff.mp hat
      exact ih (distinct_of_lookup h hlookup) hat
    | _ => cases hat

/-! ### Shared locations -/

/-- Two trees share a location if all its proper ancestors are maps in both. -/
def Shares (old new : Tree) (location : List Text) : Prop :=
  ∀ above, above <+: location → above ≠ location →
    (old.at? above).map kind = some .map ∧ (new.at? above).map kind = some .map

/-- The root is shared by any two trees. -/
theorem shares_nil (old new : Tree) : Shares old new [] :=
  fun _ hprefix hne => absurd (List.prefix_nil.mp hprefix) hne

/-- Trees that share any other location are both maps. -/
theorem Shares.maps {old new : Tree} {key : Text} {keys : List Text}
    (h : Shares old new (key :: keys)) :
    ∃ entries entries', old = .object entries ∧ new = .object entries' := by
  obtain ⟨hold, hnew⟩ := h [] List.nil_prefix (List.cons_ne_nil key keys).symm
  rw [at?_nil, Option.map_some, Option.some.injEq, kind_eq_map_iff] at hold hnew
  obtain ⟨entries, rfl⟩ := hold
  obtain ⟨entries', rfl⟩ := hnew
  exact ⟨entries, entries', rfl, rfl⟩

/-- Two maps share what is directly below them, and what their values under one key share. -/
theorem shares_cons_iff {old new : List (Text × Tree)} {key : Text} {keys : List Text} :
    Shares (.object old) (.object new) (key :: keys) ↔ keys = [] ∨
      ∃ before after, old.lookup key = some before ∧ new.lookup key = some after ∧
        Shares before after keys := by
  constructor
  · intro h
    by_cases hkeys : keys = []
    · exact .inl hkeys
    · -- the values under the key are maps themselves, so that they are there
      have hbelow : ∀ above, above <+: keys → above ≠ keys →
          ((old.lookup key).bind (·.at? above)).map kind = some .map ∧
            ((new.lookup key).bind (·.at? above)).map kind = some .map :=
        fun above hprefix hne => h (key :: above) (List.cons_prefix_cons.mpr ⟨rfl, hprefix⟩)
          fun heq => hne (List.cons.inj heq).2
      obtain ⟨hold, hnew⟩ := hbelow [] List.nil_prefix (Ne.symm hkeys)
      obtain ⟨_, hthere, -⟩ := Option.map_eq_some_iff.mp hold
      obtain ⟨before, hbefore, -⟩ := Option.bind_eq_some_iff.mp hthere
      obtain ⟨_, hthere', -⟩ := Option.map_eq_some_iff.mp hnew
      obtain ⟨after, hafter, -⟩ := Option.bind_eq_some_iff.mp hthere'
      rw [hbefore, hafter] at hbelow
      exact .inr ⟨before, after, hbefore, hafter, hbelow⟩
  · intro h above hprefix hne
    rcases List.prefix_cons_iff.mp hprefix with rfl | ⟨above, rfl, hbelow⟩
    · exact ⟨rfl, rfl⟩
    · have hne' : above ≠ keys := fun heq => hne (congrArg (key :: ·) heq)
      rcases h with rfl | ⟨before, after, hbefore, hafter, hshares⟩
      · exact absurd (List.prefix_nil.mp hbelow) hne'
      · rw [at?_object_cons, at?_object_cons, hbefore, hafter]
        exact hshares above hbelow hne'

theorem shares_cons_of_some {old new : List (Text × Tree)} {key : Text} {keys : List Text}
    {before after : Tree} (hbefore : old.lookup key = some before)
    (hafter : new.lookup key = some after) :
    Shares (.object old) (.object new) (key :: keys) ↔ Shares before after keys := by
  rw [shares_cons_iff, hbefore, hafter]
  constructor
  · rintro (rfl | ⟨_, _, ⟨⟩, ⟨⟩, h⟩)
    · exact shares_nil before after
    · exact h
  · exact fun h => .inr ⟨before, after, rfl, rfl, h⟩

/-- Below a key that one of two maps lacks they share nothing more. -/
theorem shares_cons_of_none {old new : List (Text × Tree)} {key : Text} {keys : List Text}
    (h : old.lookup key = none ∨ new.lookup key = none) :
    Shares (.object old) (.object new) (key :: keys) ↔ keys = [] := by
  rw [shares_cons_iff]
  refine ⟨?_, .inl⟩
  rintro (hkeys | ⟨before, after, hbefore, hafter, -⟩)
  · exact hkeys
  · rw [hbefore, hafter] at h
    rcases h with h | h <;> cases h

end Tree

/-! ### Locations that are apart -/

namespace Location

/-- Two locations are apart if neither is the other or an ancestor of it. -/
def Apart (left right : List Text) : Prop := ¬ left <+: right ∧ ¬ right <+: left

theorem Apart.symm {left right : List Text} (h : Apart left right) : Apart right left :=
  ⟨h.2, h.1⟩

/-- Nothing is apart from the root. -/
theorem not_apart_nil (location : List Text) : ¬ Apart [] location :=
  fun h => h.1 List.nil_prefix

theorem Apart.ne {left right : List Text} (h : Apart left right) : left ≠ right :=
  fun heq => h.1 (heq ▸ List.prefix_rfl)

/-- Locations below keys are apart if the keys differ, or from there on. -/
theorem apart_cons_iff {key key' : Text} {keys keys' : List Text} :
    Apart (key :: keys) (key' :: keys') ↔ key ≠ key' ∨ Apart keys keys' := by
  rw [Apart, Apart, List.cons_prefix_cons, List.cons_prefix_cons]
  by_cases h : key = key'
  · simp [h]
  · simp [h, Ne.symm h]

end Location

end AdmissionLedger
