import AdmissionLedger.Proofs.Json.Sorted
import AdmissionLedger.Proofs.Lookup
import AdmissionLedger.Proofs.Tree.Location

/-!
# Trees up to the order of keys

Two trees are the same up to the order of keys if they are the same with sorted keys.
Where no key stands twice, maps are so exactly if their values are, key by key, and
sorting changes neither what is at a location nor whether two trees are equal.

## Main definitions

* `Tree.Alike` — the same up to the order of keys, or both missing.

## Main results

* `Tree.sortKeys_object_eq_iff` — when two maps are the same up to the order of keys.
* `Tree.at?_sortKeys` — what sorting makes of the value at a location.
* `Tree.deepEqual_sortKeys` — equality does not depend on the order of keys.
-/

namespace AdmissionLedger.Tree

theorem nodup_keysOf_sortKeysEntries {entries : List (Text × Tree)} (h : (keysOf entries).Nodup) :
    (keysOf (sortKeysEntries entries)).Nodup :=
  (perm_keysOf_sortKeysEntries entries).nodup_iff.mpr h

theorem kind_sortKeys (t : Tree) : t.sortKeys.kind = t.kind := by
  cases t <;> rfl

theorem kind_eq_of_sortKeys_eq {t t' : Tree} (h : t.sortKeys = t'.sortKeys) : t.kind = t'.kind := by
  rw [← kind_sortKeys, h, kind_sortKeys]

theorem eq_null_iff_of_sortKeys_eq {t t' : Tree} (h : t.sortKeys = t'.sortKeys) :
    t = .null ↔ t' = .null := by
  rw [← kind_eq_absent_iff, ← kind_eq_absent_iff, kind_eq_of_sortKeys_eq h]

/-! ### Values of sorted maps -/

/-- Under each key of a sorted map is the sorted value. -/
theorem lookup_sortKeysEntries {entries : List (Text × Tree)} (h : (keysOf entries).Nodup)
    (key : Text) : (sortKeysEntries entries).lookup key = (entries.lookup key).map sortKeys := by
  cases hlookup : entries.lookup key with
  | none =>
    refine lookup_eq_none_of_not_mem fun hmem => ?_
    rw [(perm_keysOf_sortKeysEntries entries).mem_iff, ← lookup_isSome_iff, hlookup] at hmem
    cases hmem
  | some value =>
    have hmem : (key, value.sortKeys) ∈ sortKeysEntries entries := by
      rw [sortKeysEntries_eq_insertionSort, List.mem_insertionSort]
      exact List.mem_map_of_mem (f := sortEntry) (mem_of_lookup hlookup)
    exact lookup_of_mem (nodup_keysOf_sortKeysEntries h) hmem

/-- Maps with values under the same keys have their keys in one order when they are sorted. -/
theorem keysOf_sortKeysEntries_eq_of_isSome {left right : List (Text × Tree)}
    (hleft : (keysOf left).Nodup) (hright : (keysOf right).Nodup)
    (h : ∀ key, (left.lookup key).isSome = (right.lookup key).isSome) :
    keysOf (sortKeysEntries left) = keysOf (sortKeysEntries right) :=
  keysOf_sortKeysEntries_eq hleft hright fun key => by
    rw [← lookup_isSome_iff, h, lookup_isSome_iff]

/-- Maps without equal keys are the same up to the order of keys exactly if their values are, key by
key. -/
theorem sortKeys_object_eq_iff {left right : List (Text × Tree)} (hleft : (keysOf left).Nodup)
    (hright : (keysOf right).Nodup) : sortKeys (.object left) = sortKeys (.object right) ↔
      ∀ key, (left.lookup key).map sortKeys = (right.lookup key).map sortKeys := by
  rw [sortKeys, sortKeys, Tree.object.injEq]
  constructor
  · intro h key
    rw [← lookup_sortKeysEntries hleft, h, lookup_sortKeysEntries hright]
  · intro h
    -- the entries stand in one order, and the value under each key is the same
    refine eq_of_lookup_eq (keysOf_sortKeysEntries_eq_of_isSome hleft hright fun key => ?_)
      (nodup_keysOf_sortKeysEntries hleft) fun key => ?_
    · simpa using congrArg Option.isSome (h key)
    · rw [lookup_sortKeysEntries hleft, h, lookup_sortKeysEntries hright]

/-- Two nodes, either of which may be missing, are the same up to the order of keys. -/
def Alike (left right : Option Tree) : Prop := left.map sortKeys = right.map sortKeys

theorem Alike.refl (node : Option Tree) : Alike node node := Eq.refl _

theorem Alike.trans {left middle right : Option Tree} (h : Alike left middle)
    (h' : Alike middle right) : Alike left right :=
  Eq.trans h h'

theorem Alike.symm {left right : Option Tree} (h : Alike left right) : Alike right left :=
  Eq.symm h

theorem Alike.exists_some {t : Tree} {node : Option Tree} (h : Alike (some t) node) :
    ∃ t', node = some t' ∧ t'.sortKeys = t.sortKeys :=
  Option.map_eq_some_iff.mp (Eq.symm h)

theorem Alike.eq_none {node : Option Tree} (h : Alike none node) : node = none :=
  Option.map_eq_none_iff.mp (Eq.symm h)

theorem Alike.eq_null {node : Option Tree} (h : Alike (some .null) node) : node = some .null := by
  obtain ⟨t, rfl, ht⟩ := h.exists_some
  rw [(eq_null_iff_of_sortKeys_eq ht).mpr rfl]

theorem Alike.isSome_eq {left right : Option Tree} (h : Alike left right) :
    left.isSome = right.isSome := by
  rw [← Option.isSome_map (f := sortKeys), h, Option.isSome_map]

/-- What is the same as a map up to the order of keys is a map. -/
theorem Alike.exists_object {entries : List (Text × Tree)} {node : Option Tree}
    (h : Alike (some (.object entries)) node) : ∃ entries', node = some (.object entries') := by
  obtain ⟨t, rfl, ht⟩ := h.exists_some
  cases t with
  | object entries' => exact ⟨entries', rfl⟩
  | _ => cases ht

theorem alike_object_iff {left right : List (Text × Tree)} (hleft : (object left).Distinct)
    (hright : (object right).Distinct) : Alike (some (.object left)) (some (.object right)) ↔
      ∀ key, Alike (left.lookup key) (right.lookup key) := by
  rw [Alike, Option.map_some, Option.map_some, Option.some.injEq,
    sortKeys_object_eq_iff (distinct_object.mp hleft).1 (distinct_object.mp hright).1]
  rfl

/-- What sorting makes of the value at a location. -/
theorem at?_sortKeys {t : Tree} (h : t.Distinct) (keys : List Text) :
    t.sortKeys.at? keys = (t.at? keys).map sortKeys := by
  induction keys generalizing t with
  | nil => rfl
  | cons key keys ih =>
    cases t with
    | object entries =>
      rw [sortKeys, at?_object_cons, at?_object_cons,
        lookup_sortKeysEntries (distinct_object.mp h).1]
      cases hlookup : entries.lookup key with
      | none => rfl
      | some value => exact ih (distinct_of_lookup h hlookup)
    | _ => rfl

/-- Trees that are the same up to the order of keys are so at every location. -/
theorem alike_at? {t t' : Tree} (h : t.Distinct) (h' : t'.Distinct) (heq : t.sortKeys = t'.sortKeys)
    (keys : List Text) : Alike (t.at? keys) (t'.at? keys) := by
  rw [Alike, ← at?_sortKeys h, heq, at?_sortKeys h']

/-- Trees share the same locations whatever the order of their keys. -/
theorem shares_sortKeys {old new : Tree} (hold : old.Distinct) (hnew : new.Distinct)
    (location : List Text) :
    Shares old.sortKeys new.sortKeys location ↔ Shares old new location := by
  have hkind : kind ∘ sortKeys = kind := funext kind_sortKeys
  simp only [Shares, at?_sortKeys hold, at?_sortKeys hnew, Option.map_map, hkind]

/-! ### Equality -/

/-- Equality does not depend on the order of keys. -/
theorem deepEqual_sortKeys {a b : Tree} (ha : a.Distinct) (hb : b.Distinct) :
    deepEqual a.sortKeys b.sortKeys = deepEqual a b := by
  induction a using nested_induction generalizing b with
  | array left ih =>
    cases b with
    | array right =>
      rw [distinct_array] at ha hb
      rw [sortKeys_array, sortKeys_array, Bool.eq_iff_iff, deepEqual_array_iff,
        deepEqual_array_iff, List.forall₂_map_left_iff, List.forall₂_map_right_iff,
        List.forall₂_iff_zip, List.forall₂_iff_zip]
      refine and_congr_right fun _ => forall_congr' fun a => forall_congr' fun b => ?_
      refine imp_congr_right fun hmem => ?_
      obtain ⟨hleft, hright⟩ := List.of_mem_zip hmem
      rw [ih a hleft (ha a hleft) (hb b hright)]
    | _ => rfl
  | object left ih =>
    cases b with
    | object right =>
      obtain ⟨hkeys, hvalues⟩ := distinct_object.mp ha
      obtain ⟨hkeys', hvalues'⟩ := distinct_object.mp hb
      rw [sortKeys, sortKeys, Bool.eq_iff_iff, deepEqual_object_iff_lookup hkeys,
        deepEqual_object_iff_lookup (nodup_keysOf_sortKeysEntries hkeys)]
      simp only [lookup_sortKeysEntries hkeys, lookup_sortKeysEntries hkeys',
        (perm_keysOf_sortKeysEntries left).mem_iff, (perm_keysOf_sortKeysEntries right).mem_iff]
      refine and_congr_right fun _ => forall_congr' fun key => ?_
      cases hleft : left.lookup key with
      | none => simp
      | some value =>
        cases hright : right.lookup key with
        | none => simp
        | some value' =>
          have hmem := mem_of_lookup hleft
          simp [ih _ hmem (hvalues _ hmem) (hvalues' _ (mem_of_lookup hright))]
    | _ => rfl
  | _ => cases b <;> rfl

/-- Trees that are the same up to the order of keys equal the same trees. -/
theorem deepEqual_eq_of_sortKeys_eq {a a' b b' : Tree} (ha : a.Distinct) (ha' : a'.Distinct)
    (hb : b.Distinct) (hb' : b'.Distinct) (haa' : a.sortKeys = a'.sortKeys)
    (hbb' : b.sortKeys = b'.sortKeys) : deepEqual a b = deepEqual a' b' := by
  rw [← deepEqual_sortKeys ha hb, haa', hbb', deepEqual_sortKeys ha' hb']

end AdmissionLedger.Tree
