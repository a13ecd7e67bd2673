import AdmissionLedger.Proofs.Tree.Digest
import AdmissionLedger.Proofs.Tree.Payload
import AdmissionLedger.Proofs.Tree.Preparation
import AdmissionLedger.Proofs.Tree.Reordering

/-!
# Preparation and the order of keys

Whether an entry is noise is asked of its pointer, and whether its value is hashed, of its
key.  What is hashed for a value other than a text is written with sorted keys.  So trees
that are the same up to the order of keys are prepared alike: both of them or neither, and
to trees that are again the same up to the order of keys.

## Main definitions

* `Tree.ReturnsAlike` — what the first computation returns, the second does up to the order of keys.

## Main results

* `Tree.sortKeys_withoutNoise` — noise exclusion does not depend on the order of keys.
* `Tree.digest_eq_of_sortKeys_eq` — nor do digests.
* `Tree.returnsAlike_redact`, `Tree.returnsAlike_prepare` — nor do redaction and preparation.
-/

namespace AdmissionLedger.Tree

/-! ### Noise -/

theorem lookup_entriesWithoutNoise (path : Text) (entries : List (Text × Tree)) (key : Text) :
    (entriesWithoutNoise path entries).lookup key =
      if isNoise (Pointer.child path key) then none
      else (entries.lookup key).map (withoutNoise (Pointer.child path key)) := by
  induction entries with
  | nil => simp [entriesWithoutNoise]
  | cons e rest ih =>
    obtain ⟨other, value⟩ := e
    rw [entriesWithoutNoise, List.lookup_cons]
    by_cases hkey : key = other
    · subst hkey
      rw [beq_self_eq_true]
      split
      · next hnoise => rw [ih, if_pos hnoise]
      · rw [List.lookup_cons_self]
        rfl
    · rw [beq_false_of_ne hkey]
      split
      · exact ih
      · rw [List.lookup_cons, beq_false_of_ne hkey]
        exact ih

/-- Noise exclusion does not depend on the order of keys. -/
theorem sortKeys_withoutNoise {t : Tree} (h : t.Distinct) (path : Text) :
    (t.sortKeys.withoutNoise path).sortKeys = (t.withoutNoise path).sortKeys := by
  induction t using nested_induction generalizing path with
  | array items ih =>
    rw [distinct_array] at h
    rw [sortKeys_array, withoutNoise, withoutNoise, sortKeys_array, sortKeys_array]
    congr 1
    generalize 0 = index
    induction items generalizing index with
    | nil => rfl
    | cons item rest ihrest =>
      rw [List.forall_mem_cons] at ih h
      rw [List.map_cons, itemsWithoutNoise, itemsWithoutNoise]
      split
      · exact ihrest ih.2 h.2 _
      · rw [List.map_cons, List.map_cons, ih.1 h.1, ihrest ih.2 h.2]
  | object entries ih =>
    obtain ⟨hkeys, hvalues⟩ := distinct_object.mp h
    have hsorted := nodup_keysOf_sortKeysEntries hkeys
    rw [sortKeys, withoutNoise, withoutNoise, sortKeys_object_eq_iff
      (hsorted.sublist (keysOf_entriesWithoutNoise path _))
      (hkeys.sublist (keysOf_entriesWithoutNoise path _))]
    intro key
    rw [lookup_entriesWithoutNoise, lookup_entriesWithoutNoise, lookup_sortKeysEntries hkeys]
    split
    · rfl
    · cases hlookup : entries.lookup key with
      | none => rfl
      | some value =>
        have hmem := mem_of_lookup hlookup
        exact congrArg some (ih _ hmem (hvalues _ hmem) _)
  | _ => rfl

/-! ### Digests -/

theorem isText_sortKeys (t : Tree) : t.sortKeys.isText = t.isText := by
  cases t <;> rfl

theorem hashText_eq_of_sortKeys_eq {t t' : Tree} (h : t.sortKeys = t'.sortKeys) :
    t.hashText = t'.hashText := by
  have hfinite : t.isFinite = t'.isFinite := by rw [← isFinite_sortKeys, h, isFinite_sortKeys]
  have hsame : t.isText = t'.isText := by rw [← isText_sortKeys, h, isText_sortKeys]
  cases htext : t.isText with
  | true =>
    obtain ⟨s, rfl⟩ := exists_str_of_isText htext
    obtain ⟨s', rfl⟩ := exists_str_of_isText (hsame.symm.trans htext)
    exact Tree.str.inj h
  | false =>
    rw [hashText_of_not_isText htext, hashText_of_not_isText (hsame.symm.trans htext), hfinite,
      canonicalText, canonicalText, h]

/-- Digests do not depend on the order of keys. -/
theorem digest_eq_of_sortKeys_eq {t t' : Tree} (h : t.sortKeys = t'.sortKeys) :
    t.digest = t'.digest := by
  rw [digest, digest, Payload.digest, Payload.digest, hashInput_eq_encodeUtf8,
    hashInput_eq_encodeUtf8, hashText_eq_of_sortKeys_eq h]

/-! ### Values of entries -/

/-- If the first computation returns a tree, the second returns the same up to the order of keys. -/
def ReturnsAlike (x x' : Except EncodeError Tree) : Prop :=
  ∀ t, x = .ok t → ∃ t', x' = .ok t' ∧ t.sortKeys = t'.sortKeys

theorem ReturnsAlike.refl (x : Except EncodeError Tree) : ReturnsAlike x x :=
  fun t h => ⟨t, h, rfl⟩

theorem returnsAlike_ok {t t' : Tree} (h : t.sortKeys = t'.sortKeys) :
    ReturnsAlike (.ok t) (.ok t') := by
  rintro _ ⟨⟩
  exact ⟨t', rfl, h⟩

section

variable {f : Text → Tree → Except EncodeError Tree} {entries entries' : List (Text × Tree)}

theorem lookup_mapValues_of_none {changed : List (Text × Tree)}
    (h : mapValues f entries = .ok changed) {key : Text} (hlookup : entries.lookup key = none) :
    changed.lookup key = none := by
  refine lookup_eq_none_of_not_mem ?_
  rw [keysOf_mapValues h, ← lookup_isSome_iff, hlookup]
  exact Bool.false_ne_true

theorem lookup_mapValues_of_some {changed : List (Text × Tree)} (hkeys : (keysOf entries).Nodup)
    (h : mapValues f entries = .ok changed) {key : Text} {value : Tree}
    (hlookup : entries.lookup key = some value) :
    ∃ t, f key value = .ok t ∧ changed.lookup key = some t := by
  obtain ⟨t, hmem, ht⟩ := exists_mem_of_mapValues h (mem_of_lookup hlookup)
  rw [← keysOf_mapValues h] at hkeys
  exact ⟨t, ht, lookup_of_mem hkeys hmem⟩

/-- Maps that are the same up to the order of keys are still so with their values changed by a step
that does not depend on that order. -/
theorem returnsAlike_mapValues (hkeys : (keysOf entries).Nodup) (hkeys' : (keysOf entries').Nodup)
    (heq : sortKeys (.object entries) = sortKeys (.object entries'))
    (hf : ∀ key value value', entries.lookup key = some value → entries'.lookup key = some value' →
      value.sortKeys = value'.sortKeys → ReturnsAlike (f key value) (f key value')) :
    ReturnsAlike ((mapValues f entries).map .object) ((mapValues f entries').map .object) := by
  intro _ hresult
  obtain ⟨changed, h, rfl⟩ := Except.map_eq_ok_iff.mp hresult
  have halike : ∀ key, Alike (entries.lookup key) (entries'.lookup key) :=
    (sortKeys_object_eq_iff hkeys hkeys').mp heq
  have hsome : ∀ e ∈ entries', ∃ t, f e.1 e.2 = .ok t := by
    intro e he
    have hvalue' := lookup_of_mem hkeys' he
    obtain ⟨value, hvalue, hsame⟩ := (hvalue' ▸ halike e.1).symm.exists_some
    obtain ⟨t, ht, -⟩ := lookup_mapValues_of_some hkeys h hvalue
    obtain ⟨t', ht', -⟩ := hf e.1 value e.2 hvalue hvalue' hsame t ht
    exact ⟨t', ht'⟩
  obtain ⟨changed', h'⟩ := exists_mapValues_iff.mpr hsome
  refine ⟨.object changed', Except.map_eq_ok_iff.mpr ⟨changed', h', rfl⟩, ?_⟩
  refine (sortKeys_object_eq_iff ?_ ?_).mpr fun key => ?_
  · rwa [keysOf_mapValues h]
  · rwa [keysOf_mapValues h']
  · -- the values under one key are missing, or were both changed
    cases hvalue : entries.lookup key with
    | none =>
      have hvalue' := (hvalue ▸ halike key).eq_none
      rw [lookup_mapValues_of_none h hvalue, lookup_mapValues_of_none h' hvalue']
    | some value =>
      obtain ⟨value', hvalue', hsame⟩ := (hvalue ▸ halike key).exists_some
      obtain ⟨t, ht, hlookup⟩ := lookup_mapValues_of_some hkeys h hvalue
      obtain ⟨t', ht', hlookup'⟩ := lookup_mapValues_of_some hkeys' h' hvalue'
      obtain ⟨_, hreturned, hsorted⟩ := hf key value value' hvalue hvalue' hsame.symm t ht
      obtain rfl := Except.ok.inj (ht'.symm.trans hreturned)
      rw [hlookup, hlookup', Option.map_some, Option.map_some, hsorted]

end

/-! ### Redaction -/

theorem hashPayload_of_coarse {t : Tree} (h : t.kind.coarse = .scalar) :
    hashPayload t = (digest t).map .str := by
  cases t <;> first | rfl | cases h

theorem returnsAlike_hashPayload {t t' : Tree} (ht : t.Distinct) (ht' : t'.Distinct)
    (heq : t.sortKeys = t'.sortKeys) : ReturnsAlike (hashPayload t) (hashPayload t') := by
  have hkind : t.kind.coarse = t'.kind.coarse := by rw [kind_eq_of_sortKeys_eq heq]
  cases hcoarse : t.kind.coarse with
  | absent =>
    obtain rfl := eq_null_of_coarse hcoarse
    obtain rfl := eq_null_of_coarse (hkind.symm.trans hcoarse)
    exact .refl _
  | map =>
    obtain ⟨entries, rfl⟩ := exists_object_of_coarse hcoarse
    obtain ⟨entries', rfl⟩ := exists_object_of_coarse (hkind.symm.trans hcoarse)
    rw [hashPayload, hashPayload, hashValues_eq_mapValues, hashValues_eq_mapValues]
    refine returnsAlike_mapValues (distinct_object.mp ht).1 (distinct_object.mp ht').1 heq ?_
    intro key value value' _ _ hsame
    rw [digest_eq_of_sortKeys_eq hsame]
    exact .refl _
  | scalar =>
    -- the value is hashed whole
    rw [hashPayload_of_coarse hcoarse, hashPayload_of_coarse (hkind.symm.trans hcoarse),
      digest_eq_of_sortKeys_eq heq]
    exact .refl _
  | sequence => cases t <;> cases hcoarse

theorem redact_of_kind_ne {t : Tree} (h : t.kind ≠ .map) : redact t = .ok t := by
  cases t with
  | object entries => exact absurd rfl h
  | _ => rfl

/-- Redaction does not depend on the order of keys. -/
theorem returnsAlike_redact {t t' : Tree} (ht : t.Distinct) (ht' : t'.Distinct)
    (heq : t.sortKeys = t'.sortKeys) : ReturnsAlike (redact t) (redact t') := by
  have hkind := kind_eq_of_sortKeys_eq heq
  induction t using nested_induction generalizing t' with
  | object entries ih =>
    obtain ⟨entries', rfl⟩ := kind_eq_map_iff.mp hkind.symm
    rw [redact, redact, redactEntries_eq_mapValues, redactEntries_eq_mapValues]
    refine returnsAlike_mapValues (distinct_object.mp ht).1 (distinct_object.mp ht').1 heq ?_
    intro key value value' hlookup hlookup' hsame
    have hvalue := distinct_of_lookup ht hlookup
    have hvalue' := distinct_of_lookup ht' hlookup'
    unfold redactUnder
    split
    · exact returnsAlike_hashPayload hvalue hvalue' hsame
    · exact ih _ (mem_of_lookup hlookup) hvalue hvalue' hsame (kind_eq_of_sortKeys_eq hsame)
  | _ =>
    have hnot : t'.kind ≠ .map := by
      rw [← hkind]
      intro h
      cases h
    rw [redact_of_kind_ne hnot]
    exact returnsAlike_ok heq

/-- Trees that are the same up to the order of keys are prepared to trees that are. -/
theorem returnsAlike_prepare (kind : Text) {t t' : Tree} (ht : t.Distinct) (ht' : t'.Distinct)
    (heq : t.sortKeys = t'.sortKeys) : ReturnsAlike (prepare kind t) (prepare kind t') := by
  have hnoise : (t.withoutNoise []).sortKeys = (t'.withoutNoise []).sortKeys := by
    rw [← sortKeys_withoutNoise ht, heq, sortKeys_withoutNoise ht']
  unfold prepare
  split
  · exact returnsAlike_redact (distinct_withoutNoise ht []) (distinct_withoutNoise ht' []) hnoise
  · exact returnsAlike_ok hnoise

end AdmissionLedger.Tree
