import AdmissionLedger.Patch.Edit
import AdmissionLedger.Proofs.Tree.Numbers
import AdmissionLedger.Proofs.Tree.Redaction

/-!
# Trees after preparation

Noise exclusion takes entries away and redaction changes values; neither adds a key to a
map.  So a prepared tree has no key twice if the tree had none.

## Main results

* `Tree.distinct_withoutNoise`, `Tree.distinct_redact` — the two steps keep keys apart.
* `Tree.distinct_prepare` — so does preparation.
* `Tree.AsRead.withoutNoise` — noise exclusion leaves what is true of every tree that was read.
-/

namespace AdmissionLedger.Tree

/-! ### Noise -/

/-- The items that are left were items before, at some path. -/
theorem mem_itemsWithoutNoise {path : Text} {index : Nat} {items : List Tree} {t : Tree}
    (ht : t ∈ itemsWithoutNoise path index items) :
    ∃ item ∈ items, ∃ here, t = withoutNoise here item := by
  induction items generalizing index with
  | nil =>
    rw [itemsWithoutNoise] at ht
    cases ht
  | cons item rest ih =>
    rw [itemsWithoutNoise] at ht
    split at ht
    · obtain ⟨item', hitem', hhere⟩ := ih ht
      exact ⟨item', List.mem_cons_of_mem _ hitem', hhere⟩
    · rcases List.mem_cons.mp ht with rfl | ht
      · exact ⟨item, List.mem_cons_self, _, rfl⟩
      · obtain ⟨item', hitem', hhere⟩ := ih ht
        exact ⟨item', List.mem_cons_of_mem _ hitem', hhere⟩

/-- The entries that are left were entries before, with the value at some path. -/
theorem mem_entriesWithoutNoise {path : Text} {entries : List (Text × Tree)} {e : Text × Tree}
    (he : e ∈ entriesWithoutNoise path entries) :
    ∃ entry ∈ entries, ∃ here, e = (entry.1, withoutNoise here entry.2) := by
  induction entries with
  | nil =>
    rw [entriesWithoutNoise] at he
    cases he
  | cons entry rest ih =>
    obtain ⟨key, value⟩ := entry
    rw [entriesWithoutNoise] at he
    split at he
    · obtain ⟨entry, hentry, hhere⟩ := ih he
      exact ⟨entry, List.mem_cons_of_mem _ hentry, hhere⟩
    · rcases List.mem_cons.mp he with rfl | he
      · exact ⟨(key, value), List.mem_cons_self, _, rfl⟩
      · obtain ⟨entry, hentry, hhere⟩ := ih he
        exact ⟨entry, List.mem_cons_of_mem _ hentry, hhere⟩

/-- The keys that are left stand in their order. -/
theorem keysOf_entriesWithoutNoise (path : Text) (entries : List (Text × Tree)) :
    (keysOf (entriesWithoutNoise path entries)).Sublist (keysOf entries) := by
  induction entries with
  | nil => simp [entriesWithoutNoise]
  | cons entry rest ih =>
    obtain ⟨key, value⟩ := entry
    rw [entriesWithoutNoise]
    split
    · exact ih.cons _
    · exact ih.cons_cons _

/-- Noise exclusion keeps the keys of every map apart. -/
theorem distinct_withoutNoise {t : Tree} (h : t.Distinct) (path : Text) :
    (t.withoutNoise path).Distinct := by
  induction t using nested_induction generalizing path with
  | null => exact h
  | bool b => exact h
  | int n => exact h
  | float x => exact h
  | str text => exact h
  | array items ih =>
    rw [withoutNoise, distinct_array]
    rw [distinct_array] at h
    intro t ht
    obtain ⟨item, hitem, here, rfl⟩ := mem_itemsWithoutNoise ht
    exact ih item hitem (h item hitem) here
  | object entries ih =>
    rw [withoutNoise, distinct_object]
    rw [distinct_object] at h
    refine ⟨h.1.sublist (keysOf_entriesWithoutNoise path entries), ?_⟩
    intro e he
    obtain ⟨entry, hentry, here, rfl⟩ := mem_entriesWithoutNoise he
    exact ih entry hentry (h.2 entry hentry) here

/-- Noise exclusion changes no number. -/
theorem normalNumbers_withoutNoise {t : Tree} (h : t.NormalNumbers) (path : Text) :
    (t.withoutNoise path).NormalNumbers := by
  induction t using nested_induction generalizing path with
  | array items ih =>
    rw [withoutNoise, normalNumbers_array]
    rw [normalNumbers_array] at h
    intro t ht
    obtain ⟨item, hitem, here, rfl⟩ := mem_itemsWithoutNoise ht
    exact ih item hitem (h item hitem) here
  | object entries ih =>
    rw [withoutNoise, normalNumbers_object]
    rw [normalNumbers_object] at h
    intro e he
    obtain ⟨entry, hentry, here, rfl⟩ := mem_entriesWithoutNoise he
    exact ih entry hentry (h entry hentry) here
  | _ => exact h

theorem AsRead.withoutNoise {t : Tree} (h : t.AsRead) (path : Text) :
    (t.withoutNoise path).AsRead :=
  ⟨distinct_withoutNoise h.distinct path, normalNumbers_withoutNoise h.normal path⟩

/-! ### Redaction -/

/-- A map whose values were changed to trees without equal keys has none either. -/
theorem distinct_of_mapValues {f : Text → Tree → Except EncodeError Tree}
    {entries changed : List (Text × Tree)} (hkeys : (keysOf entries).Nodup)
    (hvalues : ∀ e ∈ entries, ∀ t, f e.1 e.2 = .ok t → t.Distinct)
    (h : mapValues f entries = .ok changed) : (object changed).Distinct := by
  rw [distinct_object, keysOf_mapValues h]
  refine ⟨hkeys, ?_⟩
  intro e' he'
  obtain ⟨value, hmem, hf⟩ := exists_of_mem_mapValues h he'
  exact hvalues (e'.1, value) hmem _ hf

/-- A digest is a text, and has no keys. -/
theorem distinct_of_digest {value t : Tree} (h : (digest value).map .str = .ok t) : t.Distinct := by
  obtain ⟨text, -, rfl⟩ := Except.map_eq_ok_iff.mp h
  exact everywhere_str.mpr trivial

theorem distinct_hashPayload {t t' : Tree} (ht : t.Distinct) (h : t.hashPayload = .ok t') :
    t'.Distinct := by
  unfold hashPayload at h
  split at h
  · cases h
    exact ht
  · obtain ⟨hashed, hhashed, rfl⟩ := Except.map_eq_ok_iff.mp h
    rw [hashValues_eq_mapValues] at hhashed
    exact distinct_of_mapValues (distinct_object.mp ht).1
      (fun _ _ _ => distinct_of_digest) hhashed
  · exact distinct_of_digest h

/-- Redaction keeps the keys of every map apart. -/
theorem distinct_redact {t t' : Tree} (ht : t.Distinct) (h : t.redact = .ok t') :
    t'.Distinct := by
  induction t using nested_induction generalizing t' with
  | object entries ih =>
    rw [redact, redactEntries_eq_mapValues] at h
    obtain ⟨redacted, hredacted, rfl⟩ := Except.map_eq_ok_iff.mp h
    obtain ⟨hkeys, hvalues⟩ := distinct_object.mp ht
    refine distinct_of_mapValues hkeys ?_ hredacted
    intro e he t hunder
    unfold redactUnder at hunder
    split at hunder
    · exact distinct_hashPayload (hvalues e he) hunder
    · exact ih e he (hvalues e he) hunder
  | null => cases h; exact ht
  | bool b => cases h; exact ht
  | int n => cases h; exact ht
  | float x => cases h; exact ht
  | str text => cases h; exact ht
  | array items => cases h; exact ht

/-- A prepared tree has no key twice if the tree had none. -/
theorem distinct_prepare {kind : Text} {t t' : Tree} (ht : t.Distinct)
    (h : prepare kind t = .ok t') : t'.Distinct := by
  unfold prepare at h
  split at h
  · exact distinct_redact (distinct_withoutNoise ht []) h
  · cases h
    exact distinct_withoutNoise ht []

end AdmissionLedger.Tree
