import AdmissionLedger.Proofs.Lookup
import AdmissionLedger.Proofs.Tree.Equality
import AdmissionLedger.Proofs.Tree.Redaction

/-!
# Payloads of two trees

Redaction puts a digest in the place of every value that it hashes.  So two redacted trees
are compared in two parts: what stands outside of these values is compared as before, and
where both trees have such a value at one place, the digests are compared in their stead.

## Main definitions

* `Tree.changePayloads` — a tree with a function applied to all values that redaction hashes.
* `Tree.payloadPairs` — the values that redaction hashes at the same place of two trees.
* `Tree.EqualOutside` — two trees are equal outside of the values that redaction hashes.

## Main results

* `Tree.eq_changePayloads_of_redact` — redaction changes payloads to their digests.
* `Tree.deepEqual_changePayloads_iff` — trees with changed payloads are equal exactly if they are
  equal outside and the changed payloads are equal pair by pair.
* `Tree.deepEqual_iff_equalOutside` — so are trees as they are.
-/

namespace AdmissionLedger.Tree

/-! ### Payloads of one tree -/

/-- The kind of a payload, of which redaction tells missing values and maps apart from all others,
which it hashes whole. -/
def Kind.coarse : Kind → Kind
  | .sequence => .scalar
  | kind => kind

theorem eq_null_of_coarse {t : Tree} (h : t.kind.coarse = .absent) : t = .null := by
  cases t <;> first | rfl | cases h

theorem exists_object_of_coarse {t : Tree} (h : t.kind.coarse = .map) :
    ∃ entries, t = .object entries := by
  cases t <;> first | exact ⟨_, rfl⟩ | cases h

theorem payloadParts_of_coarse {t : Tree} (h : t.kind.coarse = .scalar) : payloadParts t = [t] := by
  cases t <;> first | rfl | cases h

section

variable (f : Tree → Tree)

/-- The value of a sensitive key with `f` applied to what is hashed of it. -/
def changeParts : Tree → Tree
  | .null => .null
  | .object entries => .object (entries.map fun e => (e.1, f e.2))
  | t => f t

mutual

/-- A tree with `f` applied to all values that redaction hashes. -/
def changePayloads : Tree → Tree
  | .object entries => .object (changeEntries entries)
  | t => t

/-- Entries with `f` applied to all values that redaction hashes in them. -/
def changeEntries : List (Text × Tree) → List (Text × Tree)
  | [] => []
  | (key, value) :: rest =>
    (key, if sensitiveKeys.contains key then changeParts f value else changePayloads value) ::
      changeEntries rest

end

/-- A value with `f` applied to what redaction hashes of it under a key. -/
def changeUnder (key : Text) (value : Tree) : Tree :=
  if sensitiveKeys.contains key then changeParts f value else changePayloads f value

theorem changeEntries_eq_map (entries : List (Text × Tree)) :
    changeEntries f entries = entries.map fun e => (e.1, changeUnder f e.1 e.2) := by
  induction entries with
  | nil => rw [changeEntries, List.map_nil]
  | cons e rest ih =>
    obtain ⟨key, value⟩ := e
    rw [changeEntries, ih, List.map_cons, changeUnder]

theorem changeParts_of_coarse {t : Tree} (h : t.kind.coarse = .scalar) : changeParts f t = f t := by
  cases t <;> first | rfl | cases h

theorem changePayloads_of_kind_ne {t : Tree} (h : t.kind ≠ .map) : changePayloads f t = t := by
  cases t with
  | object entries => exact absurd rfl h
  | _ => rfl

theorem kind_changePayloads (t : Tree) : (changePayloads f t).kind = t.kind := by
  cases t with
  | object entries => rw [changePayloads]; rfl
  | _ => rfl

end

/-! ### Redaction as a change -/

/-- The digest of a value as a text, empty if there is none. -/
def digestText (p : Tree) : Tree := .str (p.digest.toOption.getD [])

theorem map_str_digest {p t : Tree} (h : (digest p).map .str = .ok t) : t = digestText p := by
  obtain ⟨d, hd, rfl⟩ := Except.map_eq_ok_iff.mp h
  rw [digestText, hd]
  rfl

/-- Digests as texts are equal exactly if the digests are. -/
theorem deepEqual_digestText_iff {p q : Tree} (hp : p.isHashable = true)
    (hq : q.isHashable = true) :
    deepEqual (digestText p) (digestText q) = true ↔ p.digest = q.digest := by
  obtain ⟨d, hd⟩ := (exists_digest_iff p).mpr hp
  obtain ⟨d', hd'⟩ := (exists_digest_iff q).mpr hq
  rw [digestText, digestText, hd, hd', Except.ok.injEq, deepEqual, scalarEqual, beq_iff_eq]
  rfl

theorem eq_map_of_mapValues {f : Text → Tree → Except EncodeError Tree} {g : Text → Tree → Tree}
    {entries changed : List (Text × Tree)} (h : mapValues f entries = .ok changed)
    (hg : ∀ e ∈ entries, ∀ t, f e.1 e.2 = .ok t → t = g e.1 e.2) :
    changed = entries.map fun e => (e.1, g e.1 e.2) := by
  induction entries generalizing changed with
  | nil =>
    cases h
    rfl
  | cons e rest ih =>
    obtain ⟨key, value⟩ := e
    obtain ⟨value', others, hvalue, hothers, rfl⟩ := mapValues_cons_eq_ok h
    obtain ⟨hhead, htail⟩ := List.forall_mem_cons.mp hg
    rw [ih hothers htail, hhead value' hvalue, List.map_cons]

theorem eq_changeParts_of_hashPayload {t t' : Tree} (h : hashPayload t = .ok t') :
    t' = changeParts digestText t := by
  cases t with
  | null =>
    cases h
    rfl
  | object entries =>
    rw [hashPayload, hashValues_eq_mapValues] at h
    obtain ⟨hashed, hhashed, rfl⟩ := Except.map_eq_ok_iff.mp h
    rw [eq_map_of_mapValues hhashed (g := fun _ => digestText) fun e _ t ht => map_str_digest ht]
    rfl
  | _ => exact map_str_digest h

/-- Redaction changes payloads to their digests. -/
theorem eq_changePayloads_of_redact {t t' : Tree} (h : redact t = .ok t') :
    t' = changePayloads digestText t := by
  induction t using nested_induction generalizing t' with
  | object entries ih =>
    rw [redact, redactEntries_eq_mapValues] at h
    obtain ⟨redacted, hredacted, rfl⟩ := Except.map_eq_ok_iff.mp h
    rw [changePayloads, changeEntries_eq_map]
    refine congrArg object (eq_map_of_mapValues hredacted ?_)
    intro e he t ht
    unfold redactUnder at ht
    unfold changeUnder
    split at ht
    · next hkey => rw [if_pos hkey, eq_changeParts_of_hashPayload ht]
    · next hkey => rw [if_neg hkey, ih e he ht]
  | _ =>
    cases h
    rfl

theorem changeParts_id (t : Tree) : changeParts id t = t := by
  cases t with
  | object entries => exact congrArg object (List.map_id entries)
  | _ => rfl

theorem changePayloads_id (t : Tree) : changePayloads id t = t := by
  induction t using nested_induction with
  | object entries ih =>
    have hunder : ∀ e ∈ entries, (e.1, changeUnder id e.1 e.2) = id e := by
      intro e he
      unfold changeUnder
      split
      · rw [changeParts_id, id]
      · rw [ih e he, id]
    rw [changePayloads, changeEntries_eq_map, List.map_congr_left hunder, List.map_id]
  | _ => rfl

/-! ### Payloads of two trees -/

/-- The values that are hashed at the same place for two values of a sensitive key. -/
def partPairs (before after : Tree) : List (Tree × Tree) :=
  match before, after with
  | .object old, .object new =>
    old.filterMap fun e => (new.lookup e.1).map fun value => (e.2, value)
  | before, after =>
    if before.kind.coarse = .scalar ∧ after.kind.coarse = .scalar then [(before, after)] else []

theorem partPairs_of_coarse {before after : Tree} (h : before.kind.coarse = .scalar)
    (h' : after.kind.coarse = .scalar) : partPairs before after = [(before, after)] := by
  unfold partPairs
  split
  · cases h
  · rw [if_pos ⟨h, h'⟩]

mutual

/-- The values that are hashed at the same place of two trees. -/
def payloadPairs : Tree → Tree → List (Tree × Tree)
  | .object old, .object new => entryPairs old new
  | _, _ => []

/-- The values that are hashed at the same place under some entries of a map and the same keys of
another. -/
def entryPairs : List (Text × Tree) → List (Text × Tree) → List (Tree × Tree)
  | [], _ => []
  | (key, before) :: old, new =>
    (match new.lookup key with
      | none => []
      | some after =>
        if sensitiveKeys.contains key then partPairs before after else payloadPairs before after) ++
      entryPairs old new

end

/-- The values that are hashed at the same place under one key. -/
def pairsUnder (key : Text) (before after : Tree) : List (Tree × Tree) :=
  if sensitiveKeys.contains key then partPairs before after else payloadPairs before after

theorem mem_partPairs_object_iff {old new : List (Text × Tree)} (hold : (keysOf old).Nodup)
    {pair : Tree × Tree} : pair ∈ partPairs (.object old) (.object new) ↔
      ∃ key, old.lookup key = some pair.1 ∧ new.lookup key = some pair.2 := by
  rw [partPairs, List.mem_filterMap]
  constructor
  · rintro ⟨e, he, hpair⟩
    obtain ⟨after, hafter, rfl⟩ := Option.map_eq_some_iff.mp hpair
    exact ⟨e.1, lookup_of_mem hold he, hafter⟩
  · rintro ⟨key, hp, hq⟩
    exact ⟨(key, pair.1), mem_of_lookup hp, by rw [hq]; rfl⟩

theorem mem_entryPairs_iff {old new : List (Text × Tree)} (hold : (keysOf old).Nodup)
    {pair : Tree × Tree} : pair ∈ entryPairs old new ↔
      ∃ key before after, old.lookup key = some before ∧ new.lookup key = some after ∧
        pair ∈ pairsUnder key before after := by
  have hmem : pair ∈ entryPairs old new ↔ ∃ e ∈ old, ∃ after, new.lookup e.1 = some after ∧
      pair ∈ pairsUnder e.1 e.2 after := by
    clear hold
    induction old with
    | nil => simp [entryPairs]
    | cons e old ih =>
      obtain ⟨key, before⟩ := e
      rw [entryPairs, List.mem_append, ih, List.exists_mem_cons_iff]
      cases new.lookup key <;> simp [pairsUnder]
  rw [hmem]
  constructor
  · rintro ⟨e, he, after, hafter, hpair⟩
    exact ⟨e.1, e.2, after, lookup_of_mem hold he, hafter, hpair⟩
  · rintro ⟨key, before, after, hbefore, hafter, hpair⟩
    exact ⟨(key, before), mem_of_lookup hbefore, after, hafter, hpair⟩

theorem mem_payloadParts_of_mem_partPairs {before after : Tree} {pair : Tree × Tree}
    (h : pair ∈ partPairs before after) :
    pair.1 ∈ payloadParts before ∧ pair.2 ∈ payloadParts after := by
  unfold partPairs at h
  split at h
  · obtain ⟨e, he, hpair⟩ := List.mem_filterMap.mp h
    obtain ⟨after, hafter, rfl⟩ := Option.map_eq_some_iff.mp hpair
    exact ⟨List.mem_map_of_mem he, List.mem_map_of_mem (mem_of_lookup hafter)⟩
  · split at h
    · next hwhole =>
      rw [List.mem_singleton.mp h, payloadParts_of_coarse hwhole.1, payloadParts_of_coarse hwhole.2]
      exact ⟨List.mem_singleton_self _, List.mem_singleton_self _⟩
    · cases h

/-- Each value of a pair is hashed in its own tree. -/
theorem mem_payloads_of_mem_payloadPairs {old new : Tree} (hold : old.Distinct)
    {pair : Tree × Tree} (h : pair ∈ payloadPairs old new) :
    pair.1 ∈ payloads old ∧ pair.2 ∈ payloads new := by
  induction old using nested_induction generalizing new with
  | object old ih =>
    cases new with
    | object new =>
      obtain ⟨hkeys, hvalues⟩ := distinct_object.mp hold
      obtain ⟨key, before, after, hbefore, hafter, hpair⟩ := (mem_entryPairs_iff hkeys).mp h
      have hmem := mem_of_lookup hbefore
      have hunder : pair.1 ∈ payloadsUnder key before ∧ pair.2 ∈ payloadsUnder key after := by
        unfold pairsUnder at hpair
        unfold payloadsUnder
        split at hpair
        · next hkey =>
          rw [if_pos hkey, if_pos hkey]
          exact mem_payloadParts_of_mem_partPairs hpair
        · next hkey =>
          rw [if_neg hkey, if_neg hkey]
          exact ih _ hmem (hvalues _ hmem) hpair
      rw [payloads, payloads, payloadsOfEntries_eq_flatMap, payloadsOfEntries_eq_flatMap]
      exact ⟨List.mem_flatMap.mpr ⟨_, hmem, hunder.1⟩,
        List.mem_flatMap.mpr ⟨_, mem_of_lookup hafter, hunder.2⟩⟩
    | _ => cases h
  | _ => cases h

theorem AsRead.of_mem_payloadParts {t p : Tree} (h : t.AsRead) (hp : p ∈ payloadParts t) :
    p.AsRead := by
  unfold payloadParts at hp
  split at hp
  · cases hp
  · obtain ⟨e, he, rfl⟩ := List.mem_map.mp hp
    exact h.of_mem e he
  · rwa [List.mem_singleton.mp hp]

theorem AsRead.of_mem_payloads {t p : Tree} (h : t.AsRead) (hp : p ∈ payloads t) : p.AsRead := by
  induction t using nested_induction with
  | object entries ih =>
    rw [payloads, payloadsOfEntries_eq_flatMap] at hp
    obtain ⟨e, he, hunder⟩ := List.mem_flatMap.mp hp
    unfold payloadsUnder at hunder
    split at hunder
    · exact (h.of_mem e he).of_mem_payloadParts hunder
    · exact ih e he (h.of_mem e he) hunder
  | _ => cases hp

/-! ### Equality outside of payloads -/

/-- One text in the place of all values. -/
def hide (_ : Tree) : Tree := .str []

/-- Two trees are equal outside of the values that redaction hashes. -/
def EqualOutside (old new : Tree) : Prop :=
  deepEqual (changePayloads hide old) (changePayloads hide new) = true

/-- A change that leaves a value that redaction hashes whole to be such a value. -/
def KeepsCoarse (f : Tree → Tree) : Prop :=
  ∀ t, t.kind.coarse = .scalar → (f t).kind.coarse = .scalar

theorem keepsCoarse_hide : KeepsCoarse hide := fun _ _ => rfl

theorem keepsCoarse_digestText : KeepsCoarse digestText := fun _ _ => rfl

theorem kind_coarse_changeParts {f : Tree → Tree} (hf : KeepsCoarse f) (t : Tree) :
    (changeParts f t).kind.coarse = t.kind.coarse := by
  cases t <;> first | rfl | exact hf _ rfl

/-- Maps with changed values are equal exactly if they have the same keys and the changed values are
equal under each. -/
theorem deepEqual_map_iff {left right : List (Text × Tree)} (hleft : (keysOf left).Nodup)
    (g : Text → Tree → Tree) :
    deepEqual (.object (left.map fun e => (e.1, g e.1 e.2)))
        (.object (right.map fun e => (e.1, g e.1 e.2))) = true ↔
      (∀ key, key ∈ keysOf left ↔ key ∈ keysOf right) ∧
        ∀ key a b, left.lookup key = some a → right.lookup key = some b →
          deepEqual (g key a) (g key b) = true := by
  have hkeys : ∀ entries : List (Text × Tree),
      keysOf (entries.map fun e => (e.1, g e.1 e.2)) = keysOf entries := by
    intro entries
    rw [keysOf, List.map_map]
    rfl
  have hleft' : (keysOf (left.map fun e => (e.1, g e.1 e.2))).Nodup := by rwa [hkeys]
  rw [deepEqual_object_iff_lookup hleft', hkeys, hkeys]
  refine and_congr_right fun _ => forall_congr' fun key => ?_
  rw [lookup_map, lookup_map]
  constructor
  · intro h a b ha hb
    exact h _ _ (by rw [ha]; rfl) (by rw [hb]; rfl)
  · intro h a' b' ha' hb'
    obtain ⟨a, ha, rfl⟩ := Option.map_eq_some_iff.mp ha'
    obtain ⟨b, hb, rfl⟩ := Option.map_eq_some_iff.mp hb'
    exact h a b ha hb

section

variable {f : Tree → Tree} {old new : List (Text × Tree)} {pairs : List (Tree × Tree)}
  (under : Text → Tree → Tree → List (Tree × Tree))

/-- What is so of the values of two maps is so of the maps: that they are equal after one change
exactly if they are after another and all pairs of values are equal. -/
theorem deepEqual_map_iff_of_pairs (hold : (keysOf old).Nodup) {g h : Text → Tree → Tree}
    (hpairs : ∀ pair, pair ∈ pairs ↔ ∃ key before after, old.lookup key = some before ∧
      new.lookup key = some after ∧ pair ∈ under key before after)
    (hvalues : ∀ key before after, old.lookup key = some before → new.lookup key = some after →
      (deepEqual (g key before) (g key after) = true ↔
        deepEqual (h key before) (h key after) = true ∧
          ∀ pair ∈ under key before after, deepEqual (f pair.1) (f pair.2) = true)) :
    deepEqual (.object (old.map fun e => (e.1, g e.1 e.2)))
        (.object (new.map fun e => (e.1, g e.1 e.2))) = true ↔
      deepEqual (.object (old.map fun e => (e.1, h e.1 e.2)))
        (.object (new.map fun e => (e.1, h e.1 e.2))) = true ∧
      ∀ pair ∈ pairs, deepEqual (f pair.1) (f pair.2) = true := by
  rw [deepEqual_map_iff hold, deepEqual_map_iff hold, and_assoc]
  refine and_congr_right fun _ => ?_
  constructor
  · intro hg
    refine ⟨fun key a b ha hb => ((hvalues key a b ha hb).mp (hg key a b ha hb)).1, ?_⟩
    intro pair hpair
    obtain ⟨key, a, b, ha, hb, hunder⟩ := (hpairs pair).mp hpair
    exact ((hvalues key a b ha hb).mp (hg key a b ha hb)).2 pair hunder
  · rintro ⟨hh, hall⟩ key a b ha hb
    exact (hvalues key a b ha hb).mpr ⟨hh key a b ha hb,
      fun pair hunder => hall pair ((hpairs pair).mpr ⟨key, a, b, ha, hb, hunder⟩)⟩

end

/-- Nothing is changed in trees that are no maps, and they are told apart from maps. -/
theorem deepEqual_changePayloads_iff_of_kind_ne {f : Tree → Tree} {old new : Tree}
    (h : old.kind ≠ .map ∨ new.kind ≠ .map) :
    deepEqual (changePayloads f old) (changePayloads f new) = true ↔
      deepEqual (changePayloads hide old) (changePayloads hide new) = true ∧
        ∀ pair ∈ payloadPairs old new, deepEqual (f pair.1) (f pair.2) = true := by
  by_cases hkind : old.kind = new.kind
  · have hold : old.kind ≠ .map := h.elim id fun h => hkind ▸ h
    have hnew : new.kind ≠ .map := hkind ▸ hold
    have hpairs : payloadPairs old new = [] := by
      cases old <;> first | exact absurd rfl hold | rfl
    rw [changePayloads_of_kind_ne f hold, changePayloads_of_kind_ne f hnew,
      changePayloads_of_kind_ne hide hold, changePayloads_of_kind_ne hide hnew, hpairs]
    simp
  · have hdiffer : ∀ g, ¬ deepEqual (changePayloads g old) (changePayloads g new) = true := by
      intro g hequal
      have hkinds := kind_eq_of_deepEqual hequal
      rw [kind_changePayloads, kind_changePayloads] at hkinds
      exact hkind hkinds
    exact iff_of_false (hdiffer f) fun h => hdiffer hide h.1

section

variable {f : Tree → Tree} (hf : KeepsCoarse f)

include hf

theorem deepEqual_changeParts_iff {before after : Tree} (hbefore : before.Distinct) :
    deepEqual (changeParts f before) (changeParts f after) = true ↔
      deepEqual (changeParts hide before) (changeParts hide after) = true ∧
        ∀ pair ∈ partPairs before after, deepEqual (f pair.1) (f pair.2) = true := by
  by_cases hkind : before.kind.coarse = after.kind.coarse
  · cases hcoarse : before.kind.coarse with
    | absent =>
      rw [eq_null_of_coarse hcoarse, eq_null_of_coarse (hkind.symm.trans hcoarse)]
      simp [partPairs, changeParts, deepEqual, kind, Kind.coarse]
    | map =>
      obtain ⟨old, rfl⟩ := exists_object_of_coarse hcoarse
      obtain ⟨new, rfl⟩ := exists_object_of_coarse (hkind.symm.trans hcoarse)
      refine deepEqual_map_iff_of_pairs (fun _ a b => [(a, b)]) (distinct_object.mp hbefore).1
        (g := fun _ => f) (h := fun _ => hide) (fun pair => ?_) fun _ a b _ _ => ?_
      · rw [mem_partPairs_object_iff (distinct_object.mp hbefore).1]
        simp [Prod.ext_iff, eq_comm]
      · rw [List.forall_mem_singleton]
        exact (and_iff_right rfl).symm
    | sequence => cases before <;> cases hcoarse
    | scalar =>
      have hafter := hkind.symm.trans hcoarse
      rw [partPairs_of_coarse hcoarse hafter, List.forall_mem_singleton,
        changeParts_of_coarse f hcoarse, changeParts_of_coarse f hafter,
        changeParts_of_coarse hide hcoarse, changeParts_of_coarse hide hafter]
      exact (and_iff_right rfl).symm
  · -- values that redaction tells apart are told apart after any change
    have hdiffer : ∀ {g}, KeepsCoarse g →
        ¬ deepEqual (changeParts g before) (changeParts g after) = true := by
      intro g hg hequal
      have hcoarse := congrArg Kind.coarse (kind_eq_of_deepEqual hequal)
      rw [kind_coarse_changeParts hg, kind_coarse_changeParts hg] at hcoarse
      exact hkind hcoarse
    exact iff_of_false (hdiffer hf) fun h => hdiffer keepsCoarse_hide h.1

/-- Trees with changed payloads are equal exactly if they are equal outside of payloads and the
changed payloads are equal pair by pair. -/
theorem deepEqual_changePayloads_iff {old : Tree} (hold : old.Distinct) (new : Tree) :
    deepEqual (changePayloads f old) (changePayloads f new) = true ↔
      EqualOutside old new ∧
        ∀ pair ∈ payloadPairs old new, deepEqual (f pair.1) (f pair.2) = true := by
  unfold EqualOutside
  induction old using nested_induction generalizing new with
  | object old ih =>
    cases new with
    | object new =>
      obtain ⟨hkeys, hvalues⟩ := distinct_object.mp hold
      rw [changePayloads, changePayloads, changePayloads, changePayloads, changeEntries_eq_map,
        changeEntries_eq_map, changeEntries_eq_map, changeEntries_eq_map]
      refine deepEqual_map_iff_of_pairs pairsUnder hkeys (fun pair => mem_entryPairs_iff hkeys) ?_
      intro key before after hbefore hafter
      have hmem := mem_of_lookup hbefore
      unfold changeUnder pairsUnder
      split
      · exact deepEqual_changeParts_iff hf (hvalues _ hmem)
      · exact ih _ hmem (hvalues _ hmem) after
    | _ => exact deepEqual_changePayloads_iff_of_kind_ne (.inr nofun)
  | _ => exact deepEqual_changePayloads_iff_of_kind_ne (.inl nofun)

end

/-- Two trees are equal exactly if they are equal outside of payloads and their payloads are. -/
theorem deepEqual_iff_equalOutside {old : Tree} (hold : old.Distinct) (new : Tree) :
    deepEqual old new = true ↔
      EqualOutside old new ∧ ∀ pair ∈ payloadPairs old new, deepEqual pair.1 pair.2 = true := by
  have hid : KeepsCoarse id := fun _ h => h
  have hchange := deepEqual_changePayloads_iff hid hold new
  rwa [changePayloads_id, changePayloads_id] at hchange

end AdmissionLedger.Tree
