import AdmissionLedger.Proofs.Patch.Pruning
import AdmissionLedger.Proofs.Tree.Digest
import AdmissionLedger.Proofs.Tree.Payload

/-!
# Which changes of a Secret its patch tells

The patch between two trees is empty exactly if the prepared trees are equal.  The payload
of a Secret is prepared by hashing it, so that its patch tells a change of a payload value
exactly if the digests do.  They hide that a value changed into one that it is mistaken
for, and they tell a change where a value was respelled.

## Main definitions

* `Patch.comparedPayloads` — the payload values that stand at the same place of two trees.

## Main results

* `Patch.between_sensitive_eq_nil_iff` — which changes of a Secret its patch tells, which it hides
  and which it invents.
-/

namespace AdmissionLedger

namespace Patch

open AdmissionLedger.Tree

/-- The payload values that stand at the same place of two trees without noise. -/
def comparedPayloads (old new : Tree) : List (Tree × Tree) :=
  payloadPairs (old.withoutNoise []) (new.withoutNoise [])

section

variable {old new : Tree} (hold : old.AsRead) (hnew : new.AsRead)
  (hprepare : ∃ t, prepare sensitiveKind old = .ok t)
  (hprepare' : ∃ t, prepare sensitiveKind new = .ok t)
  (hapart : ∀ pair ∈ comparedPayloads old new, HashedApart pair.1 pair.2)

include hold hnew hprepare hprepare' hapart

/-- The digests of two payload values are equal exactly if the values are mistaken, or equal and not
respelled. -/
theorem deepEqual_digestText_iff_mistaken_or : ∀ pair ∈ comparedPayloads old new,
    (deepEqual (digestText pair.1) (digestText pair.2) = true ↔
      Mistaken pair.1 pair.2 ∨ deepEqual pair.1 pair.2 = true ∧ ¬ Respelled pair.1 pair.2) := by
  intro pair hpair
  obtain ⟨hp, hq⟩ := mem_payloads_of_mem_payloadPairs (hold.withoutNoise []).distinct hpair
  have hhash : pair.1.isHashable = true := (exists_redact_iff _).mp hprepare _ hp
  have hhash' : pair.2.isHashable = true := (exists_redact_iff _).mp hprepare' _ hq
  rw [deepEqual_digestText_iff hhash hhash']
  exact digest_eq_iff_mistaken_or ((hold.withoutNoise []).of_mem_payloads hp)
    ((hnew.withoutNoise []).of_mem_payloads hq) hhash hhash' (hapart pair hpair)

/-- The patch of a Secret is empty exactly if nothing changed outside of payloads and the digests of
all payload values are equal. -/
theorem between_eq_nil_iff_equalOutside : between sensitiveKind old new = .ok [] ↔
    EqualOutside (old.withoutNoise []) (new.withoutNoise []) ∧
      ∀ pair ∈ comparedPayloads old new, Mistaken pair.1 pair.2 ∨
        deepEqual pair.1 pair.2 = true ∧ ¬ Respelled pair.1 pair.2 := by
  have hdigests := deepEqual_digestText_iff_mistaken_or hold hnew hprepare hprepare' hapart
  obtain ⟨old', hold'⟩ := hprepare
  obtain ⟨new', hnew'⟩ := hprepare'
  have hredact : redact (old.withoutNoise []) = .ok old' := hold'
  have hredact' : redact (new.withoutNoise []) = .ok new' := hnew'
  rw [between_eq_nil_iff hold' hnew', eq_changePayloads_of_redact hredact,
    eq_changePayloads_of_redact hredact',
    deepEqual_changePayloads_iff keepsCoarse_digestText (hold.withoutNoise []).distinct]
  exact and_congr_right fun _ => forall₂_congr hdigests

end

/-- The patch of a Secret is empty exactly if nothing changed outside of payloads, and two payload
values at the same place are always mistaken for each other, or equal and not respelled.  If none
are mistaken or respelled, then it is empty exactly if the trees are equal without noise.  SHA-256
must not collide on the values. -/
theorem between_sensitive_eq_nil_iff {old new : Tree} (hold : old.AsRead) (hnew : new.AsRead)
    (hprepare : ∃ t, prepare sensitiveKind old = .ok t)
    (hprepare' : ∃ t, prepare sensitiveKind new = .ok t)
    (hapart : ∀ pair ∈ comparedPayloads old new, HashedApart pair.1 pair.2) :
    (between sensitiveKind old new = .ok [] ↔
      EqualOutside (old.withoutNoise []) (new.withoutNoise []) ∧
        ∀ pair ∈ comparedPayloads old new, Mistaken pair.1 pair.2 ∨
          deepEqual pair.1 pair.2 = true ∧ ¬ Respelled pair.1 pair.2) ∧
    (deepEqual (old.withoutNoise []) (new.withoutNoise []) = true ↔
      EqualOutside (old.withoutNoise []) (new.withoutNoise []) ∧
        ∀ pair ∈ comparedPayloads old new, deepEqual pair.1 pair.2 = true) ∧
    ((∀ pair ∈ comparedPayloads old new,
        ¬ Mistaken pair.1 pair.2 ∧ ¬ Respelled pair.1 pair.2) →
      (between sensitiveKind old new = .ok [] ↔
        deepEqual (old.withoutNoise []) (new.withoutNoise []) = true)) := by
  have hempty := between_eq_nil_iff_equalOutside hold hnew hprepare hprepare' hapart
  have hequal := deepEqual_iff_equalOutside (hold.withoutNoise []).distinct (new.withoutNoise [])
  refine ⟨hempty, hequal, fun hright => ?_⟩
  rw [hempty, hequal]
  refine and_congr_right fun _ => forall₂_congr fun pair hpair => ?_
  rw [or_iff_right (hright pair hpair).1, and_iff_left (hright pair hpair).2]

/-- A Secret with two values and some noise. -/
def exampleSecret : Tree :=
  .record [("status", .str "old"), ("data", .record [("user", .str "a"), ("size", .int 1)])]

/-- The same Secret with one value changed. -/
def exampleRotated : Tree :=
  .record [("status", .str "new"), ("data", .record [("user", .str "b"), ("size", .int 1)])]

theorem asRead_exampleSecret : exampleSecret.AsRead where
  distinct := by simp [exampleSecret, record, Everywhere, EntriesEverywhere]; decide
  normal := by simp [exampleSecret, record, NormalNumbers, EntriesNormal]

theorem asRead_exampleRotated : exampleRotated.AsRead where
  distinct := by simp [exampleRotated, record, Everywhere, EntriesEverywhere]; decide
  normal := by simp [exampleRotated, record, NormalNumbers, EntriesNormal]

theorem comparedPayloads_example : comparedPayloads exampleSecret exampleRotated =
    [(.str "a", .str "b"), (.int 1, .int 1)] := rfl

/-- SHA-256 tells the two users apart. -/
theorem hashedApart_example : HashedApart (.str "a") (.str "b") := by
  intro bytes bytes' h h' heq
  cases h
  cases h'
  have hne : Sha256.hash [97] ≠ Sha256.hash [98] := by decide +kernel
  exact absurd heq hne

theorem between_sensitive_eq_nil_iff_exampleRotated :
    between sensitiveKind exampleSecret exampleRotated = .ok [] ↔
      deepEqual (exampleSecret.withoutNoise []) (exampleRotated.withoutNoise []) = true := by
  refine (between_sensitive_eq_nil_iff asRead_exampleSecret asRead_exampleRotated ⟨_, rfl⟩ ⟨_, rfl⟩
    ?_).2.2 ?_
  · rw [comparedPayloads_example, List.forall_mem_cons, List.forall_mem_singleton]
    exact ⟨hashedApart_example, .refl _⟩
  · have hstr : ∀ t : Text, AsRead (.str t) := fun t => ⟨by simp, by simp [NormalNumbers]⟩
    have hint : ∀ n : Int, AsRead (.int n) :=
      fun n => ⟨by simp [Everywhere], by simp [NormalNumbers]⟩
    rw [comparedPayloads_example, List.forall_mem_cons, List.forall_mem_singleton,
      mistaken_iff (hstr _) (hstr _), respelled_iff (hstr _) (hstr _),
      mistaken_iff (hint _) (hint _), respelled_iff (hint _) (hint _)]
    decide

end Patch

end AdmissionLedger
