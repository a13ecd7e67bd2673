import AdmissionLedger.Proofs.Event.Identity
import AdmissionLedger.Proofs.Ledger.Saving
import AdmissionLedger.Proofs.Review.Decision

/-!
# What an identity tells of a reviewed operation

The identity that a review gives to its event is made of the operation, the kind, the
name and the reading of the clock.  The namespace has no part in it, and a hyphen in a
kind cannot be told from the one behind it.  So two events with readings that are not
negative share an identity exactly if they agree in the operation, the reading, and the
text of kind and name, and exactly then a ledger answers to the identity of one with the
other.

## Main definitions

* `Event.StampedAt` — an event is that of a review, with a reading of the clock.
* `Event.Alike` — what two events that share an identity have in common.

## Main results

* `Event.StampedAt.id_eq` — the identity that a review gives.
* `id_eq_iff_alike` — when two of them are equal, and what follows.
-/

namespace AdmissionLedger

namespace Event

/-- The event of a review for which the clock read `ns`. -/
def StampedAt (e : Event) (ns : Int) : Prop :=
  ∃ (depth : Nat) (σ : Type) (policy : Policy) (sink : Option (Sink σ)) (body : Bytes)
    (clock : Clock) (s : σ),
    clock.now = ns ∧ (review depth policy sink body clock s).value.1.event = some e

/-- Two events have the operation in common, the reading, and the text of kind and name. -/
structure Alike (e e' : Event) (m n : Int) : Prop where
  operation : e.operation = e'.operation
  reading : m = n
  named : e.resourceKind ++ hyphen :: e.name = e'.resourceKind ++ hyphen :: e'.name

end Event

/-- The event of a decision is a candidate, stamped with the reading of the clock. -/
theorem Decided.exists_stamp {σ : Type} {policy : Policy} {sink : Option (Sink σ)} {r : Request}
    {clock : Clock} {s : σ} {result : Decision × Clock × σ}
    (h : Decided policy sink r clock s result) {e : Event} (hevent : result.1.event = some e) :
    ∃ candidate deniedBy, Event.stamp candidate clock.now deniedBy = .ok e := by
  cases h with
  | undecoded => cases hevent
  | unstamped => cases hevent
  | skipped => cases hevent
  | denied c event pattern message hcandidate hrule hstamp =>
    obtain rfl := Option.some.inj hevent
    exact ⟨c, some pattern, hstamp⟩
  | recorded c event hcandidate hrule hstamp =>
    obtain rfl := Option.some.inj hevent
    exact ⟨c, none, hstamp⟩

namespace Event

variable {e e' : Event} {m n : Int}

theorem StampedAt.exists_stamp (h : e.StampedAt n) :
    ∃ candidate deniedBy, stamp candidate n deniedBy = .ok e := by
  obtain ⟨depth, σ, policy, sink, body, clock, s, rfl, hevent⟩ := h
  unfold review at hevent
  cases hbody : Request.ofBytes depth body with
  | error failure =>
    rw [hbody] at hevent
    cases hevent
  | ok r =>
    rw [hbody] at hevent
    exact (decided_decide policy sink r clock s).exists_stamp hevent

/-- The identity that a review gives to its event. -/
theorem StampedAt.id_eq (h : e.StampedAt n) :
    e.id = eventId e.operation.name e.resourceKind e.name n := by
  obtain ⟨candidate, deniedBy, hstamp⟩ := h.exists_stamp
  obtain ⟨time, -, rfl⟩ := eq_stamped_of_stamp hstamp
  rfl

/-- The time that a review gives to its event. -/
theorem StampedAt.timestamp_eq (h : e.StampedAt n) :
    e.timestamp = (Timestamp.ofNanoseconds n).toOption := by
  obtain ⟨candidate, deniedBy, hstamp⟩ := h.exists_stamp
  obtain ⟨time, htime, rfl⟩ := eq_stamped_of_stamp hstamp
  rw [htime]
  rfl

theorem StampedAt.id_eq_iff (h : e.StampedAt m) (h' : e'.StampedAt n) (hm : 0 ≤ m) (hn : 0 ≤ n) :
    e.id = e'.id ↔ e.Alike e' m n := by
  rw [h.id_eq, h'.id_eq, eventId_eq_iff hm hn]
  exact ⟨fun ⟨hoperation, hreading, hnamed⟩ => ⟨hoperation, hreading, hnamed⟩,
    fun halike => ⟨halike.operation, halike.reading, halike.named⟩⟩

end Event

/-- Two events of reviews, with readings that are not negative, share an identity exactly if they
have the operation in common, the reading, and the text of kind and name.  Then they have one time,
and one kind and name unless a kind holds a hyphen; their namespaces may differ.  A ledger that
saves one of them answers to the identity of the other with it exactly in this case. -/
theorem id_eq_iff_alike {e e' : Event} {m n : Int} (h : e.StampedAt m) (h' : e'.StampedAt n)
    (hm : 0 ≤ m) (hn : 0 ≤ n) :
    (e.id = e'.id ↔ e.Alike e' m n) ∧
    (e.Alike e' m n → e.timestamp = e'.timestamp ∧
      (hyphen ∉ e.resourceKind → hyphen ∉ e'.resourceKind →
        e.resourceKind = e'.resourceKind ∧ e.name = e'.name)) ∧
    ∀ l l' : Ledger, l.save e' = .ok l' → (l'.get? e.id = some e' ↔ e.Alike e' m n) := by
  have hids := h.id_eq_iff h' hm hn
  refine ⟨hids, fun halike => ⟨?_, fun hkind hkind' => ?_⟩, fun l l' hsave => ?_⟩
  · rw [h.timestamp_eq, h'.timestamp_eq, halike.reading]
  · exact (append_cons_inj hkind hkind').mp halike.named
  · rw [Ledger.get?_save hsave, ← hids]
    exact eq_comm

/-- The body of a review of a creation. -/
def creationOf (kind scope name : Text) : Bytes :=
  (Text.ofString "\x7b\"apiVersion\":\"admission.k8s.io/v1\",\"request\":\x7b\"uid\":\"u1\"," ++
    Text.ofString "\"kind\":\x7b\"kind\":\"" ++ kind ++
    Text.ofString "\"\x7d,\"name\":\"" ++ name ++
    Text.ofString "\",\"namespace\":\"" ++ scope ++
    Text.ofString "\",\"operation\":\"CREATE\"\x7d\x7d").flatMap CodePoint.utf8Bytes

/-- The event of a creation, without rules and without a sink. -/
def created (kind scope name : Text) : Option Event :=
  (review 1000 {} none (creationOf kind scope name) .exampleReading ()).value.1.event

theorem stampedAt_of_created {kind scope name : Text} {e : Event}
    (h : created kind scope name = some e) : e.StampedAt Clock.exampleReading.now :=
  ⟨1000, Unit, {}, none, creationOf kind scope name, .exampleReading, (), rfl, h⟩

/-- The event of a creation is about what its body says. -/
theorem exists_created (kind scope name id : Text)
    (h : (created kind scope name).map (fun e => [e.id, e.resourceKind, e.scope, e.name]) =
      some [id, kind, scope, name]) :
    ∃ e, created kind scope name = some e ∧ e.StampedAt Clock.exampleReading.now ∧
      e.id = id ∧ e.resourceKind = kind ∧ e.scope = scope ∧ e.name = name := by
  obtain ⟨e, he, hfields⟩ := Option.map_eq_some_iff.mp h
  simp only [List.cons.injEq, and_true] at hfields
  exact ⟨e, he, stampedAt_of_created he, hfields⟩

/-- Of two pods of one namespace that are created at one reading, the ledger keeps both. -/
theorem id_eq_iff_alike_created :
    ∃ e e', created "Pod" "prod" "web" = some e ∧ created "Pod" "prod" "db" = some e' ∧
      e.id ≠ e'.id ∧ ∀ l l' : Ledger, l.save e' = .ok l' → l'.get? e.id ≠ some e' := by
  obtain ⟨e, he, hstamped, -, hkind, -, hname⟩ :=
    exists_created "Pod" "prod" "web" "CREATE-Pod-web-1771416000123456789" (by decide +kernel)
  obtain ⟨e', he', hstamped', -, hkind', -, hname'⟩ :=
    exists_created "Pod" "prod" "db" "CREATE-Pod-db-1771416000123456789" (by decide +kernel)
  have hreading : 0 ≤ Clock.exampleReading.now := by decide
  obtain ⟨hids, -, hledger⟩ := id_eq_iff_alike hstamped hstamped' hreading hreading
  have hnot : ¬ e.Alike e' Clock.exampleReading.now Clock.exampleReading.now := by
    intro halike
    have hnamed := halike.named
    rw [hkind, hkind', hname, hname'] at hnamed
    exact absurd hnamed (by decide)
  exact ⟨e, e', he, he', mt hids.mp hnot, fun l l' hsave => mt (hledger l l' hsave).mp hnot⟩

/-- At one reading, two resources of one kind and name in two namespaces get one identity, and the
record of one goes with that of the other.  So do two resources of one namespace that have a hyphen
at another place. -/
theorem created_share_ids :
    0 ≤ Clock.exampleReading.now ∧
    (∃ e e', created "Pod" "prod" "web" = some e ∧ created "Pod" "test" "web" = some e' ∧
      e.StampedAt Clock.exampleReading.now ∧ e'.StampedAt Clock.exampleReading.now ∧
      e.id = e'.id ∧ e.scope ≠ e'.scope ∧
      ∀ l l' : Ledger, l.save e' = .ok l' → l'.get? e.id = some e') ∧
    ∃ e e', created "Pod-a" "prod" "b" = some e ∧ created "Pod" "prod" "a-b" = some e' ∧
      e.StampedAt Clock.exampleReading.now ∧ e'.StampedAt Clock.exampleReading.now ∧
      e.id = e'.id ∧ e.resourceKind ≠ e'.resourceKind ∧ e.name ≠ e'.name := by
  refine ⟨by decide, ?_, ?_⟩
  · obtain ⟨e, he, hstamped, hid, -, hscope, -⟩ :=
      exists_created "Pod" "prod" "web" "CREATE-Pod-web-1771416000123456789" (by decide +kernel)
    obtain ⟨e', he', hstamped', hid', -, hscope', -⟩ :=
      exists_created "Pod" "test" "web" "CREATE-Pod-web-1771416000123456789" (by decide +kernel)
    have hids : e.id = e'.id := hid.trans hid'.symm
    refine ⟨e, e', he, he', hstamped, hstamped', hids, ?_, fun l l' hsave => ?_⟩
    · rw [hscope, hscope']
      decide
    · exact (Ledger.get?_save hsave e.id).mpr hids.symm
  · obtain ⟨e, he, hstamped, hid, hkind, -, hname⟩ :=
      exists_created "Pod-a" "prod" "b" "CREATE-Pod-a-b-1771416000123456789" (by decide +kernel)
    obtain ⟨e', he', hstamped', hid', hkind', -, hname'⟩ :=
      exists_created "Pod" "prod" "a-b" "CREATE-Pod-a-b-1771416000123456789" (by decide +kernel)
    refine ⟨e, e', he, he', hstamped, hstamped', hid.trans hid'.symm, ?_, ?_⟩
    · rw [hkind, hkind']
      decide
    · rw [hname, hname']
      decide

end AdmissionLedger
