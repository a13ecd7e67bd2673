import AdmissionLedger.Proofs.Event.Identity
import AdmissionLedger.Proofs.Relay.Unstopped
import AdmissionLedger.Proofs.Review.Decision
import AdmissionLedger.Service.Basic
import Mathlib.Data.List.Pairwise

/-!
# From bodies to records

Bodies are reviewed one after the other, rules are replaced between any two of them, and
the consumer goes on whenever it can.  If the clock is never negative and never reads the
same twice, no two events share an identity, and so the ledger keeps the latest of the
events that were accepted, in the order of their decisions, and nothing else.

## Main definitions

* `Session`, `Session.Turn`, `Session.run` — the decisions so far, and what can happen next.
* `Session.recorded` — the events that were accepted.
* `Session.Recorded` — what a ledger holds of a session.

## Main results

* `offers_review` — what a review does with the sink.
* `Session.Sound.turn` — the invariant.
* `Session.recorded_run` — what the ledger holds after any run.
-/

namespace AdmissionLedger

/-! ### What a review does with the sink -/

/-- What is stamped bears the reading. -/
theorem Event.bears_of_stamp {candidate e : Event} {ns : Int} {deniedBy : Option Text}
    (hstamp : candidate.stamp ns deniedBy = .ok e) : e.Bears ns := by
  obtain ⟨time, -, rfl⟩ := Event.eq_stamped_of_stamp hstamp
  exact ⟨_, _, _, rfl⟩

section

variable {σ : Type} {policy : Policy} {sink : Option (Sink σ)} {clock : Clock} {s : σ}

/-- A decision offers its event and keeps the answer, or has none and leaves the sink as it is. -/
inductive Decision.Offers (sink : Option (Sink σ)) (ns : Int) (s : σ) (d : Decision) : σ → Prop
  | nothing (houtcome : d.outcome = .skipped ∨ d.outcome = .failedOpen) (hevent : d.event = none)
      (hanswer : d.enqueued = false) : Offers sink ns s d s
  | event (e : Event) (houtcome : d.outcome = .denied ∨ d.outcome = .recorded)
      (hevent : d.event = some e) (hbears : e.Bears ns)
      (hanswer : d.enqueued = (Sink.offerTo sink e s).value.1) :
      Offers sink ns s d (Sink.offerTo sink e s).value.2

/-- What is skipped or fails open has no event. -/
theorem Decision.Offers.event_eq_none {ns : Int} {s' : σ} {d : Decision}
    (h : d.Offers sink ns s s') (houtcome : d.outcome = .skipped ∨ d.outcome = .failedOpen) :
    d.event = none := by
  cases h with
  | nothing _ hevent => exact hevent
  | event e hstamped =>
    obtain hstamped | hstamped := hstamped <;> rw [hstamped] at houtcome <;>
      obtain houtcome | houtcome := houtcome <;> cases houtcome

theorem Decided.offers {r : Request} {result : Decision × Clock × σ}
    (h : Decided policy sink r clock s result) :
    result.1.Offers sink clock.now s result.2.2 := by
  cases h with
  | undecoded error detail hcandidate => exact .nothing (.inr rfl) rfl rfl
  | unstamped c error detail hcandidate hrule hstamp => exact .nothing (.inr rfl) rfl rfl
  | skipped c hcandidate hrule => exact .nothing (.inl rfl) rfl rfl
  | denied c e pattern message hcandidate hrule hstamp =>
    exact .event e (.inl rfl) rfl (Event.bears_of_stamp hstamp) rfl
  | recorded c e hcandidate hrule hstamp =>
    exact .event e (.inr rfl) rfl (Event.bears_of_stamp hstamp) rfl

theorem offers_review (depth : Nat) (policy : Policy) (sink : Option (Sink σ)) (body : Bytes)
    (clock : Clock) (s : σ) :
    let result := (review depth policy sink body clock s).value
    result.1.Offers sink clock.now s result.2.2 := by
  unfold review
  cases Request.ofBytes depth body with
  | error failure => exact .nothing (.inr rfl) rfl rfl
  | ok r => exact (decided_decide policy sink r clock s).offers

end

/-! ### Sessions -/

/-- A session: how deep a body may be nested, the rules in force, the clock, the relay, and the
decisions so far. -/
structure Session (κ σ : Type) where
  nesting : Nat
  policy : Policy
  clock : Clock
  relay : Relay κ σ
  /-- The decisions in order, each with the reading that the clock had for it. -/
  reviews : List (Int × Decision) := []

namespace Session

/-- What can happen next. -/
inductive Turn
  | review (body : Bytes)
  /-- Other rules come into force. -/
  | replace (policy : Policy)
  /-- The consumer is started, unless it runs. -/
  | start
  | stopRouter (caller : Nat)
  /-- A job that stands in line runs, not necessarily the first. -/
  | job (place : Nat)

variable {κ σ : Type}

/-- The session after a review, given its decision and what is left of the clock and the relay. -/
def reviewed (s : Session κ σ) (result : Decision × Clock × Relay κ σ) : Session κ σ :=
  { s with
    clock := result.2.1
    relay := result.2.2
    reviews := s.reviews ++ [(s.clock.now, result.1)] }

/-- The session after one turn. -/
def turn (s : Session κ σ) : Turn → Session κ σ
  | .review body =>
    s.reviewed (review s.nesting s.policy (some Relay.sink) body s.clock s.relay).value
  | .replace policy => { s with policy }
  | .start => { s with relay := s.relay.turn .start }
  | .stopRouter caller => { s with relay := s.relay.turn (.stopRouter caller) }
  | .job place => { s with relay := s.relay.turn (.job place) }

/-- The session after some turns. -/
def run (s : Session κ σ) (turns : List Turn) : Session κ σ :=
  turns.foldl turn s

/-- The decisions, in order. -/
def decisions (s : Session κ σ) : List Decision :=
  s.reviews.map (·.2)

/-- The events of the decisions, each with the reading that it was stamped with. -/
def stamps (s : Session κ σ) : List (Int × Event) :=
  s.reviews.filterMap fun (ns, d) => d.event.map fun e => (ns, e)

/-- The readings that the clock gave for events. -/
def readings (s : Session κ σ) : List Int :=
  s.stamps.map (·.1)

/-- The events of the decisions. -/
def events (s : Session κ σ) : List Event :=
  s.decisions.filterMap (·.event)

/-- The events that were accepted. -/
def recorded (s : Session κ σ) : List Event :=
  (s.decisions.filter (·.enqueued)).filterMap (·.event)

variable {s : Session κ σ} {l : Ledger} {ns : Int} {d : Decision}

theorem events_eq (s : Session κ σ) : s.events = s.stamps.map (·.2) := by
  rw [events, decisions, stamps, List.filterMap_map, List.map_filterMap]
  refine List.filterMap_congr fun entry _ => ?_
  cases h : entry.2.event <;> simp [h]

theorem recorded_sublist (s : Session κ σ) : s.recorded.Sublist s.events :=
  List.filter_sublist.filterMap _

theorem decisions_reviewed (s : Session κ σ) (result : Decision × Clock × Relay κ σ) :
    (s.reviewed result).decisions = s.decisions ++ [result.1] :=
  List.map_append

theorem stamps_reviewed (s : Session κ σ) (result : Decision × Clock × Relay κ σ) :
    (s.reviewed result).stamps =
      s.stamps ++ result.1.event.toList.map fun e => (s.clock.now, e) := by
  rw [stamps, reviewed, List.filterMap_append, stamps]
  cases h : result.1.event <;> simp [h]

theorem recorded_reviewed (s : Session κ σ) (result : Decision × Clock × Relay κ σ) :
    (s.reviewed result).recorded =
      s.recorded ++ if result.1.enqueued then result.1.event.toList else [] := by
  rw [recorded, decisions_reviewed, List.filter_append, List.filterMap_append, recorded]
  cases henqueued : result.1.enqueued <;> cases hevent : result.1.event <;>
    simp [henqueued, hevent]

/-- What a ledger holds of a session. -/
structure Recorded (s : Session κ σ) (l : Ledger) : Prop where
  /-- No two events share an identity, whether they were accepted or not. -/
  distinct : (s.events.map (·.id)).Nodup
  /-- What was accepted and is not in the queue any more has come to the ledger, which holds the
  latest of it. -/
  pending : ∃ came, s.recorded = came ++ s.relay.queue.events ∧
    l.records = (Ledger.latest l.capacity came).map Event.record
  /-- Once the queue is empty, the ledger holds the latest of all that was accepted. -/
  drained : s.relay.queue.events = [] →
    l.records = (Ledger.latest l.capacity s.recorded).map Event.record
  /-- The event of a decision that was not accepted is not found. -/
  dropped : ∀ d ∈ s.decisions, d.enqueued = false → ∀ e, d.event = some e → e.id ∉ l.ids
  unstamped : ∀ d ∈ s.decisions, d.outcome = .skipped ∨ d.outcome = .failedOpen → d.event = none

/-- What holds of a session all the time. -/
structure Sound (l : Ledger) (s : Session κ σ) : Prop where
  flowing : s.relay.Flowing l
  kept : s.relay.Kept
  accepted : s.relay.accepted = s.recorded
  bears : ∀ stamp ∈ s.stamps, stamp.2.Bears stamp.1
  unstamped : ∀ d ∈ s.decisions, d.outcome = .skipped ∨ d.outcome = .failedOpen → d.event = none

namespace Sound

/-- A turn of the relay with which nothing is accepted. -/
theorem relay_turn (h : s.Sound l) {t : Relay.Turn} (hcalm : t.isCalm = true)
    (hadmitted : s.relay.admitted t = []) : { s with relay := s.relay.turn t }.Sound l where
  flowing := h.flowing.turn hcalm
  kept := h.flowing.kept_turn h.kept t
  accepted := by
    rw [h.flowing.accepted_turn, hadmitted, List.append_nil]
    exact h.accepted
  bears := h.bears
  unstamped := h.unstamped

/-- A review that offers its event and keeps the answer. -/
theorem reviewed (h : s.Sound l) {result : Decision × Clock × Relay κ σ}
    (hoffers : result.1.Offers (some Relay.sink) s.clock.now s.relay result.2.2) :
    (s.reviewed result).Sound l := by
  have hdecisions := s.decisions_reviewed result
  have hstamps := s.stamps_reviewed result
  have hrecorded := s.recorded_reviewed result
  have hunstamped : ∀ d ∈ (s.reviewed result).decisions,
      d.outcome = .skipped ∨ d.outcome = .failedOpen → d.event = none := by
    rw [hdecisions, List.forall_mem_append]
    exact ⟨h.unstamped, by simpa using hoffers.event_eq_none⟩
  obtain ⟨d, clock, relay⟩ := result
  cases hoffers with
  | nothing houtcome hevent hanswer =>
    -- the relay is as before, and nothing is added to what was recorded
    refine ⟨h.flowing, h.kept, ?_, ?_, hunstamped⟩
    · rw [hrecorded, hanswer]
      exact h.accepted.trans (List.append_nil _).symm
    · rw [hstamps, hevent]
      simpa using h.bears
  | event e houtcome hevent hbears hanswer =>
    -- the answer of the relay is what the decision keeps, so that both add the event or neither
    have haccepted := h.flowing.accepted_turn (.offer e)
    refine ⟨h.flowing.offer e, h.flowing.kept_turn h.kept (.offer e), ?_, ?_, hunstamped⟩
    · rw [hrecorded, hanswer, hevent]
      exact haccepted.trans (congrArg (· ++ _) h.accepted)
    · rw [hstamps, hevent, List.forall_mem_append]
      exact ⟨h.bears, by simpa using hbears⟩

/-- Every turn keeps the invariant. -/
theorem turn (h : s.Sound l) (t : Turn) : (s.turn t).Sound l := by
  cases t with
  | review body =>
    exact h.reviewed (offers_review s.nesting s.policy (some Relay.sink) body s.clock s.relay)
  | replace policy => exact ⟨h.flowing, h.kept, h.accepted, h.bears, h.unstamped⟩
  | start => exact h.relay_turn rfl rfl
  | stopRouter caller => exact h.relay_turn rfl rfl
  | job place => exact h.relay_turn rfl rfl

/-- So does every run. -/
theorem run (h : s.Sound l) (turns : List Turn) : (s.run turns).Sound l := by
  induction turns generalizing s with
  | nil => exact h
  | cons t turns ih => exact ih (h.turn t)

/-- If the clock is never negative and never reads the same twice, no two events share an
identity. -/
theorem nodup_ids (h : s.Sound l) (hnodup : s.readings.Nodup)
    (hnonneg : ∀ ns ∈ s.readings, 0 ≤ ns) : (s.events.map (·.id)).Nodup := by
  rw [events_eq, List.map_map, List.Nodup, List.pairwise_map]
  rw [readings, List.Nodup, List.pairwise_map] at hnodup
  refine hnodup.imp_of_mem ?_
  intro stamp stamp' hstamp hstamp' hne heq
  exact hne ((h.bears stamp hstamp).eq_of_id_eq (h.bears stamp' hstamp')
    (hnonneg _ (List.mem_map_of_mem hstamp)) (hnonneg _ (List.mem_map_of_mem hstamp')) heq)

theorem id_ne_nil (h : s.Sound l) {e : Event} (he : e ∈ s.events) : e.id ≠ [] := by
  rw [events_eq, List.mem_map] at he
  obtain ⟨stamp, hstamp, rfl⟩ := he
  exact (h.bears stamp hstamp).id_ne_nil

/-- What was taken from the queue was accepted. -/
theorem taken_sublist (h : s.Sound l) : s.relay.taken.Sublist s.recorded := by
  rw [← h.accepted, h.kept.accepted]
  exact List.sublist_append_left _ _

/-- The events of two decisions differ in their identities, if one is accepted and the other is
not. -/
theorem id_ne_of_dropped (h : (s.events.map (·.id)).Nodup) {e e' : Event} (hd : d ∈ s.decisions)
    (hdropped : d.enqueued = false) (hevent : d.event = some e) (he' : e' ∈ s.recorded) :
    e'.id ≠ e.id := by
  obtain ⟨d', hd', hevent'⟩ := List.mem_filterMap.mp he'
  obtain ⟨hmem, haccepted⟩ := List.mem_filter.mp hd'
  have hne : d' ≠ d := by
    rintro rfl
    exact absurd (hdropped.symm.trans haccepted) (by decide)
  rw [List.Nodup, List.pairwise_map, events, List.pairwise_filterMap] at h
  have hsymm : Std.Symm fun a b : Decision =>
      ∀ x, a.event = some x → ∀ y, b.event = some y → x.id ≠ y.id :=
    ⟨fun a b hab y hy x hx => (hab x hx y hy).symm⟩
  exact h.forall hmem hd hne e' hevent' e hevent

end Sound

/-- The ledger of a sound session. -/
theorem Sound.exists_recorded {capacity : Nat} {hcapacity : 0 < capacity}
    (h : s.Sound ⟨capacity, [], false, hcapacity⟩) (hnodup : s.readings.Nodup)
    (hnonneg : ∀ ns ∈ s.readings, 0 ≤ ns) :
    ∃ l, s.relay.storage = .ledger l ∧ l.capacity = capacity ∧ s.Recorded l := by
  have hdistinct := h.nodup_ids hnodup hnonneg
  -- what came to the ledger are some of the events, all with identities of their own
  have hsub : s.relay.taken.Sublist s.events := h.taken_sublist.trans s.recorded_sublist
  have hstorage := h.flowing.storage
  rw [Storage.saveAll_ledger hcapacity (hdistinct.sublist (hsub.map _))
    fun e he => h.id_ne_nil (hsub.subset he)] at hstorage
  have hqueue : s.recorded = s.relay.taken ++ s.relay.queue.events :=
    h.accepted.symm.trans h.kept.accepted
  refine ⟨_, hstorage, rfl, ?_⟩
  exact {
    distinct := hdistinct
    pending := ⟨s.relay.taken, hqueue, rfl⟩
    drained := by
      intro hempty
      rw [hempty, List.append_nil] at hqueue
      rw [hqueue]
      rfl
    dropped := by
      intro d hd hdropped e hevent hmem
      obtain ⟨e', he', hid⟩ := List.mem_map.mp hmem
      have htaken := (Ledger.latest_suffix capacity s.relay.taken).subset he'
      exact Sound.id_ne_of_dropped hdistinct hd hdropped hevent (h.taken_sublist.subset htaken) hid
    unstamped := h.unstamped }

/-- After any run of a session with a fresh relay and an empty ledger, the clock never negative and
never twice the same: no two events share an identity, and the ledger holds the latest of the events
that were accepted and are not in the queue, in the order of their decisions, and nothing else.  The
queue can always be emptied by the consumer. -/
theorem recorded_run (nesting : Nat) (policy : Policy) (clock : Clock) {relay : Relay κ σ}
    (hfresh : relay.Fresh) {capacity : Nat} {hcapacity : 0 < capacity}
    (hstorage : relay.storage = .ledger ⟨capacity, [], false, hcapacity⟩) (turns : List Turn) :
    let s : Session κ σ := run { nesting, policy, clock, relay } turns
    s.readings.Nodup → (∀ ns ∈ s.readings, 0 ≤ ns) →
      (∃ l, s.relay.storage = .ledger l ∧ l.capacity = capacity ∧ s.Recorded l) ∧
        ∃ place, (s.run [.start, .job place]).relay.queue.events = [] := by
  intro s hnodup hnonneg
  have hopening : Sound ⟨capacity, [], false, hcapacity⟩
      ({ nesting, policy, clock, relay } : Session κ σ) := by
    refine ⟨hfresh.flowing hstorage, hfresh.kept, ?_, List.forall_mem_nil _,
      List.forall_mem_nil _⟩
    rw [Relay.accepted, hfresh.history]
    rfl
  have hsound := hopening.run turns
  exact ⟨hsound.exists_recorded hnodup hnonneg, hsound.flowing.exists_drained⟩

/-- A fresh relay with room for one event, and an empty ledger for one. -/
def exampleRelay : Relay Unit Unit :=
  { Relay.exampleRelay with storage := .ledger ⟨1, [], false, Nat.one_pos⟩ }

/-- A clock that goes on with every reading. -/
def exampleClock : Clock where
  now := 1771416000123456789
  later := [1771416000123456790, 1771416000123456791]

/-- Two creations are denied, of which the second finds the queue full; a third is skipped; a fourth
is denied, and takes the place of the first in the ledger. -/
def exampleTurns : List Turn :=
  [.start, .job 0, .review (closedCreation "u1"), .review (closedCreation "u2"), .job 0,
    .replace { ignore := some { namespaces := ["prod"] } }, .review (closedCreation "u3"),
    .replace (.closing "prod"), .review (closedCreation "u4"), .job 1]

theorem recorded_run_exampleTurns :
    let s : Session Unit Unit :=
      run ⟨1000, .closing "prod", exampleClock, exampleRelay, []⟩ exampleTurns
    s.readings = [1771416000123456789, 1771416000123456790, 1771416000123456791] ∧
      s.decisions.map (fun d => (d.outcome, d.enqueued)) =
        [(.denied, true), (.denied, false), (.skipped, false), (.denied, true)] ∧
      ∃ l, s.relay.storage = .ledger l ∧ s.Recorded l ∧
        l.ids = ["CREATE-Pod--1771416000123456791"] := by
  intro s
  have hreadings : s.readings =
      [1771416000123456789, 1771416000123456790, 1771416000123456791] := by decide +kernel
  have hdecisions : s.decisions.map (fun d => (d.outcome, d.enqueued)) =
      [(.denied, true), (.denied, false), (.skipped, false), (.denied, true)] := by decide +kernel
  have hids : s.relay.storage.ids = ["CREATE-Pod--1771416000123456791"] := by decide +kernel
  have hfresh : exampleRelay.Fresh := ⟨rfl, rfl, rfl, rfl, rfl⟩
  obtain ⟨⟨l, hledger, -, hrecorded⟩, -⟩ := recorded_run 1000 (.closing "prod") exampleClock hfresh
    rfl exampleTurns (by rw [hreadings]; decide) (by rw [hreadings]; decide)
  rw [hledger] at hids
  exact ⟨hreadings, hdecisions, l, hledger, hrecorded, hids⟩

end Session

end AdmissionLedger
