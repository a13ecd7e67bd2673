import AdmissionLedger.Proofs.Relay.Metering
import AdmissionLedger.Proofs.Review.Session

/-!
# What the counters add up to

Reviews are counted by their outcomes, refused offers and ended attempts to save by
themselves.  Read together, the counters leave out nothing and count nothing twice: each
review has one outcome and one duration, each event that was denied or recorded was
accepted or refused, and each accepted event was saved or not, waits, or is in the hands
of the consumer.

## Main definitions

* `Session.Step`, `Session.steps` — what can happen while nobody stops the consumer.
* `Session.Balanced` — what the counters add up to.

## Main results

* `Session.Accounted.step` — the invariant.
* `Session.balanced_steps` — the counters add up after any steps from zero.
-/

namespace AdmissionLedger.Session

/-- What can happen next while nobody stops the consumer. -/
inductive Step
  /-- A body is reviewed, and the review is counted. -/
  | review (body : Bytes)
  /-- Other rules come into force. -/
  | replace (policy : Policy)
  /-- The relay has a turn in which nothing is offered and nobody stops the consumer. -/
  | relay (t : Relay.Turn) (hinner : t.isInner = true)

variable {κ σ : Type}

/-- A decision, with the counters that it adds to. -/
def counted (result : Decision × Clock × Relay κ σ) : Decision × Clock × Relay κ σ :=
  (result.1, result.2.1, result.2.2.count result.1.counts)

/-- The session after one step. -/
def step (s : Session κ σ) : Step → Session κ σ
  | .review body =>
    s.reviewed (counted (review s.nesting s.policy (some Relay.sink) body s.clock s.relay).value)
  | .replace policy => { s with policy }
  | .relay t _ => { s with relay := s.relay.turn t }

/-- The session after some steps. -/
def steps (s : Session κ σ) (steps : List Step) : Session κ σ :=
  steps.foldl step s

/-- What the counters add up to. -/
structure Balanced (s : Session κ σ) : Prop where
  /-- Every review is counted by its outcome, and by no other. -/
  outcomes : ∀ outcome, s.relay.reading (.reviews outcome) =
    s.decisions.countP (·.outcome = outcome)
  reviews : s.relay.reading (.reviews .denied) + s.relay.reading (.reviews .recorded) +
    s.relay.reading (.reviews .skipped) + s.relay.reading (.reviews .failedOpen) =
      s.reviews.length
  durations : s.relay.reading .reviewDurations = s.reviews.length
  /-- The event of a decision was accepted, or its refusal counted. -/
  offered : s.relay.reading (.reviews .denied) + s.relay.reading (.reviews .recorded) =
    s.relay.accepted.length + s.relay.reading .droppedEvents
  /-- The events that the queue accepted are those that the decisions say it did. -/
  recorded : s.relay.accepted = s.recorded
  /-- What was accepted was saved or not, waits, or is in the hands of the consumer. -/
  accepted : s.relay.accepted.length = s.relay.reading (.savedEvents true) +
    s.relay.reading (.savedEvents false) + s.relay.queue.events.length + s.relay.inHands.length
  alone : s.relay.inHands.length ≤ 1
  /-- Since the first event was accepted, the last measured length of the queue is its length. -/
  depth : s.relay.accepted ≠ [] → s.relay.depth = s.relay.queue.events.length

/-- What every step keeps. -/
structure Accounted (s : Session κ σ) : Prop where
  relay : s.relay.Metered
  outcomes : ∀ outcome, s.relay.reading (.reviews outcome) =
    s.decisions.countP (·.outcome = outcome)
  durations : s.relay.reading .reviewDurations = s.reviews.length
  offered : s.relay.reading (.reviews .denied) + s.relay.reading (.reviews .recorded) =
    s.relay.accepted.length + s.relay.reading .droppedEvents
  recorded : s.relay.accepted = s.recorded

variable {s : Session κ σ}

/-- Every decision has one of the four outcomes. -/
theorem countP_outcomes (decisions : List Decision) :
    decisions.countP (·.outcome = .denied) + decisions.countP (·.outcome = .recorded) +
      decisions.countP (·.outcome = .skipped) + decisions.countP (·.outcome = .failedOpen) =
        decisions.length := by
  induction decisions with
  | nil => rfl
  | cons d decisions ih =>
    simp only [List.countP_cons, List.length_cons, ← ih]
    cases d.outcome <;> simp <;> omega

namespace Accounted

/-- A review keeps what it has to if each event that it counts as denied or recorded was accepted or
its refusal counted. -/
theorem counted (h : s.Accounted) {d : Decision} {clock : Clock} {relay : Relay κ σ}
    (hrelay : relay.Metered)
    (hreading : ∀ c, c ≠ .droppedEvents → relay.reading c = s.relay.reading c)
    (haccepted : relay.accepted = s.relay.accepted ++ if d.enqueued then d.event.toList else [])
    (hoffered : relay.accepted.length + relay.reading .droppedEvents =
      s.relay.accepted.length + s.relay.reading .droppedEvents +
        (d.counts.count (.reviews .denied) + d.counts.count (.reviews .recorded))) :
    (s.reviewed (counted (d, clock, relay))).Accounted := by
  have hcount (c : Counter) : (relay.count d.counts).reading c =
      relay.reading c + d.counts.count c := relay.reading_count d.counts c
  have hreviews (outcome : Outcome) :
      relay.reading (.reviews outcome) = s.relay.reading (.reviews outcome) :=
    hreading _ Counter.noConfusion
  refine ⟨?_, ?_, ?_, ?_, ?_⟩
  · exact hrelay.count (by simp [Decision.counts, Counter.isOfAdmission])
  · intro outcome
    rw [decisions_reviewed, List.countP_append, ← h.outcomes, ← hreviews]
    refine (hcount _).trans (congrArg (relay.reading _ + ·) ?_)
    by_cases heq : d.outcome = outcome <;> simp [Session.counted, Decision.counts, heq]
  · have hone : d.counts.count .reviewDurations = 1 := by simp [Decision.counts]
    refine (hcount _).trans ?_
    rw [hreading _ Counter.noConfusion, h.durations, hone, Session.reviewed, List.length_append]
    rfl
  · have hnone : d.counts.count .droppedEvents = 0 := by simp [Decision.counts]
    have hbefore := h.offered
    show (relay.count d.counts).reading _ + (relay.count d.counts).reading _ =
      (relay.count d.counts).accepted.length + (relay.count d.counts).reading _
    rw [hcount, hcount, hcount, Relay.accepted_count, hnone, hreviews, hreviews]
    omega
  · rw [recorded_reviewed, ← h.recorded]
    exact (relay.accepted_count d.counts).trans haccepted

/-- So does every review. -/
theorem reviewed (h : s.Accounted) {result : Decision × Clock × Relay κ σ}
    (hoffers : result.1.Offers (some Relay.sink) s.clock.now s.relay result.2.2) :
    (s.reviewed (Session.counted result)).Accounted := by
  obtain ⟨d, clock, relay⟩ := result
  cases hoffers with
  | nothing houtcome hevent hanswer =>
    refine h.counted h.relay (fun _ _ => rfl) ?_ ?_
    · rw [hanswer]
      exact (List.append_nil _).symm
    · have hnone :
          d.counts.count (.reviews .denied) + d.counts.count (.reviews .recorded) = 0 := by
        change d.outcome = _ ∨ d.outcome = _ at houtcome
        obtain houtcome | houtcome := houtcome <;> simp [Decision.counts, houtcome]
      rw [hnone]
      rfl
  | event e houtcome hevent hbears hanswer =>
    obtain ⟨hmetered, haccepted, hdropped, hothers⟩ := h.relay.offer e
    have hone : d.counts.count (.reviews .denied) + d.counts.count (.reviews .recorded) = 1 := by
      change d.outcome = _ ∨ d.outcome = _ at houtcome
      obtain houtcome | houtcome := houtcome <;> simp [Decision.counts, houtcome]
    have henqueued : d.enqueued = (s.relay.offer e).value.1 := hanswer
    refine h.counted hmetered hothers ?_ ?_
    · rw [henqueued, hevent]
      exact haccepted
    · -- one more was accepted, or one more refused
      show (s.relay.offer e).value.2.accepted.length +
        (s.relay.offer e).value.2.reading .droppedEvents = _
      rw [hone, haccepted, hdropped, List.length_append]
      cases (s.relay.offer e).value.1 <;> simp <;> omega

/-- Every step keeps the invariant. -/
theorem step (h : s.Accounted) (t : Step) : (s.step t).Accounted := by
  cases t with
  | review body =>
    exact h.reviewed (offers_review s.nesting s.policy (some Relay.sink) body s.clock s.relay)
  | replace policy => exact ⟨h.relay, h.outcomes, h.durations, h.offered, h.recorded⟩
  | relay t hinner =>
    obtain ⟨hinward, haccepted, hmetered⟩ := h.relay.turn hinner
    have hreading {c : Counter} (hc : c.isOfAdmission = true) :
        (s.relay.turn t).reading c = s.relay.reading c := hinward.reading hc
    refine ⟨hmetered, fun outcome => ?_, ?_, ?_, haccepted.trans h.recorded⟩
    · exact (hreading rfl).trans (h.outcomes outcome)
    · exact (hreading rfl).trans h.durations
    · show (s.relay.turn t).reading _ + (s.relay.turn t).reading _ =
        (s.relay.turn t).accepted.length + (s.relay.turn t).reading _
      rw [hreading rfl, hreading rfl, hreading rfl, haccepted]
      exact h.offered

/-- So do all steps. -/
theorem steps (h : s.Accounted) (steps : List Step) : (s.steps steps).Accounted := by
  induction steps generalizing s with
  | nil => exact h
  | cons t steps ih => exact ih (h.step t)

/-- What the invariant says of the counters. -/
theorem balanced (h : s.Accounted) : s.Balanced where
  outcomes := h.outcomes
  reviews := by
    rw [h.outcomes, h.outcomes, h.outcomes, h.outcomes, countP_outcomes]
    exact List.length_map _
  durations := h.durations
  offered := h.offered
  recorded := h.recorded
  accepted := h.relay.length_accepted
  alone := h.relay.length_inHands_le
  depth := h.relay.depth

end Accounted

/-- The counters add up after any steps of a session with a fresh relay that has a store. -/
theorem balanced_steps (nesting : Nat) (policy : Policy) (clock : Clock) {relay : Relay κ σ}
    (hfresh : relay.Fresh) (hstore : relay.storage ≠ .nowhere) (steps : List Step) :
    (Session.steps { nesting, policy, clock, relay } steps).Balanced := by
  have hopening : Accounted ({ nesting, policy, clock, relay } : Session κ σ) := by
    refine ⟨hfresh.metered hstore, fun _ => ?_, ?_, ?_, ?_⟩ <;>
      simp [Relay.reading, Relay.counts, hfresh.history, decisions, Relay.accepted, recorded]
  exact (hopening.steps steps).balanced

/-- The first creation is in the hands of the consumer when two more are denied, of which the second
finds the queue full.  A body that is no review is let through, and a creation is skipped under
other rules.  The store refuses the first event, and the consumer takes the second. -/
def exampleSteps : List Step :=
  [.relay .start rfl, .relay (.job 0) rfl, .review (closedCreation "u1"), .relay (.job 0) rfl,
    .review (closedCreation "u2"), .review (closedCreation "u3"), .review [],
    .replace { ignore := some { namespaces := ["prod"] } }, .review (closedCreation "u4"),
    .relay (.answer (.error "down") 0) rfl, .relay (.job 0) rfl]

theorem balanced_steps_exampleSteps :
    let s : Session Unit Unit :=
      Session.steps ⟨1000, .closing "prod", exampleClock, Relay.exampleRelay, []⟩ exampleSteps
    s.Balanced ∧
      s.decisions.map (fun d => (d.outcome, d.enqueued)) = [(.denied, true), (.denied, true),
        (.denied, false), (.failedOpen, false), (.skipped, false)] ∧
      [.reviews .denied, .reviewDurations, .droppedEvents, .savedEvents false].map s.relay.reading =
        [3, 5, 1, 1] ∧
      s.relay.inHands.length = 1 := by
  intro s
  have hstore : Relay.exampleRelay.storage ≠ .nowhere := fun h => nomatch h
  have hbalanced : s.Balanced :=
    balanced_steps 1000 (.closing "prod") exampleClock Relay.fresh_exampleRelay hstore exampleSteps
  refine ⟨hbalanced, ?_⟩
  decide +kernel

end AdmissionLedger.Session
