import AdmissionLedger.Proofs.Review.Candidate
import AdmissionLedger.Proofs.Rules.Verdict
import AdmissionLedger.Review.Decision

/-!
# The four ways in which a review ends

A body either holds no candidate, and the operation is allowed after a failure, or its
candidate is denied, skipped or recorded, as the rules in force have it.  With a clock
in range nothing can go wrong behind the candidate: what is stamped fits together,
since a block rule always names its pattern.  A sink is offered the event of the
decision, and nothing else; what it answers only shows in `Decision.enqueued`.

## Main definitions

* `candidate?` — the candidate of a body, if it has one.
* `Decided` — the ways through the stages of a decision.
* `Decision.Settles` — what a decision has to do with the candidate, the rules, the clock
  and the sink.

## Main results

* `decided_decide` — every decision takes one of the ways.
* `Event.stamp_eq_ok` — what a candidate is stamped to, with a clock in range.
* `decide_enqueued` — two sinks get the same decision, but for their answers.
* `settles_review` — every review with a clock in range settles its body.
-/

namespace AdmissionLedger

/-- The candidate of a body, if the body holds a request that has one. -/
def candidate? (depth : Nat) (body : Bytes) : Option Event :=
  match Request.ofBytes depth body with
  | .ok r => (Event.ofRequest r).value.toOption
  | .error _ => none

/-! ### Rulings -/

namespace Policy

theorem rule_eq_deny_iff {p : Policy} {e : Event} {pattern message : Text} :
    p.rule e = .deny pattern message ↔ shouldBlock e p.block = .block pattern message := by
  unfold rule
  cases shouldBlock e p.block with
  | pass =>
    cases shouldIgnore e p.ignore <;> simp
  | block pattern' message' => simp

theorem rule_eq_skip_iff {p : Policy} {e : Event} :
    p.rule e = .skip ↔ shouldBlock e p.block = .pass ∧ shouldIgnore e p.ignore = true := by
  unfold rule
  cases shouldBlock e p.block with
  | pass =>
    cases shouldIgnore e p.ignore <;> simp
  | block pattern message => simp

theorem rule_eq_record_iff {p : Policy} {e : Event} :
    p.rule e = .record ↔ shouldBlock e p.block = .pass ∧ shouldIgnore e p.ignore = false := by
  unfold rule
  cases shouldBlock e p.block with
  | pass =>
    cases shouldIgnore e p.ignore <;> simp
  | block pattern message => simp

end Policy

/-! ### Stamps -/

/-- A candidate with identity and time from one reading of the clock, denied or allowed. -/
def Event.stamped (candidate : Event) (ns : Int) (time : Timestamp) (deniedBy : Option Text) :
    Event :=
  { candidate with
    id := eventId candidate.operation.name candidate.resourceKind candidate.name ns
    timestamp := some time
    allowed := deniedBy.isNone
    blockPattern := deniedBy.getD [] }

/-- A stamp leaves the parts of a candidate together, unless it denies by an empty pattern. -/
theorem Event.Consistent.stamped {candidate : Event} (h : candidate.Consistent) (ns : Int)
    (time : Timestamp) {deniedBy : Option Text} (hpattern : deniedBy ≠ some []) :
    (candidate.stamped ns time deniedBy).Consistent where
  patch := h.patch
  snapshot := h.snapshot
  pattern := by
    intro hallowed
    cases deniedBy with
    | none => cases hallowed
    | some pattern => exact fun hnil => hpattern (congrArg some hnil)

/-- Stamping a consistent candidate fails only if the clock is out of range. -/
theorem Event.stamp_of_consistent {candidate : Event} (h : candidate.Consistent) (ns : Int)
    {deniedBy : Option Text} (hpattern : deniedBy ≠ some []) :
    candidate.stamp ns deniedBy = ((Timestamp.ofNanoseconds ns).mapError .timestamp).map
      fun time => candidate.stamped ns time deniedBy := by
  unfold stamp
  cases Timestamp.ofNanoseconds ns with
  | error e => rfl
  | ok time =>
    have hcheck := check_eq_ok_iff.mpr (h.stamped ns time hpattern)
    unfold stamped at hcheck
    simp only [Except.mapError, bind, Except.bind, hcheck]
    rfl

/-- A stamped candidate, with a clock in range. -/
theorem Event.stamp_eq_ok {candidate : Event} (h : candidate.Consistent) {ns : Int}
    {time : Timestamp} (htime : Timestamp.ofNanoseconds ns = .ok time) {deniedBy : Option Text}
    (hpattern : deniedBy ≠ some []) :
    candidate.stamp ns deniedBy = .ok (candidate.stamped ns time deniedBy) := by
  rw [stamp_of_consistent h ns hpattern, htime]
  rfl

/-- What a candidate is stamped to, if it is. -/
theorem Event.eq_stamped_of_stamp {candidate e : Event} {ns : Int} {deniedBy : Option Text}
    (h : candidate.stamp ns deniedBy = .ok e) :
    ∃ time, Timestamp.ofNanoseconds ns = .ok time ∧ e = candidate.stamped ns time deniedBy := by
  obtain ⟨time, htime, hcheck⟩ := Except.bind_eq_ok_iff.mp h
  exact ⟨time, Except.mapError_eq_ok_iff.mp htime,
    Event.eq_of_check (Except.mapError_eq_ok_iff.mp hcheck)⟩

/-! ### The ways through the stages -/

/-- The pattern that a ruling denies by. -/
def Ruling.deniedBy : Ruling → Option Text
  | .deny pattern _ => some pattern
  | .skip | .record => none

theorem Policy.deniedBy_rule_ne_nil (p : Policy) (e : Event) : (p.rule e).deniedBy ≠ some [] := by
  cases hrule : p.rule e with
  | deny pattern message =>
    have hpattern := (ne_nil_of_shouldBlock (Policy.rule_eq_deny_iff.mp hrule)).1
    exact fun h => hpattern (Option.some.inj h)
  | skip => exact fun h => nomatch h
  | record => exact fun h => nomatch h

/-- With a clock in range a candidate can be stamped with what the rules make of it. -/
theorem Policy.stamp_rule (p : Policy) {r : Request} {c : Event}
    (hcandidate : (Event.ofRequest r).value = .ok c) {ns : Int} {time : Timestamp}
    (htime : Timestamp.ofNanoseconds ns = .ok time) : c.stamp ns (p.rule c).deniedBy =
      .ok (c.stamped ns time (p.rule c).deniedBy) :=
  Event.stamp_eq_ok (Event.consistent_of_ofRequest hcandidate) htime (p.deniedBy_rule_ne_nil c)

section

variable {σ τ : Type}

/-- The ways through the stages of a decision, each with what comes of it. -/
inductive Decided (policy : Policy) (sink : Option (Sink σ)) (r : Request) (clock : Clock) (s : σ) :
    Decision × Clock × σ → Prop
  /-- The request has no candidate. -/
  | undecoded (error : CandidateError) (detail : Text)
      (hcandidate : (Event.ofRequest r).value = .error error) :
      Decided policy sink r clock s (.failOpen r.uid detail, clock, s)
  /-- The candidate is not to be skipped but cannot be stamped. -/
  | unstamped (candidate : Event) (error : StampError) (detail : Text)
      (hcandidate : (Event.ofRequest r).value = .ok candidate)
      (hrule : policy.rule candidate ≠ .skip)
      (hstamp : candidate.stamp clock.now (policy.rule candidate).deniedBy = .error error) :
      Decided policy sink r clock s (.failOpen r.uid detail, clock.next, s)
  | denied (candidate event : Event) (pattern message : Text)
      (hcandidate : (Event.ofRequest r).value = .ok candidate)
      (hrule : policy.rule candidate = .deny pattern message)
      (hstamp : candidate.stamp clock.now (some pattern) = .ok event) :
      Decided policy sink r clock s
        (⟨r.uid, false, .denied, message, some event, (Sink.offerTo sink event s).value.1⟩,
          clock.next, (Sink.offerTo sink event s).value.2)
  | skipped (candidate : Event)
      (hcandidate : (Event.ofRequest r).value = .ok candidate)
      (hrule : policy.rule candidate = .skip) :
      Decided policy sink r clock s (⟨r.uid, true, .skipped, [], none, false⟩, clock, s)
  | recorded (candidate event : Event)
      (hcandidate : (Event.ofRequest r).value = .ok candidate)
      (hrule : policy.rule candidate = .record)
      (hstamp : candidate.stamp clock.now none = .ok event) :
      Decided policy sink r clock s
        (⟨r.uid, true, .recorded, [], some event, (Sink.offerTo sink event s).value.1⟩,
          clock.next, (Sink.offerTo sink event s).value.2)

/-- A candidate that is to be stamped fails open if it cannot be, and else its event is offered. -/
theorem Decision.stampAndOffer_cases (sink : Option (Sink σ)) (clock : Clock) (s : σ) (uid : Text)
    (candidate : Event) (deniedBy : Option Text) (stage : Stage) (entry : Event → Log.Entry)
    (answer : Decision) :
    let stamped := (stampAndOffer sink clock s uid candidate deniedBy stage entry answer).value
    (∃ error detail, candidate.stamp clock.now deniedBy = .error error ∧
      stamped = (.failOpen uid detail, clock.next, s)) ∨
    (∃ event, candidate.stamp clock.now deniedBy = .ok event ∧
      stamped = ({ answer with
        event := some event
        enqueued := (Sink.offerTo sink event s).value.1 },
          clock.next, (Sink.offerTo sink event s).value.2)) := by
  intro stamped
  simp only [stamped, stampAndOffer]
  cases candidate.stamp clock.now deniedBy with
  | error error => exact .inl ⟨error, _, rfl, rfl⟩
  | ok event => exact .inr ⟨event, rfl, rfl⟩

/-- Every decision takes one of the ways. -/
theorem decided_decide (policy : Policy) (sink : Option (Sink σ)) (r : Request) (clock : Clock)
    (s : σ) : Decided policy sink r clock s (decide policy sink r clock s).value := by
  rw [decide, Logged.value_bind]
  cases hcandidate : (Event.ofRequest r).value with
  | error error =>
    dsimp only
    split
    · exact .undecoded error error.message hcandidate
    · exact .undecoded error _ hcandidate
  | ok candidate =>
    dsimp only
    -- behind a candidate only the stamp can fail, and only what is not skipped is stamped
    cases hrule : policy.rule candidate with
    | deny pattern message =>
      dsimp only
      obtain ⟨error, detail, hstamp, hvalue⟩ | ⟨event, hstamp, hvalue⟩ :=
        Decision.stampAndOffer_cases sink clock s r.uid candidate (some pattern) .blockChecked
          Event.deniedEntry ⟨r.uid, false, .denied, message, none, false⟩
      · rw [hvalue]
        refine .unstamped candidate error detail hcandidate ?_ ?_ <;> rw [hrule]
        · exact fun h => nomatch h
        · exact hstamp
      · rw [hvalue]
        exact .denied candidate event pattern message hcandidate hrule hstamp
    | skip => exact .skipped candidate hcandidate hrule
    | record =>
      dsimp only
      obtain ⟨error, detail, hstamp, hvalue⟩ | ⟨event, hstamp, hvalue⟩ :=
        Decision.stampAndOffer_cases sink clock s r.uid candidate none .ignoreChecked
          Event.recordedEntry ⟨r.uid, true, .recorded, [], none, false⟩
      · rw [hvalue]
        refine .unstamped candidate error detail hcandidate ?_ ?_ <;> rw [hrule]
        · exact fun h => nomatch h
        · exact hstamp
      · rw [hvalue]
        exact .recorded candidate event hcandidate hrule hstamp

section

variable {policy : Policy} {sink : Option (Sink σ)} {r : Request} {clock : Clock} {s : σ}
  {result : Decision × Clock × σ}

/-- Whatever way a decision takes, it refuses exactly what it calls denied. -/
theorem Decided.allowed_eq_false_iff (h : Decided policy sink r clock s result) :
    result.1.allowed = false ↔ result.1.outcome = .denied := by
  cases h <;> simp [Decision.failOpen]

/-- A denial tells the requester what the block rules say. -/
theorem Decided.message_of_denied (h : Decided policy sink r clock s result)
    (hdenied : result.1.outcome = .denied) :
    ∃ rules, policy.block = some rules ∧ result.1.message = rules.effectiveMessage := by
  cases h with
  | denied c event pattern message hcandidate hrule =>
    obtain ⟨rules, hrules, -, -, hmessage⟩ :=
      exists_of_shouldBlock (Policy.rule_eq_deny_iff.mp hrule)
    exact ⟨rules, hrules, hmessage⟩
  | undecoded => cases hdenied
  | unstamped => cases hdenied
  | skipped => cases hdenied
  | recorded => cases hdenied

end

/-- Two sinks get the same decision, but for their answers. -/
theorem decide_enqueued (policy : Policy) (sink : Option (Sink σ)) (sink' : Option (Sink τ))
    (r : Request) (clock : Clock) (s : σ) (t : τ) :
    { (decide policy sink r clock s).value.1 with
      enqueued := (decide policy sink' r clock t).value.1.enqueued } =
      (decide policy sink' r clock t).value.1 := by
  rw [decide, decide, Logged.value_bind, Logged.value_bind]
  cases (Event.ofRequest r).value with
  | error error =>
    dsimp only
    split <;> rfl
  | ok candidate =>
    dsimp only
    cases policy.rule candidate with
    | deny pattern message =>
      simp only [Decision.stampAndOffer]
      cases candidate.stamp clock.now (some pattern) <;> rfl
    | skip => rfl
    | record =>
      simp only [Decision.stampAndOffer]
      cases candidate.stamp clock.now none <;> rfl

/-! ### Reviews -/

/-- A review refuses exactly what it calls denied, whatever the clock. -/
theorem review_allowed_eq_false_iff (depth : Nat) (policy : Policy) (sink : Option (Sink σ))
    (body : Bytes) (clock : Clock) (s : σ) :
    (review depth policy sink body clock s).value.1.allowed = false ↔
      (review depth policy sink body clock s).value.1.outcome = .denied := by
  unfold review
  cases Request.ofBytes depth body with
  | error failure => exact iff_of_false (fun h => nomatch h) (fun h => nomatch h)
  | ok r => exact (decided_decide policy sink r clock s).allowed_eq_false_iff

theorem review_message_of_denied {depth : Nat} {policy : Policy} {sink : Option (Sink σ)}
    {body : Bytes} {clock : Clock} {s : σ}
    (hdenied : (review depth policy sink body clock s).value.1.outcome = .denied) :
    ∃ rules, policy.block = some rules ∧
      (review depth policy sink body clock s).value.1.message = rules.effectiveMessage := by
  unfold review at hdenied ⊢
  cases hbody : Request.ofBytes depth body with
  | error failure => rw [hbody] at hdenied; cases hdenied
  | ok r =>
    rw [hbody] at hdenied
    exact (decided_decide policy sink r clock s).message_of_denied hdenied

/-- What a decision has to do with the candidate of its body, the rules in force, the clock and the
sink, and what is left of the latter two. -/
structure Decision.Settles (depth : Nat) (policy : Policy) (sink : Option (Sink σ)) (body : Bytes)
    (clock : Clock) (s : σ) (time : Timestamp) (d : Decision) (clock' : Clock) (s' : σ) : Prop where
  failedOpen : d.outcome = .failedOpen ↔ candidate? depth body = none
  denied : d.outcome = .denied ↔
    ∃ c, candidate? depth body = some c ∧ shouldBlock c policy.block ≠ .pass
  skipped : d.outcome = .skipped ↔ ∃ c, candidate? depth body = some c ∧
    shouldBlock c policy.block = .pass ∧ shouldIgnore c policy.ignore = true
  recorded : d.outcome = .recorded ↔ ∃ c, candidate? depth body = some c ∧
    shouldBlock c policy.block = .pass ∧ shouldIgnore c policy.ignore = false
  allowed : d.allowed = false ↔ d.outcome = .denied
  /-- A failure is told as one. -/
  marked : d.outcome = .failedOpen → failOpenMark <+: d.message
  /-- Without a failure only a denial has a message. -/
  told : d.outcome ≠ .failedOpen → (d.message ≠ [] ↔ d.outcome = .denied)
  isSome_event : d.event.isSome = true ↔ d.outcome = .denied ∨ d.outcome = .recorded
  /-- The event is the candidate, stamped with one reading of the clock and with the decision. -/
  event : ∀ e, d.event = some e → ∃ c, candidate? depth body = some c ∧
    e = { c with
      id := eventId c.operation.name c.resourceKind c.name clock.now
      timestamp := some time
      allowed := d.allowed
      blockPattern := e.blockPattern }
  pattern : ∀ e, d.event = some e → (e.blockPattern ≠ [] ↔ d.outcome = .denied)
  /-- A denial gives the pattern and the message of the block rules. -/
  matched : d.outcome = .denied → ∃ c e, candidate? depth body = some c ∧ d.event = some e ∧
    shouldBlock c policy.block = .block e.blockPattern d.message
  checked : ∀ e, d.event = some e → e.check = .ok e
  /-- The sink is offered the event of the decision, once, and nothing without one. -/
  offered : (d.enqueued, s') = match d.event with
    | some e => (Sink.offerTo sink e s).value
    | none => (false, s)
  clock : clock' = if d.event.isSome then clock.next else clock

variable {depth : Nat} {policy : Policy} {sink : Option (Sink σ)} {body : Bytes} {clock : Clock}
  {s : σ} {time : Timestamp}

theorem settles_failOpen (hcandidate : candidate? depth body = none) (uid detail : Text) :
    (Decision.failOpen uid detail).Settles depth policy sink body clock s time clock s where
  failedOpen := iff_of_true rfl hcandidate
  denied := by simp [Decision.failOpen, hcandidate]
  skipped := by simp [Decision.failOpen, hcandidate]
  recorded := by simp [Decision.failOpen, hcandidate]
  allowed := by simp [Decision.failOpen]
  marked := fun _ => List.prefix_append _ _
  told := fun h => absurd rfl h
  isSome_event := by simp [Decision.failOpen]
  event := fun _ h => nomatch h
  pattern := fun _ h => nomatch h
  matched := fun h => nomatch h
  checked := fun _ h => nomatch h
  offered := rfl
  clock := rfl

theorem settles_denied {c : Event} (hcandidate : candidate? depth body = some c) (hc : c.Consistent)
    {pattern message : Text} (hrule : policy.rule c = .deny pattern message) (uid : Text)
    {d : Decision} (hd : d = ⟨uid, false, .denied, message,
      some (c.stamped clock.now time (some pattern)),
      (Sink.offerTo sink (c.stamped clock.now time (some pattern)) s).value.1⟩) :
    d.Settles depth policy sink body clock s time clock.next
      (Sink.offerTo sink (c.stamped clock.now time (some pattern)) s).value.2 := by
  have hblock := Policy.rule_eq_deny_iff.mp hrule
  obtain ⟨hpattern, hmessage⟩ := ne_nil_of_shouldBlock hblock
  have hcheck : (c.stamped clock.now time (some pattern)).check = .ok _ :=
    Event.check_eq_ok_iff.mpr (hc.stamped clock.now time fun h => hpattern (Option.some.inj h))
  subst hd
  exact {
    failedOpen := by simp [hcandidate]
    denied := by simp [hcandidate, hblock]
    skipped := by simp [hcandidate, hblock]
    recorded := by simp [hcandidate, hblock]
    allowed := iff_of_true rfl rfl
    marked := fun h => nomatch h
    told := fun _ => iff_of_true hmessage rfl
    isSome_event := iff_of_true rfl (.inl rfl)
    event := by
      rintro e ⟨⟩
      exact ⟨c, hcandidate, rfl⟩
    pattern := by
      rintro e ⟨⟩
      exact iff_of_true hpattern rfl
    matched := fun _ => ⟨c, _, hcandidate, rfl, hblock⟩
    checked := by
      rintro e ⟨⟩
      exact hcheck
    offered := rfl
    clock := rfl }

theorem settles_skipped {c : Event} (hcandidate : candidate? depth body = some c)
    (hrule : policy.rule c = .skip) (uid : Text) :
    (⟨uid, true, .skipped, [], none, false⟩ : Decision).Settles
      depth policy sink body clock s time clock s := by
  obtain ⟨hblock, hignore⟩ := Policy.rule_eq_skip_iff.mp hrule
  exact {
    failedOpen := by simp [hcandidate]
    denied := by simp [hcandidate, hblock]
    skipped := by simp [hcandidate, hblock, hignore]
    recorded := by simp [hcandidate, hblock, hignore]
    allowed := by simp
    marked := fun h => nomatch h
    told := by simp
    isSome_event := by simp
    event := fun _ h => nomatch h
    pattern := fun _ h => nomatch h
    matched := fun h => nomatch h
    checked := fun _ h => nomatch h
    offered := rfl
    clock := rfl }

theorem settles_recorded {c : Event} (hcandidate : candidate? depth body = some c)
    (hc : c.Consistent) (hrule : policy.rule c = .record) (uid : Text) {d : Decision}
    (hd : d = ⟨uid, true, .recorded, [], some (c.stamped clock.now time none),
      (Sink.offerTo sink (c.stamped clock.now time none) s).value.1⟩) :
    d.Settles depth policy sink body clock s time clock.next
      (Sink.offerTo sink (c.stamped clock.now time none) s).value.2 := by
  obtain ⟨hblock, hignore⟩ := Policy.rule_eq_record_iff.mp hrule
  have hcheck : (c.stamped clock.now time none).check = .ok _ :=
    Event.check_eq_ok_iff.mpr (hc.stamped clock.now time fun h => nomatch h)
  subst hd
  exact {
    failedOpen := by simp [hcandidate]
    denied := by simp [hcandidate, hblock]
    skipped := by simp [hcandidate, hblock, hignore]
    recorded := by simp [hcandidate, hblock, hignore]
    allowed := by simp
    marked := fun h => nomatch h
    told := by simp
    isSome_event := iff_of_true rfl (.inr rfl)
    event := by
      rintro e ⟨⟩
      exact ⟨c, hcandidate, rfl⟩
    pattern := by
      rintro e ⟨⟩
      exact iff_of_false (fun h => h rfl) (fun h => nomatch h)
    matched := fun h => nomatch h
    checked := by
      rintro e ⟨⟩
      exact hcheck
    offered := rfl
    clock := rfl }

/-- Every way through the stages settles the body of the request, with a clock in range. -/
theorem Decided.settles {r : Request} (hbody : Request.ofBytes depth body = .ok r)
    (htime : Timestamp.ofNanoseconds clock.now = .ok time) {result : Decision × Clock × σ}
    (h : Decided policy sink r clock s result) :
    result.1.Settles depth policy sink body clock s time result.2.1 result.2.2 := by
  have hcandidate? : candidate? depth body = (Event.ofRequest r).value.toOption := by
    rw [candidate?, hbody]
  cases h with
  | undecoded error detail hcandidate =>
    rw [hcandidate] at hcandidate?
    exact settles_failOpen hcandidate? r.uid detail
  -- the clock is in range, so that this way is not taken
  | unstamped c error detail hcandidate hrule hstamp =>
    rw [policy.stamp_rule hcandidate htime] at hstamp
    cases hstamp
  | denied c event pattern message hcandidate hrule hstamp =>
    have hok := policy.stamp_rule hcandidate htime
    rw [hrule] at hok
    cases hok.symm.trans hstamp
    rw [hcandidate] at hcandidate?
    exact settles_denied hcandidate? (Event.consistent_of_ofRequest hcandidate) hrule r.uid rfl
  | skipped c hcandidate hrule =>
    rw [hcandidate] at hcandidate?
    exact settles_skipped hcandidate? hrule r.uid
  | recorded c event hcandidate hrule hstamp =>
    have hok := policy.stamp_rule hcandidate htime
    rw [hrule] at hok
    cases hok.symm.trans hstamp
    rw [hcandidate] at hcandidate?
    exact settles_recorded hcandidate? (Event.consistent_of_ofRequest hcandidate) hrule r.uid rfl

/-- Every review with a clock in range settles its body: it denies exactly what a block rule
matches, skips exactly what only an ignore rule matches, records all other candidates, and fails
open exactly without a candidate.  No check of an event ever gets in between, and another sink
changes nothing but `Decision.enqueued`. -/
theorem settles_review (depth : Nat) (policy : Policy) (sink : Option (Sink σ)) (body : Bytes)
    (clock : Clock) (s : σ) {time : Timestamp}
    (htime : Timestamp.ofNanoseconds clock.now = .ok time) :
    let result := (review depth policy sink body clock s).value
    result.1.Settles depth policy sink body clock s time result.2.1 result.2.2 ∧
      (∀ r x, Request.ofBytes depth body = .ok r →
        (Event.ofRequest r).value ≠ .error (.inconsistent x)) ∧
      ∀ (τ : Type) (sink' : Option (Sink τ)) (t : τ),
        let d' := (review depth policy sink' body clock t).value.1
        { result.1 with enqueued := d'.enqueued } = d' := by
  refine ⟨?_, fun r x _ => Event.ofRequest_ne_inconsistent r x, ?_⟩
  · unfold review
    cases hbody : Request.ofBytes depth body with
    | error failure =>
      have hcandidate : candidate? depth body = none := by rw [candidate?, hbody]
      exact settles_failOpen hcandidate failure.2 failure.1.message
    | ok r => exact (decided_decide policy sink r clock s).settles hbody htime
  · intro τ sink' t
    unfold review
    cases Request.ofBytes depth body with
    | error failure => rfl
    | ok r => exact decide_enqueued policy sink sink' r clock s t

/-- A sink that accepts and keeps what it is offered. -/
def Sink.keeping : Sink (List Event) where
  offer e kept := .quiet (true, kept ++ [e])

/-- A policy that closes one namespace. -/
def Policy.closing (scope : Text) : Policy where
  block := some { namespaces := [scope] }

/-- A clock in range. -/
def Clock.exampleReading : Clock where
  now := 1771416000123456789

theorem Clock.inRange_exampleReading :
    Timestamp.ofNanoseconds Clock.exampleReading.now = .ok ⟨1771416000123457⟩ := by
  rfl

/-- The body of a review of a creation in a closed namespace, with an identity as it is written. -/
def closedCreation (uid : Text) : Bytes :=
  (Text.ofString "\x7b\"apiVersion\":\"admission.k8s.io/v1\",\"request\":\x7b\"uid\":\"" ++ uid ++
    Text.ofString "\",\"kind\":\x7b\"kind\":\"Pod\"\x7d,\"namespace\":\"prod\"," ++
    Text.ofString "\"operation\":\"CREATE\"\x7d\x7d").flatMap CodePoint.utf8Bytes

theorem settles_review_closedCreation :
    let result := (review 1000 (.closing "prod") (some .keeping) (closedCreation "u1")
      .exampleReading []).value
    result.1.Settles 1000 (.closing "prod") (some .keeping) (closedCreation "u1") .exampleReading []
        ⟨1771416000123457⟩ result.2.1 result.2.2 ∧
      (result.1.outcome, result.2.2.map Event.allowed) = (.denied, [false]) ∧
      (result.1.event.map fun e => (e.id, e.timestamp)) =
        some (Text.ofString "CREATE-Pod--1771416000123456789",
          some (⟨1771416000123457⟩ : Timestamp)) := by
  have hsettles := (settles_review 1000 (.closing "prod") (some .keeping) (closedCreation "u1")
    .exampleReading [] Clock.inRange_exampleReading).1
  exact And.intro hsettles (by decide +kernel)

end

end AdmissionLedger
