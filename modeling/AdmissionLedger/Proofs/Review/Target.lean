import AdmissionLedger.Proofs.Review.Decision

/-!
# What a decision looks at

The rules look at the target of a request alone: the operation, and the kind, namespace
and name of the resource.  What the request carries can make a difference in one way
only.  The deletion of a Secret with a text that has no bytes has no candidate, so the
operation is allowed even if a block rule matches its target; all other requests with
objects are decided by their target.

## Main definitions

* `Event.SameTarget`, `Request.SameTarget` — the same operation on the same resource.
* `Request.target` — the candidate of a request without what it carries.
* `Policy.Blocks` — a block rule matches the target of a request.

## Main results

* `Policy.rule_eq_of_sameTarget` — the rules do not tell two events with one target apart.
* `outcome_of_not_unhashable`, `outcome_of_unhashable` — the outcome of a request.
* `outcome_eq_iff_of_sameTarget` — when two requests with one target end in the same way, and
  when a request whose target a block rule matches is denied.
-/

namespace AdmissionLedger

/-! ### Rules and targets -/

/-- Two events are about the same operation on the same resource. -/
structure Event.SameTarget (e e' : Event) : Prop where
  operation : e.operation = e'.operation
  resourceKind : e.resourceKind = e'.resourceKind
  scope : e.scope = e'.scope
  name : e.name = e'.name

theorem shouldBlock_eq_of_sameTarget {e e' : Event} (h : e.SameTarget e')
    (rules? : Option BlockRules) : shouldBlock e rules? = shouldBlock e' rules? := by
  cases rules? with
  | none => rfl
  | some rules =>
    simp only [shouldBlock, Patterns.firstMatch]
    rw [h.operation, h.scope, h.name, h.resourceKind]

theorem shouldIgnore_eq_of_sameTarget {e e' : Event} (h : e.SameTarget e')
    (rules? : Option IgnoreRules) : shouldIgnore e rules? = shouldIgnore e' rules? := by
  cases rules? with
  | none => rfl
  | some rules =>
    simp only [shouldIgnore]
    rw [h.scope, h.name, h.resourceKind]

/-- The rules do not tell two events with one target apart. -/
theorem Policy.rule_eq_of_sameTarget (p : Policy) {e e' : Event} (h : e.SameTarget e') :
    p.rule e = p.rule e' := by
  unfold rule
  rw [shouldBlock_eq_of_sameTarget h, shouldIgnore_eq_of_sameTarget h]

namespace Request

/-- The candidate of a request without what it carries. -/
def target (r : Request) (op : Operation) : Event :=
  r.candidate op [] none

theorem sameTarget_candidate (r : Request) (op : Operation) (patch : Patch)
    (snapshot : Option Tree) : (r.candidate op patch snapshot).SameTarget (r.target op) :=
  ⟨rfl, rfl, rfl, rfl⟩

/-- Two requests name the same operation on the same resource.  The deletion of a resource without
a name takes the name from its object. -/
structure SameTarget (r₁ r₂ : Request) : Prop where
  operation : r₁.operation = r₂.operation
  kind : r₁.kind.kind = r₂.kind.kind
  scope : r₁.scope = r₂.scope
  name : r₁.name = r₂.name
  metadataName : Operation.ofRequest? r₁.operation = some .delete → r₁.name = [] →
    r₁.oldObject.metadataName = r₂.oldObject.metadataName

theorem SameTarget.resourceName_eq {r₁ r₂ : Request} (h : r₁.SameTarget r₂) {op : Operation}
    (hop : Operation.ofRequest? r₁.operation = some op) :
    r₁.resourceName op = r₂.resourceName op := by
  unfold resourceName
  rw [← h.name]
  split
  · -- the name is taken from the object, which need only be alike in this case
    next hdelete =>
    rw [Bool.and_eq_true, decide_eq_true_eq, List.isEmpty_iff] at hdelete
    obtain ⟨rfl, hname⟩ := hdelete
    exact h.metadataName hop hname
  · rfl

theorem SameTarget.target {r₁ r₂ : Request} (h : r₁.SameTarget r₂) {op : Operation}
    (hop : Operation.ofRequest? r₁.operation = some op) :
    (r₁.target op).SameTarget (r₂.target op) :=
  ⟨rfl, h.kind, h.scope, h.resourceName_eq hop⟩

end Request

/-- A block rule matches the target of a request. -/
def Policy.Blocks (p : Policy) (r : Request) : Prop :=
  ∃ op, Operation.ofRequest? r.operation = some op ∧ shouldBlock (r.target op) p.block ≠ .pass

/-! ### Outcomes -/

/-- How a review ends that gets as far as a ruling. -/
def Ruling.outcome : Ruling → Outcome
  | .deny .. => .denied
  | .skip => .skipped
  | .record => .recorded

theorem Policy.outcome_rule_ne_failedOpen (p : Policy) (e : Event) :
    (p.rule e).outcome ≠ .failedOpen := by
  cases p.rule e <;> exact fun h => nomatch h

theorem Policy.outcome_rule_eq_denied_iff {p : Policy} {e : Event} :
    (p.rule e).outcome = .denied ↔ shouldBlock e p.block ≠ .pass := by
  unfold rule
  cases shouldBlock e p.block with
  | pass => cases shouldIgnore e p.ignore <;> simp [Ruling.outcome]
  | block pattern message => simp [Ruling.outcome]

section

variable {σ : Type} {policy : Policy} {sink : Option (Sink σ)} {clock : Clock} {s : σ}
  {r : Request}

/-- A request without a candidate is allowed after a failure. -/
theorem Decided.outcome_of_error {result : Decision × Clock × σ}
    (h : Decided policy sink r clock s result) {error : CandidateError}
    (herror : (Event.ofRequest r).value = .error error) : result.1.outcome = .failedOpen := by
  cases h with
  | undecoded => rfl
  | unstamped => rfl
  | denied c event pattern message hcandidate => rw [herror] at hcandidate; cases hcandidate
  | skipped c hcandidate => rw [herror] at hcandidate; cases hcandidate
  | recorded c event hcandidate => rw [herror] at hcandidate; cases hcandidate

/-- With a clock in range a request ends as its candidate is ruled. -/
theorem Decided.outcome_of_ok {result : Decision × Clock × σ}
    (h : Decided policy sink r clock s result) {candidate : Event}
    (hok : (Event.ofRequest r).value = .ok candidate) {time : Timestamp}
    (htime : Timestamp.ofNanoseconds clock.now = .ok time) :
    result.1.outcome = (policy.rule candidate).outcome := by
  cases h with
  | undecoded error detail hcandidate => rw [hok] at hcandidate; cases hcandidate
  | unstamped c error detail hcandidate hrule hstamp =>
    rw [policy.stamp_rule hcandidate htime] at hstamp
    cases hstamp
  | denied c event pattern message hcandidate hrule =>
    cases hok.symm.trans hcandidate
    rw [hrule]
    rfl
  | skipped c hcandidate hrule =>
    cases hok.symm.trans hcandidate
    rw [hrule]
    rfl
  | recorded c event hcandidate hrule =>
    cases hok.symm.trans hcandidate
    rw [hrule]
    rfl

/-- A request that names no operation is allowed after a failure. -/
theorem outcome_of_unsupported (hop : Operation.ofRequest? r.operation = none) :
    (decide policy sink r clock s).value.1.outcome = .failedOpen := by
  have herror : (Event.ofRequest r).value = .error (.unsupportedOperation r.operation) := by
    simp only [Event.ofRequest, hop, Logged.value_pure]
  exact (decided_decide policy sink r clock s).outcome_of_error herror

/-- A request with a payload that has no digest is allowed after a failure. -/
theorem outcome_of_unhashable (hobjects : r.CarriesObjects) (hun : r.Unhashable) :
    (decide policy sink r clock s).value.1.outcome = .failedOpen := by
  obtain ⟨hnot, -⟩ | ⟨-, x, hx⟩ := Event.ofRequest_value_of_carriesObjects hun.deletion hobjects
  · exact absurd hun hnot
  · exact (decided_decide policy sink r clock s).outcome_of_error hx

/-- All other requests that carry objects end as their target is ruled. -/
theorem outcome_of_not_unhashable {op : Operation}
    (hop : Operation.ofRequest? r.operation = some op) (hobjects : r.CarriesObjects)
    (hun : ¬ r.Unhashable) {time : Timestamp}
    (htime : Timestamp.ofNanoseconds clock.now = .ok time) :
    (decide policy sink r clock s).value.1.outcome = (policy.rule (r.target op)).outcome := by
  obtain ⟨c, hc⟩ := Event.exists_ofRequest_iff.mpr ⟨⟨op, hop⟩, hobjects, hun⟩
  obtain ⟨op', patch, snapshot, hop', -, -, rfl⟩ := Event.ofRequest_eq_ok hc
  cases hop.symm.trans hop'
  rw [(decided_decide policy sink r clock s).outcome_of_ok hc htime,
    policy.rule_eq_of_sameTarget (r.sameTarget_candidate op patch snapshot)]

/-- A request whose target a block rule matches is denied unless its payload has no digest. -/
theorem outcome_eq_denied_iff (hobjects : r.CarriesObjects) {time : Timestamp}
    (htime : Timestamp.ofNanoseconds clock.now = .ok time) :
    (decide policy sink r clock s).value.1.outcome = .denied ↔
      policy.Blocks r ∧ ¬ r.Unhashable := by
  cases hop : Operation.ofRequest? r.operation with
  | none =>
    rw [outcome_of_unsupported hop]
    simp [Policy.Blocks, hop]
  | some op =>
    have hblocks : policy.Blocks r ↔ shouldBlock (r.target op) policy.block ≠ .pass := by
      simp [Policy.Blocks, hop]
    by_cases hun : r.Unhashable
    · rw [outcome_of_unhashable hobjects hun]
      simp [hun]
    · rw [outcome_of_not_unhashable hop hobjects hun htime, Policy.outcome_rule_eq_denied_iff,
        hblocks]
      simp [hun]

/-! ### Two requests with one target -/

theorem Request.SameTarget.blocks_iff {r₁ r₂ : Request} (h : r₁.SameTarget r₂) :
    policy.Blocks r₁ ↔ policy.Blocks r₂ := by
  unfold Policy.Blocks
  rw [← h.operation]
  constructor
  · rintro ⟨op, hop, hblock⟩
    rw [shouldBlock_eq_of_sameTarget (h.target hop)] at hblock
    exact ⟨op, hop, hblock⟩
  · rintro ⟨op, hop, hblock⟩
    rw [← shouldBlock_eq_of_sameTarget (h.target hop)] at hblock
    exact ⟨op, hop, hblock⟩

/-- Two requests with one target that carry objects end in the same way, unless just one of them
has a payload without a digest. -/
theorem outcome_eq_iff {r₁ r₂ : Request} (h : r₁.SameTarget r₂) (h₁ : r₁.CarriesObjects)
    (h₂ : r₂.CarriesObjects) {time : Timestamp}
    (htime : Timestamp.ofNanoseconds clock.now = .ok time) :
    (decide policy sink r₁ clock s).value.1.outcome =
        (decide policy sink r₂ clock s).value.1.outcome ↔
      (r₁.Unhashable ↔ r₂.Unhashable) := by
  cases hop : Operation.ofRequest? r₁.operation with
  | none =>
    have hop' : Operation.ofRequest? r₂.operation = none := h.operation ▸ hop
    have hun : ¬ r₁.Unhashable := fun hun => nomatch hop.symm.trans hun.deletion
    have hun' : ¬ r₂.Unhashable := fun hun => nomatch hop'.symm.trans hun.deletion
    rw [outcome_of_unsupported hop, outcome_of_unsupported hop']
    exact iff_of_true rfl (iff_of_false hun hun')
  | some op =>
    have hop' : Operation.ofRequest? r₂.operation = some op := h.operation ▸ hop
    -- a request with an unhashable payload fails open, and no ruling does
    by_cases hun : r₁.Unhashable
    · rw [outcome_of_unhashable h₁ hun]
      by_cases hun' : r₂.Unhashable
      · rw [outcome_of_unhashable h₂ hun']
        exact iff_of_true rfl (iff_of_true hun hun')
      · rw [outcome_of_not_unhashable hop' h₂ hun' htime]
        refine iff_of_false ?_ fun hiff => hun' (hiff.mp hun)
        exact (policy.outcome_rule_ne_failedOpen _).symm
    · rw [outcome_of_not_unhashable hop h₁ hun htime]
      by_cases hun' : r₂.Unhashable
      · rw [outcome_of_unhashable h₂ hun']
        refine iff_of_false ?_ fun hiff => hun (hiff.mpr hun')
        exact policy.outcome_rule_ne_failedOpen _
      · rw [outcome_of_not_unhashable hop' h₂ hun' htime,
          policy.rule_eq_of_sameTarget (h.target hop)]
        exact iff_of_true rfl (iff_of_false hun hun')

/-- What two requests with one target carry makes a difference only if just one of them has a
payload without a digest: then they end differently, and the one with the digest alone is refused
if a block rule matches.  A request whose target a block rule matches is denied exactly if its
payload has a digest. -/
theorem outcome_eq_iff_of_sameTarget (policy : Policy) (sink : Option (Sink σ)) (clock : Clock)
    (s : σ) {r₁ r₂ : Request} (h : r₁.SameTarget r₂) (h₁ : r₁.CarriesObjects)
    (h₂ : r₂.CarriesObjects) {time : Timestamp}
    (htime : Timestamp.ofNanoseconds clock.now = .ok time) :
    let d₁ := (decide policy sink r₁ clock s).value.1
    let d₂ := (decide policy sink r₂ clock s).value.1
    (d₁.outcome = d₂.outcome ↔ (r₁.Unhashable ↔ r₂.Unhashable)) ∧
      (d₁.allowed = d₂.allowed ↔ (r₁.Unhashable ↔ r₂.Unhashable) ∨ ¬ policy.Blocks r₁) ∧
      (d₁.outcome = .denied ↔ policy.Blocks r₁ ∧ ¬ r₁.Unhashable) ∧
      (r₁.Unhashable → d₁.outcome = .failedOpen ∧ d₁.allowed = true) := by
  intro d₁ d₂
  have hallowed₁ : d₁.allowed = false ↔ policy.Blocks r₁ ∧ ¬ r₁.Unhashable :=
    (decided_decide policy sink r₁ clock s).allowed_eq_false_iff.trans
      (outcome_eq_denied_iff h₁ htime)
  have hallowed₂ : d₂.allowed = false ↔ policy.Blocks r₁ ∧ ¬ r₂.Unhashable := by
    rw [h.blocks_iff]
    exact (decided_decide policy sink r₂ clock s).allowed_eq_false_iff.trans
      (outcome_eq_denied_iff h₂ htime)
  refine ⟨outcome_eq_iff h h₁ h₂ htime, ?_, outcome_eq_denied_iff h₁ htime, ?_⟩
  · have hflags : d₁.allowed = d₂.allowed ↔ (d₁.allowed = false ↔ d₂.allowed = false) := by
      cases d₁.allowed <;> cases d₂.allowed <;> simp
    rw [hflags, hallowed₁, hallowed₂]
    by_cases hblocks : policy.Blocks r₁
    · simp only [hblocks, true_and, not_true, or_false]
      exact not_iff_not
    · simp [hblocks]
  · intro hun
    refine ⟨outcome_of_unhashable h₁ hun, ?_⟩
    rw [← Bool.not_eq_false, hallowed₁]
    exact fun hdenied => hdenied.2 hun

/-- The deletion of a Secret with one entry. -/
def Request.exampleDeletion (secret : Text) : Request where
  uid := "u1"
  kind := { kind := Tree.sensitiveKind }
  name := "s"
  scope := "prod"
  operation := "DELETE"
  oldObject := .record [("data", .record [("password", .str secret)])]

theorem Request.payloads_exampleDeletion (secret : Text) :
    ((exampleDeletion secret).oldObject.withoutNoise []).payloads = [.str secret] := by
  rfl

/-- The payload of the deletion has no digest exactly if it has no bytes. -/
theorem Request.unhashable_exampleDeletion_iff {secret : Text} :
    (exampleDeletion secret).Unhashable ↔ secret.hasSurrogate = true := by
  constructor
  · rintro ⟨-, -, t, ht, hsurrogate⟩
    rw [payloads_exampleDeletion, List.mem_singleton] at ht
    cases ht
    exact hsurrogate
  · intro hsurrogate
    have hdelete : Operation.ofRequest? "DELETE" = some .delete := by decide
    refine ⟨hdelete, rfl, secret, ?_, hsurrogate⟩
    rw [payloads_exampleDeletion]
    exact List.mem_singleton_self _

theorem outcome_ne_of_lone_surrogate :
    let d₁ := (decide (.closing "prod") (some .keeping) (.exampleDeletion [.ofNat 0xD800])
      .exampleReading []).value.1
    let d₂ := (decide (.closing "prod") (some .keeping) (.exampleDeletion "x")
      .exampleReading []).value.1
    d₁.outcome ≠ d₂.outcome ∧ d₁.allowed ≠ d₂.allowed := by
  have hsame : (Request.exampleDeletion [.ofNat 0xD800]).SameTarget (.exampleDeletion "x") :=
    ⟨rfl, rfl, rfl, rfl, fun _ _ => rfl⟩
  have hun : (Request.exampleDeletion [.ofNat 0xD800]).Unhashable :=
    Request.unhashable_exampleDeletion_iff.mpr (by decide)
  have hhashable : ¬ (Request.exampleDeletion "x").Unhashable :=
    Request.unhashable_exampleDeletion_iff.not.mpr (by decide)
  have hblocks : (Policy.closing "prod").Blocks (.exampleDeletion [.ofNat 0xD800]) :=
    ⟨.delete, by decide, by decide +kernel⟩
  obtain ⟨houtcome, hallowed, -, -⟩ := outcome_eq_iff_of_sameTarget (.closing "prod")
    (some .keeping) .exampleReading [] hsame ⟨.inr rfl, .inl rfl⟩ ⟨.inr rfl, .inl rfl⟩
    Clock.inRange_exampleReading
  refine ⟨fun heq => ?_, fun heq => ?_⟩
  · exact hhashable ((houtcome.mp heq).mp hun)
  · obtain hiff | hnot := hallowed.mp heq
    · exact hhashable (hiff.mp hun)
    · exact hnot hblocks

end

end AdmissionLedger
