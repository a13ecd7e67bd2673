import AdmissionLedger.Metrics.Counter
import AdmissionLedger.Review.Candidate
import AdmissionLedger.Rules.Verdict
import AdmissionLedger.Supply

/-!
# Decisions

A request passes four stages: it is received, decoded, checked against the block
rules and checked against the ignore rules.  A match of a block rule is the only
way to a refusal; a failure at any stage allows the operation and says so.  The
event of a refused or recorded operation is stamped with one reading of the clock
and offered to a sink that never makes the decision wait.

## Main definitions

* `Ruling`, `Policy.rule` — what the rules in force make of a candidate.
* `Clock`, `Sink` — the two things outside that a decision touches.
* `decide` — the decision about a request.
* `review` — the decision about a body.
-/

namespace AdmissionLedger

/-- How far a request has come. -/
inductive Stage
  | received
  | decoded
  | blockChecked
  | ignoreChecked
  deriving DecidableEq, Repr

/-- The name of a stage. -/
def Stage.name : Stage → Text
  | received => "received"
  | decoded => "decoded"
  | blockChecked => "block_checked"
  | ignoreChecked => "ignore_checked"

/-- What a review is answered with. -/
structure Decision where
  uid : Text
  allowed : Bool
  outcome : Outcome
  message : Text := []
  /-- The event that was offered. -/
  event : Option Event := none
  /-- Whether the event was accepted. -/
  enqueued : Bool := false

/-- What the rules make of a candidate. -/
inductive Ruling
  | deny (pattern message : Text)
  | skip
  | record
  deriving DecidableEq, Repr

/-- Block rules come first; ignore rules only count for what they let pass. -/
def Policy.rule (p : Policy) (candidate : Event) : Ruling :=
  match shouldBlock candidate p.block with
  | .block pattern message => .deny pattern message
  | .pass => if shouldIgnore candidate p.ignore then .skip else .record

/-- A clock is known by the readings that it will give, in nanoseconds from the epoch. -/
abbrev Clock := Supply Int

/-- What takes events without waiting: it answers whether it accepts one. -/
structure Sink (σ : Type) where
  offer : Event → σ → Logged (Bool × σ)

/-- Why an event cannot be stamped. -/
inductive StampError
  | timestamp (error : TimestampError)
  | inconsistent (error : EventError)
  deriving DecidableEq, Repr

/-- The wording of a failure. -/
def StampError.message : StampError → Text
  | timestamp e => e.message
  | inconsistent e => e.message

/-- A candidate with identity and time from one reading of the clock, and with the decision: denied
by a pattern, or allowed. -/
def Event.stamp (candidate : Event) (ns : Int) (deniedBy : Option Text) :
    Except StampError Event := do
  let time ← (Timestamp.ofNanoseconds ns).mapError .timestamp
  Event.check { candidate with
    id := eventId candidate.operation.name candidate.resourceKind candidate.name ns
    timestamp := some time
    allowed := deniedBy.isNone
    blockPattern := deniedBy.getD [] } |>.mapError .inconsistent

/-- What the message of an operation allowed after a failure begins with. -/
def failOpenMark : Text := "kubechronicle error (allowed): "

/-- The decision after a failure. -/
def Decision.failOpen (uid detail : Text) : Decision where
  uid := uid
  allowed := true
  outcome := .failedOpen
  message := failOpenMark ++ detail

/-- The decision after an unforeseen failure behind a stage, with its entry. -/
def Decision.afterError (uid : Text) (stage : Stage) (error : Text) : Logged Decision := do
  .emit (.of .error "admission_pipeline_error" [("stage", .str stage.name), ("error", .str error)])
  return .failOpen uid
    (Text.ofString "internal error after " ++ stage.name ++ ": " ++ error)

namespace Event

/-- The fields that entries about a decision have in common. -/
def resourceFields (e : Event) : List (String × Tree) :=
  [("operation", .str e.operation.name), ("resource_kind", .str e.resourceKind),
    ("namespace", .str e.scope), ("name", .str e.name)]

/-- The entry about a denied event. -/
def deniedEntry (e : Event) : Log.Entry :=
  .of .warning "admission_blocked" <| ("event_id", .str e.id) :: e.resourceFields ++
    [("username", .str e.actor.username), ("source_tool", .str e.source.name),
      ("pattern", .str e.blockPattern)]

/-- The entry about a candidate that is not recorded. -/
def ignoredEntry (e : Event) : Log.Entry :=
  .of .info "admission_ignored" e.resourceFields

/-- The entry about a recorded event. -/
def recordedEntry (e : Event) : Log.Entry :=
  .of .info "admission_recorded" <| ("event_id", .str e.id) :: e.resourceFields ++
    [("username", .str e.actor.username), ("source_tool", .str e.source.name),
      ("patches", .nat e.patch.length)]

end Event

section

variable {σ : Type}

/-- An event offered to a sink, if there is one. -/
def Sink.offerTo (sink : Option (Sink σ)) (e : Event) (s : σ) : Logged (Bool × σ) :=
  match sink with
  | some sink => sink.offer e s
  | none => do
    .emit (.of .debug "change_event_not_recorded"
      [("event_id", .str e.id), ("reason", .str "no sink")])
    return (false, s)

/-- The decision that stamps a candidate and offers the event.  `entry` is logged in between. -/
def Decision.stampAndOffer (sink : Option (Sink σ)) (clock : Clock) (s : σ) (uid : Text)
    (candidate : Event) (deniedBy : Option Text) (stage : Stage) (entry : Event → Log.Entry)
    (answer : Decision) : Logged (Decision × Clock × σ) :=
  match candidate.stamp clock.now deniedBy with
  | .error e => do
    let decision ← Decision.afterError uid stage e.message
    return (decision, clock.next, s)
  | .ok event => do
    .emit (entry event)
    let (enqueued, s) ← Sink.offerTo sink event s
    return ({ answer with event := some event, enqueued := enqueued }, clock.next, s)

/-- The decision about a request under a policy. -/
def decide (policy : Policy) (sink : Option (Sink σ)) (r : Request) (clock : Clock) (s : σ) :
    Logged (Decision × Clock × σ) := do
  match ← Event.ofRequest r with
  | .error e =>
    if e.isRefusal then
      .emit (.of .error "admission_request_decode_failed" [("error", .str e.message)])
      return (.failOpen r.uid e.message, clock, s)
    else
      let decision ← Decision.afterError r.uid .received e.message
      return (decision, clock, s)
  | .ok candidate =>
    match policy.rule candidate with
    | .deny pattern message =>
      Decision.stampAndOffer sink clock s r.uid candidate (some pattern) .blockChecked
        Event.deniedEntry ⟨r.uid, false, .denied, message, none, false⟩
    | .skip =>
      .emit candidate.ignoredEntry
      return (⟨r.uid, true, .skipped, [], none, false⟩, clock, s)
    | .record =>
      Decision.stampAndOffer sink clock s r.uid candidate none .ignoreChecked
        Event.recordedEntry ⟨r.uid, true, .recorded, [], none, false⟩

/-- Entries made while a request is decided carry its identity, unless it is empty. -/
def Request.context (r : Request) : List (Text × Tree) :=
  if r.uid.isEmpty then [] else [("request_uid", .str r.uid)]

/-- The decision about a body under a policy.  The machine decides how deep the containers of a body
may be nested.  Every review counts once. -/
def review (depth : Nat) (policy : Policy) (sink : Option (Sink σ)) (body : Bytes) (clock : Clock)
    (s : σ) : Logged (Decision × Clock × σ) :=
  match Request.ofBytes depth body with
  | .error (e, uid) => do
    .emit (.of .error "admission_review_decode_failed" [("error", .str e.message)])
    return (.failOpen uid e.message, clock, s)
  | .ok r =>
    let decided := decide policy sink r clock s
    ⟨decided.log.map (Log.Entry.within r.context), decided.value⟩

end

/-- The counters that a review adds to. -/
def Decision.counts (d : Decision) : List Counter :=
  [.reviews d.outcome, .reviewDurations]

end AdmissionLedger
