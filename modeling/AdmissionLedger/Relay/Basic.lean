import AdmissionLedger.Relay.Act
import AdmissionLedger.Relay.Queue
import AdmissionLedger.Relay.Worker

/-!
# The relay

The relay stands between decisions and what becomes of their events.  Events are
offered to it without waiting; a consumer takes them from the queue one by one,
saves each and then hands it to the router, which starts one delivery per channel.

Everything that runs is cut at the places where it waits.  A stretch between two
such places is a job; jobs that can run stand in line.

## Main definitions

* `ConsumerPhase`, `Job` — where a consumer stands, and what can run.
* `Relay` — the queue, the store, the router and all that runs.
* `Relay.history`, `Relay.counts` — what was done so far, and what of it is counted.
-/

namespace AdmissionLedger

/-- Where a consumer stands. -/
inductive ConsumerPhase
  | starting
  /-- It waits for an event. -/
  | waiting
  /-- There was an event when it was woken. -/
  | woken
  /-- The store has not replied about an event. -/
  | saving (e : Event)
  /-- The store has replied. -/
  | answered (e : Event) (reply : SaveReply)

/-- The event that a consumer has in its hands: it has taken it from the queue, and has not seen the
end of the attempt to save it. -/
def ConsumerPhase.event? : ConsumerPhase → Option Event
  | saving e | answered e _ => some e
  | starting | waiting | woken => none

/-- A stretch that can run. -/
inductive Job
  | consume (consumer : Nat)
  | deliver (delivery : Nat)
  /-- The router forgets a delivery that ended. -/
  | retire (delivery : Nat)
  /-- A caller that stops the router learns that a delivery ended. -/
  | report (caller : Nat)
  /-- A caller goes on that has waited for the end of a consumer. -/
  | resume (caller : Nat)
  /-- A caller goes on that has waited for the ends of deliveries. -/
  | resumeRouter (caller : Nat)
  deriving DecidableEq, Repr

/-- The deliveries of a router. -/
structure Dispatch (κ : Type) where
  router : Router κ
  /-- All deliveries, numbered in the order of their creation. -/
  deliveries : List (DeliveryTask κ) := []
  /-- The deliveries in flight, as far as the router knows. -/
  pending : List Nat := []

/-- All that becomes of events. -/
structure Relay (κ σ : Type) where
  carrier : Carrier κ σ
  outside : σ
  storage : Storage
  dispatch : Option (Dispatch κ) := none
  queue : EventQueue := {}
  worker : Worker ConsumerPhase := {}
  /-- The consumers that wait for an event, in the order in which they will be woken. -/
  line : List Nat := []
  /-- The callers that are in the middle of a stop of the router, each with the number of deliveries
  that have not ended. -/
  routerStops : List (Nat × Nat) := []
  /-- The jobs that can run, in the order in which they will. -/
  ready : List Job := []
  /-- The last measured length of the queue. -/
  depth : Nat := 0
  /-- What was done, in order. -/
  history : List Act := []

namespace Relay

variable {κ σ : Type}

/-- Jobs come last in line. -/
def push (r : Relay κ σ) (jobs : List Job) : Relay κ σ :=
  { r with ready := r.ready ++ jobs }

/-- Acts are added to the history. -/
def record (r : Relay κ σ) (acts : List Act) : Relay κ σ :=
  { r with history := r.history ++ acts }

/-- Counters that others add to. -/
def count (r : Relay κ σ) (counters : List Counter) : Relay κ σ :=
  r.record (counters.map .counted)

/-- What was counted. -/
def counts (r : Relay κ σ) : List Counter :=
  r.history.flatMap Act.counts

/-- A consumer goes on to another phase. -/
def setPhase (r : Relay κ σ) (id : Nat) (phase : ConsumerPhase) : Relay κ σ :=
  { r with worker := r.worker.setPhase id phase }

/-- A delivery changes. -/
def setDelivery (r : Relay κ σ) (id : Nat) (d : DeliveryTask κ) : Relay κ σ :=
  { r with dispatch := r.dispatch.map fun p => { p with deliveries := p.deliveries.set id d } }

/-- A delivery by its number. -/
def delivery? (r : Relay κ σ) (id : Nat) : Option (DeliveryTask κ) :=
  r.dispatch.bind fun p => p.deliveries[id]?

/-- Whether a caller waits for the end of a stop. -/
def isWaiting (r : Relay κ σ) (caller : Nat) : Bool :=
  r.worker.isStopping caller || (r.routerStops.lookup caller).isSome

end Relay

end AdmissionLedger
