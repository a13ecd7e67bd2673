import AdmissionLedger.Relay.Consume
import AdmissionLedger.Relay.Deliver

/-!
# Runs

Callers start and stop the consumer and stop the router; a caller that has to wait
lets the jobs in line run.

## Main definitions

* `Relay.start`, `Relay.beginStop`, `Relay.beginRouterStop`, `Relay.release` — what callers do.
* `Relay.resume`, `Relay.resumeRouter` — what a caller does after its wait.
* `Relay.perform` — one job.
* `Relay.settle`, `Relay.awaitCaller` — jobs one after the other, until none is left or until a
  caller has gone on.
* `Relay.stop`, `Relay.stopRouter` — stopping with the wait in it.
-/

namespace AdmissionLedger.Relay

variable {κ σ : Type}

/-! ### Callers -/

/-- Starts a consumer, unless the one that is known runs. -/
def start (r : Relay κ σ) : Relay κ σ :=
  match r.worker.start .starting with
  | (some id, worker) => { r with worker }.push [.consume id]
  | (none, worker) => { r with worker }

/-- A consumer that is asked to end is made to run for it if it waits, and stands in line for events
no longer. -/
def rouse (r : Relay κ σ) (id : Nat) : Relay κ σ :=
  match r.worker.get? id with
  | some ⟨.waiting, false⟩ => { r with line := r.line.filter (· ≠ id) }.push [.consume id]
  | some ⟨.saving _, false⟩ => r.push [.consume id]
  | _ => r

/-- The entry about events that are left in the queue. -/
def abandonedEntry (n : Nat) : Log.Entry :=
  .of .info "event_processor_abandoned_events" [("count", .nat n)]

/-- At the end of a stop, events that still wait are given up. -/
def abandonedEntries (r : Relay κ σ) : List Log.Entry :=
  if r.queue.events.isEmpty then [] else [abandonedEntry r.queue.events.length]

/-- The beginning of a stop.  Without a consumer there is nothing to do; a stop whose consumer has
ended is at its end already. -/
def beginStop (r : Relay κ σ) (caller : Nat) : Logged (Relay κ σ) :=
  match r.worker.held, r.worker.current? with
  | none, _ => return r
  | some _, none => do
    Logged.emitAll r.abandonedEntries
    return { r with worker := r.worker.beginStop caller }
  | some _, some id => return { r.rouse id with worker := r.worker.beginStop caller }

/-- The end of a stop of the router. -/
def endRouterStop (r : Relay κ σ) : Relay κ σ :=
  { r with dispatch := r.dispatch.map fun p => { p with pending := [] } }

/-- The beginning of a stop of the router: deliveries in flight are asked to end and waited for. -/
def beginRouterStop (r : Relay κ σ) (caller : Nat) : Relay κ σ :=
  match r.dispatch.map (·.pending) with
  | none | some [] => r
  | some pending =>
    let r := pending.foldl cancelDelivery r
    let r := { r with routerStops := r.routerStops ++ [(caller, pending.length)] }
    pending.foldl (fun r id => r.watch caller id) r

/-- A caller goes on after its wait for a consumer. -/
def resume (r : Relay κ σ) (caller : Nat) : Logged (Relay κ σ) :=
  if r.worker.mayEndStop caller then do
    Logged.emitAll r.abandonedEntries
    return { r with worker := r.worker.endStop caller }
  else return r

/-- A caller goes on after its wait for deliveries. -/
def resumeRouter (r : Relay κ σ) (caller : Nat) : Relay κ σ :=
  { r with routerStops := r.routerStops.filter (·.1 ≠ caller) }.endRouterStop

/-- A store replies about the event that a consumer has in its hands. -/
def answer (reply : SaveReply) (r : Relay κ σ) (id : Nat) : Relay κ σ :=
  match r.worker.get? id with
  | some ⟨.saving e, false⟩ => (r.setPhase id (.answered e reply)).push [.consume id]
  | _ => r

/-- A slow store is released and replies to those who wait for it. -/
def release (r : Relay κ σ) : Relay κ σ :=
  (r.worker.alive.map (·.1)).foldl (answer (.ok ())) { r with storage := r.storage.release }

/-- The store takes no more events. -/
def closeStore (r : Relay κ σ) : Relay κ σ :=
  { r with storage := r.storage.close }

/-! ### Jobs -/

/-- Does a job. -/
def perform (r : Relay κ σ) : Job → Logged (Relay κ σ)
  | .consume id => r.consume id
  | .deliver id => r.deliver id
  | .retire id => return r.retire id
  | .report caller => return r.report caller
  | .resume caller => r.resume caller
  | .resumeRouter caller => return r.resumeRouter caller

/-- Does the jobs in line, at most `fuel` of them, until a condition holds. -/
def runUntil (finished : Relay κ σ → Bool) : Nat → Relay κ σ → Logged (Relay κ σ)
  | 0, r => return r
  | fuel + 1, r =>
    if finished r then return r
    else
      match r.ready with
      | [] => return r
      | job :: ready => do
        let r ← { r with ready }.perform job
        runUntil finished fuel r

/-- The number of channels. -/
def channelCount (r : Relay κ σ) : Nat :=
  (r.dispatch.map fun p => p.router.channels.length).getD 0

/-- The number of callers in the middle of a stop. -/
def callerCount (r : Relay κ σ) : Nat :=
  r.worker.stops.length + r.routerStops.length

/-- A bound on the jobs that can follow from a delivery, itself included: it may be done in two
stretches, the router forgets it, and each caller may be told and go on. -/
def deliveryLoad (r : Relay κ σ) : Nat :=
  3 + 2 * r.callerCount

/-- A bound on the jobs that can follow from a job, itself included, other than those that consumers
bring about. -/
def jobLoad (r : Relay κ σ) : Job → Nat
  | .deliver _ => r.deliveryLoad
  | .report _ => 2
  | .consume _ | .retire _ | .resume _ | .resumeRouter _ => 1

/-- A bound on the jobs until none is left.  A consumer brings about the deliveries of an event in
its hands, wakes another, and lets callers go on; an event that waits brings about its
deliveries. -/
def load (r : Relay κ σ) : Nat :=
  let perEvent := r.channelCount * r.deliveryLoad
  r.ready.foldr (fun job bound => r.jobLoad job + bound) 0 + r.queue.events.length * perEvent +
    r.worker.alive.length * (1 + r.callerCount + perEvent)

/-- Does jobs until none is left. -/
def settle (r : Relay κ σ) : Logged (Relay κ σ) :=
  r.runUntil (·.ready.isEmpty) r.load

/-- Does jobs until a caller does not wait any more. -/
def awaitCaller (r : Relay κ σ) (caller : Nat) : Logged (Relay κ σ) :=
  r.runUntil (fun r => !r.isWaiting caller) r.load

/-! ### A single caller -/

/-- The number of the caller if there is only one. -/
def soleCaller : Nat := 0

/-- Stops the consumer, waiting as long as it takes. -/
def stop (r : Relay κ σ) : Logged (Relay κ σ) := do
  let r ← r.beginStop soleCaller
  r.awaitCaller soleCaller

/-- Stops the router, waiting as long as it takes. -/
def stopRouter (r : Relay κ σ) : Logged (Relay κ σ) :=
  (r.beginRouterStop soleCaller).awaitCaller soleCaller

end AdmissionLedger.Relay
