import AdmissionLedger.Relay.Basic

/-!
# Consumers at work

## Main definitions

* `Relay.send` — starts the deliveries of an event.
* `Relay.process` — saves an event and hands it to the router.
* `Relay.offer` — puts an event into the queue.
* `Relay.consume` — a stretch of a consumer: it takes events until it has to wait.
-/

namespace AdmissionLedger.Relay

variable {κ σ : Type}

/-- Starts one delivery of an event per channel, if the router alerts on its operation.  The numbers
of the deliveries are the answer. -/
def send (r : Relay κ σ) (e : Event) : List Nat × Relay κ σ :=
  match r.dispatch with
  | none => ([], r)
  | some p =>
    let tasks := (p.router.audience e).map fun channel => ({ channel, event := e } : DeliveryTask κ)
    let ids := List.range' p.deliveries.length tasks.length
    let p := { p with deliveries := p.deliveries ++ tasks, pending := p.pending ++ ids }
    (ids, { r with dispatch := some p }.push (ids.map .deliver))

/-- An attempt to save has ended: it is logged and counted, and whatever came of it, the router has
the event next. -/
def conclude (r : Relay κ σ) (e : Event) (result : SaveResult) : Logged (Relay κ σ) := do
  Logged.emit (result.entry e)
  return ((r.record [.concluded e result]).send e).2.record [.handed e]

/-- Saves an event and hands it to the router.  The answer says whether this has ended; it has not
if the store has not replied. -/
def process (r : Relay κ σ) (e : Event) : Logged (Bool × Relay κ σ) := do
  let (result, storage) := r.storage.save e
  let r := { r with storage }.record [.tried e]
  match result with
  | some result => return (true, ← r.conclude e result)
  | none => return (false, r)

/-- The first consumer in line is woken. -/
def wakeNext (r : Relay κ σ) : Relay κ σ :=
  match r.line with
  | [] => r
  | id :: line => ({ r with line }.setPhase id .woken).push [.consume id]

/-- The entry about an event for which there is no room. -/
def fullEntry (e : Event) : Log.Entry :=
  .of .warning "event_queue_full" [("event_id", .str e.id), ("allowed", .bool e.allowed)]

/-- Puts an event into the queue, if there is room, and wakes a consumer.  The answer says whether
there was. -/
def offer (r : Relay κ σ) (e : Event) : Logged (Bool × Relay κ σ) :=
  match r.queue.push? e with
  | some queue =>
    return (true, ({ r with queue, depth := queue.events.length }.record [.accepted e]).wakeNext)
  | none => do
    Logged.emit (fullEntry e)
    return (false, r.record [.refused e])

/-- The first event leaves the queue; `rest` is what remains. -/
def dequeue (r : Relay κ σ) (e : Event) (rest : List Event) : Relay κ σ :=
  { r with queue := { r.queue with events := rest }, depth := rest.length }.record [.taken e]

/-- A consumer waits for an event, last in line. -/
def await (r : Relay κ σ) (id : Nat) : Relay κ σ :=
  { r.setPhase id .waiting with line := r.line ++ [id] }

/-- A consumer takes the events of the queue, which are given, until the store lets it wait or there
are none. -/
def drain (id : Nat) : List Event → Relay κ σ → Logged (Relay κ σ)
  | [], r => return r.await id
  | e :: rest, r => do
    let (ended, r) ← (r.dequeue e rest).process e
    if ended then drain id rest r
    else return r.setPhase id (.saving e)

/-- A consumer ends, and an event in its hands is lost.  If it had been woken for an event, the next
in line is woken instead. -/
def endConsumer (r : Relay κ σ) (id : Nat) (phase : ConsumerPhase) : Relay κ σ :=
  let r := r.record (phase.event?.toList.map .lost)
  let r := match phase with
    | .woken => if r.queue.events.isEmpty then r else r.wakeNext
    | _ => r
  { r with worker := r.worker.finish id }.push ((r.worker.stoppers id).map .resume)

/-- A stretch of a consumer.  If it was asked to end, it does, also if the store has just
replied. -/
def consume (r : Relay κ σ) (id : Nat) : Logged (Relay κ σ) :=
  match r.worker.get? id with
  | none => return r
  | some task =>
    if task.asked then return r.endConsumer id task.phase
    else
      match task.phase with
      | .starting | .woken => drain id r.queue.events r
      | .answered e reply => do
        let r ← { r with storage := r.storage.complete e reply }.conclude e (.ofReply reply)
        drain id r.queue.events r
      | .waiting | .saving _ => return r

end AdmissionLedger.Relay
