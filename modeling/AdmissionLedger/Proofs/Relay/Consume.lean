import AdmissionLedger.Proofs.Ledger.Saving
import AdmissionLedger.Proofs.Relay.Deliver
import AdmissionLedger.Proofs.Relay.Worker

/-!
# What consumers do

A consumer that runs takes events from the queue and saves them one by one, each before
the next, until the store keeps it waiting or there are none.  One that was asked to end
does nothing but end.

## Main definitions

* `Relay.Stretch` — what a consumer does while it runs.
* `Relay.Concluded` — what is done at the end of an attempt.
* `Relay.Consumed` — the ways in which a job of a consumer can go.

## Main results

* `Relay.stretch_drain` — the events of the queue are taken in order.
* `Relay.consumed_consume` — every job of a consumer goes one of the ways.
* `Relay.exists_endConsumer` — how a consumer ends.
-/

namespace AdmissionLedger.Relay

variable {κ σ : Type} {r r' : Relay κ σ} {id : Nat}

/-! ### Stretches -/

/-- What a consumer does in a stretch: it takes events and saves them, until the store keeps it
waiting or there are no more.  `done` are the events whose attempts have ended, with what came of
them, and `phase` is where the consumer stands. -/
structure Stretch (id : Nat) (r r' : Relay κ σ) (done : List (Event × SaveResult))
    (phase : ConsumerPhase) : Prop where
  worker : r'.worker = r.worker.setPhase id phase
  capacity : r'.queue.capacity = r.queue.capacity
  queue : r.queue.events = done.map (·.1) ++ phase.event?.toList ++ r'.queue.events
  storage : r'.storage = r.storage.saveAll (done.map (·.1) ++ phase.event?.toList)
  history : r'.history = r.history ++
    done.flatMap (fun (e, result) => [.taken e, .tried e, .concluded e result, .handed e]) ++
    phase.event?.toList.flatMap fun e => [.taken e, .tried e]
  scheduled : r'.scheduled = r.scheduled ++ done.flatMap fun (e, _) => r.audience e
  audience : r'.audience = r.audience
  ready : r.ready <+: r'.ready
  /-- The queue is measured whenever an event is taken. -/
  depth : r.depth = r.queue.events.length → r'.depth = r'.queue.events.length
  /-- Where there is a store, every attempt is one of the store. -/
  stored : r.storage ≠ .nowhere → ∀ attempt ∈ done, attempt.2 ≠ .unstored
  /-- The consumer waits for an event if there is none, or the store keeps it waiting. -/
  stands : phase = .waiting ∧ r'.queue.events = [] ∧ r'.line = r.line ++ [id] ∨
    ∃ e, phase = .saving e ∧ r'.line = r.line ∧
      ((r.storage.saveAll (done.map (·.1))).save e).1 = none

/-- What the end of an attempt leaves as it is, and what it adds. -/
structure Concluded (r r' : Relay κ σ) (e : Event) (result : SaveResult) : Prop where
  worker : r'.worker = r.worker
  queue : r'.queue = r.queue
  storage : r'.storage = r.storage
  line : r'.line = r.line
  depth : r'.depth = r.depth
  history : r'.history = r.history ++ [.concluded e result, .handed e]
  scheduled : r'.scheduled = r.scheduled ++ r.audience e
  audience : r'.audience = r.audience
  ready : r.ready <+: r'.ready

theorem concluded_conclude (r : Relay κ σ) (e : Event) (result : SaveResult) :
    Concluded r (r.conclude e result).value e result := by
  obtain ⟨carrier, outside, storage, dispatch, queue, worker, line, routerStops, ready, depth,
    history⟩ := r
  cases dispatch with
  | none => exact ⟨rfl, rfl, rfl, rfl, rfl, by simp [conclude, record, send], rfl, rfl,
      List.prefix_refl _⟩
  | some p =>
    refine ⟨rfl, rfl, rfl, rfl, rfl, by simp [conclude, record, send, push], ?_, rfl,
      List.prefix_append _ _⟩
    simp [scheduled, conclude, record, send, push, audience, Function.comp_def]

/-- A consumer takes the events of the queue until the store keeps it waiting or there are none. -/
theorem stretch_drain (id : Nat) (events : List Event) (r : Relay κ σ)
    (hevents : r.queue.events = events) :
    ∃ done phase, Stretch id r (drain id events r).value done phase := by
  induction events generalizing r with
  | nil =>
    refine ⟨[], .waiting, rfl, rfl, ?_, rfl, ?_, ?_, rfl, List.prefix_refl _, fun h => h,
      fun _ => List.forall_mem_nil _, .inl ⟨rfl, hevents, rfl⟩⟩
    · exact (List.nil_append _).symm
    · simp [drain, await, setPhase, ConsumerPhase.event?]
    · simp only [List.flatMap_nil, List.append_nil]
      rfl
  | cons e rest ih =>
    simp only [drain, process, Logged.value_bind]
    cases hsave : (r.storage.save e).1 with
    | none =>
      -- the store keeps the consumer waiting, and the rest stays in the queue
      have hnone : ((r.dequeue e rest).storage.save e).1 = none := hsave
      simp only [hnone, Logged.value_pure, Bool.false_eq_true, if_false]
      refine ⟨[], .saving e, rfl, rfl, hevents, rfl, ?_, ?_, rfl, List.prefix_refl _,
        fun _ => rfl, fun _ => List.forall_mem_nil _, .inr ⟨e, rfl, rfl, hsave⟩⟩
      · simp [record, dequeue, setPhase, ConsumerPhase.event?]
      · simp only [List.flatMap_nil, List.append_nil]
        rfl
    | some result =>
      have hsome : ((r.dequeue e rest).storage.save e).1 = some result := hsave
      simp only [hsome, Logged.value_bind, Logged.value_pure, if_true]
      -- the relay when the attempt has ended, and after the router has the event
      generalize htried : ({ r.dequeue e rest with
        storage := ((r.dequeue e rest).storage.save e).2 }.record [.tried e]) = tried
      have hended := concluded_conclude tried e result
      generalize (tried.conclude e result).value = ended at hended
      subst htried
      obtain ⟨done, phase, h⟩ := ih ended (by rw [hended.queue]; rfl)
      refine ⟨(e, result) :: done, phase, ?worker, ?capacity, ?queue, ?storage, ?history,
        ?scheduled, ?audience, hended.ready.trans h.ready, ?depth, ?stored, ?stands⟩
      case worker =>
        rw [h.worker, hended.worker]
        rfl
      case capacity =>
        rw [h.capacity, hended.queue]
        rfl
      case queue =>
        rw [hevents, List.map_cons, List.cons_append, List.cons_append, ← h.queue, hended.queue]
        rfl
      case storage =>
        rw [h.storage, hended.storage]
        rfl
      case history =>
        rw [h.history, hended.history]
        simp [record, dequeue]
      case scheduled =>
        rw [h.scheduled, hended.scheduled, hended.audience, List.append_assoc,
          List.flatMap_cons]
        rfl
      case audience =>
        rw [h.audience, hended.audience]
        rfl
      case depth =>
        intro _
        refine h.depth ?_
        rw [hended.depth, hended.queue]
        rfl
      case stored =>
        intro hstore
        refine List.forall_mem_cons.mpr ⟨?_, h.stored ?_⟩
        · rintro rfl
          exact Storage.save_ne_unstored hstore e hsave
        · rw [hended.storage]
          exact Storage.save_ne_nowhere hstore e
      case stands =>
        obtain ⟨hphase, hqueue, hline⟩ | ⟨e', hphase, hline, hpending⟩ := h.stands
        · exact .inl ⟨hphase, hqueue, by rw [hline, hended.line]; rfl⟩
        · refine .inr ⟨e', hphase, by rw [hline, hended.line]; rfl, ?_⟩
          rw [hended.storage] at hpending
          exact hpending

/-! ### Jobs of consumers -/

/-- The ways in which a job of a consumer can go. -/
inductive Consumed (r : Relay κ σ) (id : Nat) : Relay κ σ → Prop
  /-- There is no such consumer any more, or it waits. -/
  | idle (hidle : ∀ task, r.worker.get? id = some task →
      task.phase = .waiting ∨ ∃ e, task.phase = .saving e) : Consumed r id r
  /-- The consumer was asked to end. -/
  | ended (task : Task ConsumerPhase) (hget : r.worker.get? id = some task)
      (hasked : task.asked = true) : Consumed r id (r.endConsumer id task.phase)
  /-- It had no event in its hands, and takes what it finds. -/
  | took (task : Task ConsumerPhase) (hget : r.worker.get? id = some task)
      (hasked : task.asked = false) (hphase : task.phase = .starting ∨ task.phase = .woken)
      (done : List (Event × SaveResult)) (phase : ConsumerPhase) (r' : Relay κ σ)
      (h : Stretch id r r' done phase) : Consumed r id r'
  /-- The store has replied about the event in its hands. -/
  | replied (e : Event) (reply : SaveReply)
      (hget : r.worker.get? id = some ⟨.answered e reply, false⟩) (r₁ : Relay κ σ)
      (hreply : Concluded { r with storage := r.storage.complete e reply } r₁ e (.ofReply reply))
      (done : List (Event × SaveResult)) (phase : ConsumerPhase) (r' : Relay κ σ)
      (h : Stretch id r₁ r' done phase) : Consumed r id r'

/-- Every job of a consumer goes one of the ways. -/
theorem consumed_consume (r : Relay κ σ) (id : Nat) : Consumed r id (r.consume id).value := by
  unfold consume
  cases hget : r.worker.get? id with
  | none => exact .idle fun task htask => by cases hget.symm.trans htask
  | some task =>
    obtain ⟨phase, asked⟩ := task
    cases asked with
    | true => exact .ended _ hget rfl
    | false =>
      dsimp only [Bool.false_eq_true, if_false]
      cases phase with
      | starting =>
        obtain ⟨done, phase, h⟩ := stretch_drain id r.queue.events r rfl
        exact .took _ hget rfl (.inl rfl) done phase _ h
      | woken =>
        obtain ⟨done, phase, h⟩ := stretch_drain id r.queue.events r rfl
        exact .took _ hget rfl (.inr rfl) done phase _ h
      | waiting =>
        refine .idle fun task htask => ?_
        cases hget.symm.trans htask
        exact .inl rfl
      | saving e =>
        refine .idle fun task htask => ?_
        cases hget.symm.trans htask
        exact .inr ⟨e, rfl⟩
      | answered e reply =>
        have hreply := concluded_conclude { r with storage := r.storage.complete e reply } e
          (.ofReply reply)
        obtain ⟨done, phase, h⟩ := stretch_drain id _ _ rfl
        exact .replied e reply hget _ hreply done phase _ h

/-- The first in line is woken, if there is one. -/
theorem wakeNext_eq (r : Relay κ σ) : r.line = [] ∧ r.wakeNext = r ∨
    ∃ id rest, r.line = id :: rest ∧
      r.wakeNext = ({ r with line := rest }.setPhase id .woken).push [.consume id] := by
  cases hline : r.line with
  | nil => exact .inl ⟨rfl, by rw [wakeNext, hline]⟩
  | cons id rest => exact .inr ⟨id, rest, rfl, by rw [wakeNext, hline]⟩

/-- A consumer ends, perhaps after it has woken another. -/
theorem exists_endConsumer (r : Relay κ σ) (id : Nat) (phase : ConsumerPhase) :
    let lost := r.record (phase.event?.toList.map .lost)
    ∃ r₁, (r₁ = lost ∨ r₁ = lost.wakeNext) ∧
      r.endConsumer id phase = { r₁ with worker := r₁.worker.finish id }.push
        ((r₁.worker.stoppers id).map .resume) := by
  intro lost
  unfold endConsumer
  cases phase with
  | woken =>
    by_cases hempty : lost.queue.events.isEmpty = true
    · exact ⟨lost, .inl rfl, by simp only [lost] at hempty ⊢; rw [if_pos hempty]⟩
    · exact ⟨lost.wakeNext, .inr rfl, by simp only [lost] at hempty ⊢; rw [if_neg hempty]⟩
  | starting => exact ⟨lost, .inl rfl, rfl⟩
  | waiting => exact ⟨lost, .inl rfl, rfl⟩
  | saving e => exact ⟨lost, .inl rfl, rfl⟩
  | answered e reply => exact ⟨lost, .inl rfl, rfl⟩

end AdmissionLedger.Relay
