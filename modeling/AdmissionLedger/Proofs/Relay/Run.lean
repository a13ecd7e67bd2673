import AdmissionLedger.Proofs.Relay.History
import AdmissionLedger.Proofs.Relay.Keeper

/-!
# Turns of a relay

Events are offered, callers start and stop the consumer and the router, a store replies
in its own time, and jobs run in any order: a relay is a component that keeps one
consumer.

## Main definitions

* `Relay.Turn`, `Relay.turn` — what can happen, and what then becomes of the relay.
* `Relay.keeper` — the relay as a component that keeps one consumer.

## Main results

* `Relay.moves_runJob` — what a job does to the consumers, and whom it tells.
* `Relay.sound_fresh` — a relay that was never started keeps what has to be kept.
-/

namespace AdmissionLedger

/-- The caller that goes on with a job, if one does. -/
def Job.caller? : Job → Option Nat
  | resume caller => some caller
  | _ => none

namespace Relay

/-- What can happen to a relay. -/
inductive Turn
  | offer (e : Event)
  | start
  /-- A caller stops the consumer. -/
  | stop (caller : Nat)
  /-- A caller stops the router. -/
  | stopRouter (caller : Nat)
  /-- A store replies about the event that a consumer has in its hands. -/
  | answer (reply : SaveReply) (consumer : Nat)
  /-- A job that stands in line runs, not necessarily the first. -/
  | job (place : Nat)
  | closeStore

namespace Turn

/-- Whether a turn starts the consumer. -/
def isStart : Turn → Bool
  | start => true
  | _ => false

/-- Whether a turn only lets run what stands in line. -/
def isJob : Turn → Bool
  | job _ => true
  | _ => false

end Turn

variable {κ σ : Type}

/-- A job that stands in line runs. -/
def runJob (r : Relay κ σ) (place : Nat) : Relay κ σ :=
  match r.ready[place]? with
  | some job => ({ r with ready := r.ready.eraseIdx place }.perform job).value
  | none => r

/-- A turn.  A caller that waits can do nothing else. -/
def turn (r : Relay κ σ) : Turn → Relay κ σ
  | .offer e => (r.offer e).value.2
  | .start => r.start
  | .stop caller => if r.isWaiting caller then r else (r.beginStop caller).value
  | .stopRouter caller => if r.isWaiting caller then r else r.beginRouterStop caller
  | .answer reply id => r.answer reply id
  | .job place => r.runJob place
  | .closeStore => r.closeStore

/-- The callers for whom a job stands in line that lets them go on. -/
def told (r : Relay κ σ) : List Nat :=
  r.ready.filterMap Job.caller?

variable {r r' : Relay κ σ} {id caller place : Nat} {job : Job}

/-! ### Consumers -/

theorem moves_wakeNext (r : Relay κ σ) :
    Worker.Moves (r.worker, r.told) (r.wakeNext.worker, r.wakeNext.told) := by
  obtain ⟨-, heq⟩ | ⟨id, rest, -, heq⟩ := r.wakeNext_eq
  · rw [heq]
  · rw [heq]
    exact .trans (.single (.setPhase r.worker r.told id ConsumerPhase.woken))
      (Worker.moves_of_ready _ (List.prefix_append _ _))

/-- A consumer that ends may wake another before, and tells those who wait for it. -/
theorem moves_endConsumer {task : Task ConsumerPhase} (hget : r.worker.get? id = some task)
    (hasked : task.asked = true) (phase : ConsumerPhase) :
    Worker.Moves (r.worker, r.told)
      ((r.endConsumer id phase).worker, (r.endConsumer id phase).told) := by
  obtain ⟨r₁, hr₁, heq⟩ := r.exists_endConsumer id phase
  have htold : (r.endConsumer id phase).told = r₁.told ++ r₁.worker.stoppers id := by
    rw [heq]
    simp [told, push, List.filterMap_append, List.filterMap_map, Function.comp_def, Job.caller?]
  have hworker : (r.endConsumer id phase).worker = r₁.worker.finish id := by rw [heq]; rfl
  rw [htold, hworker]
  obtain rfl | rfl := hr₁
  · exact .single (.finish r.worker r.told id task hget hasked)
  · refine .tail (moves_wakeNext (r.record (phase.event?.toList.map .lost))) ?_
    obtain ⟨task', hget', hasked'⟩ :
        ∃ task', (r.record (phase.event?.toList.map .lost)).wakeNext.worker.get? id = some task' ∧
          task'.asked = task.asked := by
      obtain ⟨-, hwake⟩ | ⟨id', rest, -, hwake⟩ :=
        (r.record (phase.event?.toList.map .lost)).wakeNext_eq
      · rw [hwake]
        exact ⟨task, hget, rfl⟩
      · rw [hwake]
        exact Worker.exists_get?_setPhase hget id' .woken
    exact .finish _ _ id task' hget' (hasked'.trans hasked)

theorem moves_consume (r : Relay κ σ) (id : Nat) :
    Worker.Moves (r.worker, r.told) ((r.consume id).value.worker, (r.consume id).value.told) := by
  have hconsumed := r.consumed_consume id
  generalize (r.consume id).value = r' at hconsumed ⊢
  cases hconsumed with
  | idle => exact .refl
  | ended task hget hasked => exact moves_endConsumer hget hasked task.phase
  | took task hget hasked hphase done phase _ hr' =>
    rw [hr'.worker]
    exact .trans (.single (.setPhase r.worker r.told id phase))
      (Worker.moves_of_ready _ hr'.ready)
  | replied e reply hget r₁ hreply done phase _ hr' =>
    rw [hr'.worker, hreply.worker]
    exact .trans (.single (.setPhase r.worker r.told id phase))
      (Worker.moves_of_ready _ (hreply.ready.trans hr'.ready))

/-! ### Jobs -/

theorem Aside.moves (h : Aside r r') :
    Worker.Moves (r.worker, r.told) (r'.worker, r'.told) := by
  rw [h.worker]
  exact Worker.moves_of_ready r.worker h.ready

/-- What a job does with which no caller goes on. -/
theorem moves_perform (r : Relay κ σ) (hcaller : job.caller? = none) :
    Worker.Moves (r.worker, r.told) ((r.perform job).value.worker, (r.perform job).value.told) := by
  cases job with
  | consume id => exact moves_consume r id
  | deliver id => exact (aside_deliver r id).moves
  | retire id => exact (aside_retire r id).moves
  | report caller => exact (aside_report r caller).moves
  | resumeRouter caller => exact (aside_resumeRouter r caller).moves
  | resume caller => cases hcaller

/-- What a job does that is taken out of line. -/
theorem moves_runJob (r : Relay κ σ) (place : Nat) :
    Worker.Moves (r.worker, r.told) ((r.runJob place).worker, (r.runJob place).told) := by
  unfold runJob
  cases hjob : r.ready[place]? with
  | none => exact .refl
  | some job =>
    cases hcaller : job.caller? with
    | none =>
      exact .trans (Worker.moves_take r.worker hjob hcaller)
        (moves_perform { r with ready := r.ready.eraseIdx place } hcaller)
    | some caller =>
      have hresume := Worker.moves_resume r.worker hjob hcaller
      cases job <;> cases hcaller
      simp only [perform, resume]
      split
      · next hover => rwa [if_pos hover] at hresume
      · next hover => rwa [if_neg hover] at hresume

/-! ### Callers -/

theorem worker_start (r : Relay κ σ) : r.start.worker = (r.worker.start .starting).2 := by
  unfold start
  obtain ⟨id?, worker⟩ := r.worker.start .starting
  cases id? <;> rfl

theorem ready_start (r : Relay κ σ) : r.ready <+: r.start.ready := by
  unfold start
  obtain ⟨id?, worker⟩ := r.worker.start .starting
  cases id? with
  | none => exact List.prefix_refl _
  | some id => exact List.prefix_append _ _

theorem ready_rouse (r : Relay κ σ) (id : Nat) : r.ready <+: (r.rouse id).ready := by
  unfold rouse
  split
  · exact List.prefix_append _ _
  · exact List.prefix_append _ _
  · exact List.prefix_refl _

/-- A stop begins for the consumers as it does for any tasks. -/
theorem worker_beginStop (r : Relay κ σ) (caller : Nat) :
    (r.beginStop caller).value.worker = r.worker.beginStop caller := by
  unfold beginStop
  cases hheld : r.worker.held with
  | none =>
    have hcurrent : r.worker.current? = none := by simp [Worker.current?, hheld]
    rw [Worker.beginStop, hcurrent]
    show r.worker = { r.worker with held := none }
    rw [← hheld]
  | some held =>
    cases r.worker.current? <;> rfl

theorem ready_beginStop (r : Relay κ σ) (caller : Nat) :
    r.ready <+: (r.beginStop caller).value.ready := by
  unfold beginStop
  cases r.worker.held with
  | none => exact List.prefix_refl _
  | some held =>
    cases r.worker.current? with
    | none => exact List.prefix_refl _
    | some id => exact ready_rouse r id

/-- An answer makes a consumer go on, or there is none that waits for it. -/
theorem answer_eq (r : Relay κ σ) (reply : SaveReply) (id : Nat) : r.answer reply id = r ∨
    ∃ e, r.worker.get? id = some ⟨.saving e, false⟩ ∧
      r.answer reply id = (r.setPhase id (.answered e reply)).push [.consume id] := by
  unfold answer
  split
  · next e hget => exact .inr ⟨e, hget, rfl⟩
  · exact .inl rfl

/-! ### The relay as a component -/

/-- What a turn other than a start does to the consumers, and whom it tells. -/
theorem moves_turn (r : Relay κ σ) {t : Turn} (hstart : t.isStart = false) :
    Worker.Moves (r.worker, r.told) ((r.turn t).worker, (r.turn t).told) := by
  cases t with
  | start => cases hstart
  | offer e =>
    obtain ⟨-, heq⟩ | ⟨-, heq⟩ := r.offer_cases e
    · rw [turn, heq]
      exact moves_wakeNext (r.enqueue e)
    · rw [turn, heq]
      exact .refl
  | stop caller =>
    rw [turn]
    split
    · exact .refl
    · next hidle =>
      rw [isWaiting, Bool.or_eq_true, not_or, Bool.not_eq_true] at hidle
      rw [worker_beginStop]
      exact .trans (.single (.beginStop r.worker r.told caller hidle.1))
        (Worker.moves_of_ready _ (r.ready_beginStop caller))
  | stopRouter caller =>
    rw [turn]
    split
    · exact .refl
    · exact (aside_beginRouterStop r caller).moves
  | answer reply id =>
    obtain heq | ⟨e, -, heq⟩ := r.answer_eq reply id
    · rw [turn, heq]
    · rw [turn, heq]
      exact .trans (.single (.setPhase r.worker r.told id _))
        (Worker.moves_of_ready _ (List.prefix_append _ _))
  | job place => exact r.moves_runJob place
  | closeStore => exact .refl

/-- The relay as a component that keeps one consumer. -/
def keeper (κ σ : Type) : Keeper (Relay κ σ) Turn ConsumerPhase where
  worker := worker
  turn := turn
  isStart := Turn.isStart
  isJob := Turn.isJob
  told := told
  isStart_of_isJob := by
    intro t h
    cases t <;> simp [Turn.isJob, Turn.isStart] at h ⊢
  start_turn := by
    intro r t h
    cases t <;> simp [Turn.isStart] at h
    exact ⟨.starting, r.worker_start, (r.ready_start.filterMap Job.caller?).subset⟩
  moves_turn := fun r t => r.moves_turn
  exists_job := by
    intro r caller htold hover
    obtain ⟨place, job, hjob, hcaller⟩ := exists_getElem?_of_mem_filterMap htold
    refine ⟨.job place, rfl, ?_⟩
    cases job <;> simp [Job.caller?] at hcaller
    simp only [turn, runJob, hjob, perform, resume, hcaller, hover, if_true]
    rfl

/-- A relay that was never started keeps what has to be kept. -/
theorem sound_fresh {r : Relay κ σ} (hworker : r.worker = {}) : (keeper κ σ).Sound r where
  tidy := by
    show r.worker.Tidy
    rw [hworker]
    exact .empty
  told := by
    show r.worker.Told r.told
    rw [hworker]
    exact Worker.Told.empty.mono (by simp)

end Relay

end AdmissionLedger
