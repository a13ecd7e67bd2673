import AdmissionLedger.Proofs.Relay.Run
import AdmissionLedger.Service.Reloader

/-!
# Starts in the gap of a stop

A stop asks the task of a component to end, waits until it has, and then forgets the task
that the component knows, without a look at which that is.  A start in between, when the
task has ended and the stop has not gone on, makes a task that is then forgotten: nobody
can stop it, and the next start makes another beside it.  Without such a start there is at
most one task at any time, and one that was not asked to end is known.  All this is the
same for the consumer of a relay and for the task of a reloader.

## Main definitions

* `Reloader.Turn`, `Reloader.turn` — what can happen to a reloader.
* `Reloader.keeper` — the reloader as a component that keeps one task.

## Main results

* `tended_iff_no_start_in_gap` — consumers and reloaders are tended exactly without such a start.
-/

namespace AdmissionLedger

/-- The caller that goes on with a job, if one does. -/
def ReloadJob.caller? : ReloadJob → Option Nat
  | resume caller => some caller
  | run _ => none

namespace Reloader

/-- What can happen to a reloader. -/
inductive Turn
  | start
  /-- A caller stops the task. -/
  | stop (caller : Nat)
  /-- What a task waits for has come. -/
  | wake (task : Nat)
  /-- A job that stands in line runs, not necessarily the first. -/
  | job (place : Nat)

namespace Turn

/-- Whether a turn starts the task. -/
def isStart : Turn → Bool
  | start => true
  | _ => false

/-- Whether a turn only lets run what stands in line. -/
def isJob : Turn → Bool
  | job _ => true
  | _ => false

end Turn

/-- A job that stands in line runs. -/
def runJob (r : Reloader) (place : Nat) : Reloader :=
  match r.ready[place]? with
  | some job => { r with ready := r.ready.eraseIdx place }.perform job
  | none => r

/-- A turn.  A caller that waits can do nothing else. -/
def turn (r : Reloader) : Turn → Reloader
  | .start => r.start
  | .stop caller => if r.worker.isStopping caller then r else r.beginStop caller
  | .wake id => r.wake id
  | .job place => r.runJob place

/-- The callers for whom a job stands in line that lets them go on. -/
def told (r : Reloader) : List Nat :=
  r.ready.filterMap ReloadJob.caller?

variable {r r' : Reloader} {id caller place : Nat} {job : ReloadJob}

/-! ### Jobs -/

/-- A task that was asked to end does, and tells those who wait for it. -/
theorem moves_run (r : Reloader) (id : Nat) :
    Worker.Moves (r.worker, r.told) ((r.run id).worker, (r.run id).told) := by
  unfold run
  cases hget : r.worker.get? id with
  | none => exact .refl
  | some task =>
    dsimp only
    split
    · next hasked =>
      have htold : ({ r with worker := r.worker.finish id }.push
          ((r.worker.stoppers id).map .resume)).told = r.told ++ r.worker.stoppers id := by
        simp [told, push, List.filterMap_map, Function.comp_def, ReloadJob.caller?]
      rw [htold]
      exact .single (.finish r.worker r.told id task hget hasked)
    · exact .single (.setPhase r.worker r.told id task.phase.next)

/-- What a job does that is taken out of line. -/
theorem moves_runJob (r : Reloader) (place : Nat) :
    Worker.Moves (r.worker, r.told) ((r.runJob place).worker, (r.runJob place).told) := by
  unfold runJob
  cases hjob : r.ready[place]? with
  | none => exact .refl
  | some job =>
    cases job with
    | run id =>
      have hcaller : (ReloadJob.run id).caller? = none := rfl
      exact .trans (Worker.moves_take r.worker hjob hcaller)
        (moves_run { r with ready := r.ready.eraseIdx place } id)
    | resume caller =>
      have hcaller : (ReloadJob.resume caller).caller? = some caller := rfl
      have hresume := Worker.moves_resume r.worker hjob hcaller
      simp only [perform, resume]
      split
      · next hover => rwa [if_pos hover] at hresume
      · next hover => rwa [if_neg hover] at hresume

/-! ### Callers -/

theorem worker_start (r : Reloader) : r.start.worker = (r.worker.start .starting).2 := by
  unfold start
  obtain ⟨id?, worker⟩ := r.worker.start .starting
  cases id? <;> rfl

theorem ready_start (r : Reloader) : r.ready <+: r.start.ready := by
  unfold start
  obtain ⟨id?, worker⟩ := r.worker.start .starting
  cases id? with
  | none => exact List.prefix_refl _
  | some id => exact List.prefix_append _ _

theorem ready_rouse (r : Reloader) (id : Nat) : r.ready <+: (r.rouse id).ready := by
  unfold rouse
  split
  · split
    · exact List.prefix_append _ _
    · exact List.prefix_refl _
  · exact List.prefix_refl _

theorem worker_beginStop (r : Reloader) (caller : Nat) :
    (r.beginStop caller).worker = r.worker.beginStop caller := by
  unfold beginStop
  cases r.worker.current? <;> rfl

theorem ready_beginStop (r : Reloader) (caller : Nat) : r.ready <+: (r.beginStop caller).ready := by
  unfold beginStop
  cases r.worker.current? with
  | none => exact List.prefix_refl _
  | some id => exact ready_rouse r id

/-- What a task waits for makes it go on, or there is none that waits. -/
theorem wake_eq (r : Reloader) (id : Nat) : r.wake id = r ∨ ∃ phase,
    r.wake id = { r with worker := r.worker.setPhase id phase }.push [.run id] := by
  unfold wake
  split
  · split
    · next phase _ => exact .inr ⟨phase, rfl⟩
    · exact .inl rfl
  · exact .inl rfl

/-! ### The reloader as a component -/

/-- What a turn other than a start does to the tasks, and whom it tells. -/
theorem moves_turn (r : Reloader) {t : Turn} (hstart : t.isStart = false) :
    Worker.Moves (r.worker, r.told) ((r.turn t).worker, (r.turn t).told) := by
  cases t with
  | start => cases hstart
  | stop caller =>
    rw [turn]
    split
    · exact .refl
    · next hidle =>
      rw [worker_beginStop]
      exact .trans (.single (.beginStop r.worker r.told caller (Bool.not_eq_true _ ▸ hidle)))
        (Worker.moves_of_ready _ (r.ready_beginStop caller))
  | wake id =>
    obtain heq | ⟨phase, heq⟩ := r.wake_eq id
    · rw [turn, heq]
    · rw [turn, heq]
      exact .trans (.single (.setPhase r.worker r.told id phase))
        (Worker.moves_of_ready _ (List.prefix_append _ _))
  | job place => exact r.moves_runJob place

/-- The reloader as a component that keeps one task. -/
def keeper : Keeper Reloader Turn ReloadPhase where
  worker := worker
  turn := turn
  isStart := Turn.isStart
  isJob := Turn.isJob
  told := told
  isStart_of_isJob := by
    intro t h
    cases t <;> simp [Turn.isJob, Turn.isStart] at h ⊢
  start_turn := by
    intro r t h
    cases t <;> simp [Turn.isStart] at h
    exact ⟨.starting, r.worker_start, (r.ready_start.filterMap ReloadJob.caller?).subset⟩
  moves_turn := fun r t => r.moves_turn
  exists_job := by
    intro r caller htold hover
    obtain ⟨place, job, hjob, hcaller⟩ := exists_getElem?_of_mem_filterMap htold
    refine ⟨.job place, rfl, ?_⟩
    cases job <;> simp [ReloadJob.caller?] at hcaller
    simp only [turn, runJob, hjob, perform, resume, hcaller, hover, if_true]

/-- A reloader that was never started keeps what has to be kept. -/
theorem sound_fresh {r : Reloader} (hworker : r.worker = {}) : keeper.Sound r where
  tidy := by
    show r.worker.Tidy
    rw [hworker]
    exact .empty
  told := by
    show r.worker.Told r.told
    rw [hworker]
    exact Worker.Told.empty.mono (by simp)

end Reloader

/-- The consumer of a relay, and the task of a reloader, are tended at every moment of a run, and of
what its jobs may still bring about, exactly if no start of the run is in the gap of a stop. -/
theorem tended_iff_no_start_in_gap {κ σ : Type} {relay : Relay κ σ} (hrelay : relay.worker = {})
    {reloader : Reloader} (hreloader : reloader.worker = {}) :
    (∀ turns : List Relay.Turn, (∀ n later, (∀ t ∈ later, Relay.Turn.isJob t = true) →
        ((Relay.keeper κ σ).run relay (turns.take n ++ later)).worker.Tended) ↔
      (Relay.keeper κ σ).Timely relay turns) ∧
    ∀ turns : List Reloader.Turn, (∀ n later, (∀ t ∈ later, Reloader.Turn.isJob t = true) →
        (Reloader.keeper.run reloader (turns.take n ++ later)).worker.Tended) ↔
      Reloader.keeper.Timely reloader turns := by
  constructor
  · intro turns
    exact Keeper.tended_iff_timely (Relay.sound_fresh hrelay) turns
  · intro turns
    exact Keeper.tended_iff_timely (Reloader.sound_fresh hreloader) turns

/-- A relay without a store or a router. -/
def Relay.exampleBare : Relay Unit Unit where
  carrier := {
    name := fun _ => []
    deliver := fun _ _ outside => .quiet (none, outside) }
  outside := ()
  storage := .nowhere

/-- A reloader that was never started. -/
def Reloader.exampleIdle : Reloader where
  interval := 30

/-- A consumer waits and is stopped; it ends, and is started again before the stop goes on. -/
def Relay.exampleGap : List Relay.Turn :=
  [.start, .job 0, .stop 0, .job 0, .start]

/-- The same for the task of a reloader. -/
def Reloader.exampleGap : List Reloader.Turn :=
  [.start, .job 0, .stop 0, .job 0, .start]

theorem tended_iff_no_start_in_gap_exampleGap :
    (¬ ∀ n later, (∀ t ∈ later, Relay.Turn.isJob t = true) → ((Relay.keeper Unit Unit).run
        Relay.exampleBare (Relay.exampleGap.take n ++ later)).worker.Tended) ∧
      (¬ ∀ n later, (∀ t ∈ later, Reloader.Turn.isJob t = true) → (Reloader.keeper.run
        Reloader.exampleIdle (Reloader.exampleGap.take n ++ later)).worker.Tended) ∧
      ((Relay.keeper Unit Unit).run Relay.exampleBare
        (Relay.exampleGap ++ [.job 0, .start])).worker.alive.map (·.1) = [1, 2] ∧
      (Reloader.keeper.run Reloader.exampleIdle
        (Reloader.exampleGap ++ [.job 0, .start])).worker.alive.map (·.1) = [1, 2] := by
  have hrelay : Relay.exampleBare.worker = {} := rfl
  have hreloader : Reloader.exampleIdle.worker = {} := rfl
  obtain ⟨hrelay, hreloader⟩ := tended_iff_no_start_in_gap hrelay hreloader
  refine ⟨?_, ?_, by decide +kernel, by decide +kernel⟩
  · rw [hrelay]
    decide +kernel
  · rw [hreloader]
    decide +kernel

end AdmissionLedger
