import AdmissionLedger.Relay.Worker

/-!
# The reloader

Mounted rules are reloaded by a background task, which sleeps, has the files read, and
sleeps again.  The files are read elsewhere, so that it waits for that, too.

## Main definitions

* `ReloadPhase`, `Reloader` — where the task stands; the tasks and what of them can run.
* `Reloader.start`, `Reloader.beginStop`, `Reloader.wake` — what others do.
* `Reloader.perform` — one job.
* `Reloader.stop` — stopping with the wait in it.
-/

namespace AdmissionLedger

/-- Where the task stands. -/
inductive ReloadPhase
  | starting
  /-- It waits until it is time to reload. -/
  | sleeping
  /-- It was time when it was woken. -/
  | woken
  /-- It waits until the files have been read. -/
  | reading
  /-- They have been read, whatever came of it. -/
  | read
  deriving DecidableEq, Repr

namespace ReloadPhase

/-- Where the task goes when it runs. -/
def next : ReloadPhase → ReloadPhase
  | starting | read | sleeping => sleeping
  | woken | reading => reading

/-- What a task that waits is woken to. -/
def woken? : ReloadPhase → Option ReloadPhase
  | sleeping => some woken
  | reading => some read
  | starting | woken | read => none

end ReloadPhase

/-- A stretch of the task, or of a caller, that can run. -/
inductive ReloadJob
  | run (task : Nat)
  /-- A caller goes on that has waited for the end of a task. -/
  | resume (caller : Nat)
  deriving DecidableEq, Repr

/-- The background task that reloads rules from time to time. -/
structure Reloader where
  /-- The seconds between two reloads. -/
  interval : Int
  worker : Worker ReloadPhase := {}
  /-- The jobs that can run, in the order in which they will. -/
  ready : List ReloadJob := []

namespace Reloader

/-- Jobs come last in line. -/
def push (r : Reloader) (jobs : List ReloadJob) : Reloader :=
  { r with ready := r.ready ++ jobs }

/-! ### Callers -/

/-- Starts a task, unless the one that is known runs. -/
def start (r : Reloader) : Reloader :=
  match r.worker.start .starting with
  | (some id, worker) => { r with worker }.push [.run id]
  | (none, worker) => { r with worker }

/-- A task that is asked to end is made to run for it if it waits. -/
def rouse (r : Reloader) (id : Nat) : Reloader :=
  match r.worker.get? id with
  | some ⟨phase, false⟩ => if phase.woken?.isSome then r.push [.run id] else r
  | _ => r

/-- The beginning of a stop. -/
def beginStop (r : Reloader) (caller : Nat) : Reloader :=
  match r.worker.current? with
  | some id => { r.rouse id with worker := r.worker.beginStop caller }
  | none => { r with worker := r.worker.beginStop caller }

/-- What a task waits for has come: it is time to reload, or the files have been read. -/
def wake (r : Reloader) (id : Nat) : Reloader :=
  match r.worker.get? id with
  | some ⟨phase, false⟩ =>
    match phase.woken? with
    | some phase => { r with worker := r.worker.setPhase id phase }.push [.run id]
    | none => r
  | _ => r

/-! ### Jobs -/

/-- A stretch of a task.  If it was asked to end, it does, and those who wait for that go on. -/
def run (r : Reloader) (id : Nat) : Reloader :=
  match r.worker.get? id with
  | none => r
  | some task =>
    if task.asked then
      { r with worker := r.worker.finish id }.push ((r.worker.stoppers id).map .resume)
    else { r with worker := r.worker.setPhase id task.phase.next }

/-- A caller goes on after its wait. -/
def resume (r : Reloader) (caller : Nat) : Reloader :=
  if r.worker.mayEndStop caller then { r with worker := r.worker.endStop caller } else r

/-- Does a job. -/
def perform (r : Reloader) : ReloadJob → Reloader
  | .run id => r.run id
  | .resume caller => r.resume caller

/-- Does the jobs in line, at most `fuel` of them. -/
def performAll : Nat → Reloader → Reloader
  | 0, r => r
  | fuel + 1, r =>
    match r.ready with
    | [] => r
    | job :: ready => performAll fuel ({ r with ready }.perform job)

/-- Stops the task, waiting as long as it takes.  Each job in line can let callers go on, and each
caller does so once. -/
def stop (r : Reloader) : Reloader :=
  let r := r.beginStop 0
  performAll (r.ready.length + r.worker.stops.length) r

end Reloader

end AdmissionLedger
