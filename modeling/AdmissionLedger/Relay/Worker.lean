/-!
# Workers

A component keeps one background task.  Starting it does nothing while the task
runs; stopping it asks the task to end, waits until it has, and forgets it.

Starting and stopping are called by others, possibly at once, so stopping is two
acts: what is done before the wait and what is done after it.

## Main definitions

* `Task`, `Worker` — a task that has not ended, and the tasks of a component with the one it knows.
* `Worker.start`, `Worker.beginStop`, `Worker.endStop` — the acts on the task that it knows.
* `Worker.finish` — a task ends.
-/

namespace AdmissionLedger

/-- A background task that has not ended. -/
structure Task (α : Type) where
  /-- What it is doing. -/
  phase : α
  /-- Whether it was asked to end. -/
  asked : Bool := false

/-- The background tasks of a component. -/
structure Worker (α : Type) where
  /-- The task that the component knows; it may have ended. -/
  held : Option Nat := none
  /-- The tasks that have not ended. -/
  alive : List (Nat × Task α) := []
  /-- The number of tasks there ever were; they are numbered in the order of their creation. -/
  created : Nat := 0
  /-- The callers that are in the middle of a stop, each with the task whose end it awaits. -/
  stops : List (Nat × Nat) := []

namespace Worker

variable {α : Type}

/-- A task, unless it has ended. -/
def get? (w : Worker α) (id : Nat) : Option (Task α) :=
  w.alive.lookup id

/-- Whether a task has not ended. -/
def isAlive (w : Worker α) (id : Nat) : Bool :=
  (w.get? id).isSome

/-- The task that the component knows, if it has not ended. -/
def current? (w : Worker α) : Option Nat :=
  w.held.filter w.isAlive

/-- A task changes. -/
def change (w : Worker α) (id : Nat) (f : Task α → Task α) : Worker α :=
  { w with alive := w.alive.map fun (i, task) => (i, if i = id then f task else task) }

/-- A task goes on to something else. -/
def setPhase (w : Worker α) (id : Nat) (phase : α) : Worker α :=
  w.change id fun task => { task with phase }

/-- A task is asked to end. -/
def ask (w : Worker α) (id : Nat) : Worker α :=
  w.change id fun task => { task with asked := true }

/-- Starting: unless the task that the component knows is running, there is a new one. -/
def start (w : Worker α) (phase : α) : Option Nat × Worker α :=
  match w.current? with
  | some _ => (none, w)
  | none => (some w.created, { w with
      held := some w.created
      alive := w.alive ++ [(w.created, { phase })]
      created := w.created + 1 })

/-- A task ends. -/
def finish (w : Worker α) (id : Nat) : Worker α :=
  { w with alive := w.alive.filter (·.1 ≠ id) }

/-- The callers that await the end of a task. -/
def stoppers (w : Worker α) (id : Nat) : List Nat :=
  (w.stops.filter (·.2 = id)).map (·.1)

/-- Whether a caller is in the middle of a stop. -/
def isStopping (w : Worker α) (caller : Nat) : Bool :=
  (w.stops.lookup caller).isSome

/-- The beginning of a stop: a task that runs is asked to end, and the caller awaits that.  One that
has ended is forgotten at once. -/
def beginStop (w : Worker α) (caller : Nat) : Worker α :=
  match w.current? with
  | some id => { w.ask id with stops := w.stops ++ [(caller, id)] }
  | none => { w with held := none }

/-- Whether a caller is in the middle of a stop and the task has ended. -/
def mayEndStop (w : Worker α) (caller : Nat) : Bool :=
  match w.stops.lookup caller with
  | some id => !w.isAlive id
  | none => false

/-- The end of a stop: the component knows no task, whichever the caller had waited for. -/
def endStop (w : Worker α) (caller : Nat) : Worker α :=
  { w with held := none, stops := w.stops.filter (·.1 ≠ caller) }

end Worker

end AdmissionLedger
