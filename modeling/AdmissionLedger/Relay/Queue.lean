import AdmissionLedger.Event.Basic

/-!
# Queues

Accepted events wait in a queue, first come first served.

## Main definitions

* `EventQueue` — the waiting events and how many may wait.
* `EventQueue.push?` — one event more, if there is room.
-/

namespace AdmissionLedger

/-- Events that wait. -/
structure EventQueue where
  /-- The number of events that may wait; there is no limit unless it is positive. -/
  capacity : Int := 1000
  events : List Event := []

namespace EventQueue

/-- Whether there is no room. -/
def isFull (q : EventQueue) : Bool :=
  0 < q.capacity && q.capacity ≤ q.events.length

/-- One event more, at the end. -/
def push? (q : EventQueue) (e : Event) : Option EventQueue :=
  if q.isFull then none else some { q with events := q.events ++ [e] }

end EventQueue

end AdmissionLedger
