import AdmissionLedger.Event.Basic

/-!
# Ledgers

A ledger keeps the latest events, one for each identity and the oldest first.  When
it is full the oldest event goes.

## Main definitions

* `Ledger`, `Ledger.ofCapacity` — a ledger, and an empty one.
* `Ledger.save` — keeps an event.
* `Ledger.get?`, `Ledger.records` — what is kept.
-/

namespace AdmissionLedger

/-- The latest events. -/
structure Ledger where
  /-- The number of events that are kept. -/
  capacity : Nat
  /-- The events, the oldest first. -/
  events : List Event := []
  /-- A closed ledger takes no more events. -/
  closed : Bool := false
  capacity_pos : 0 < capacity

/-- Why an event is not kept. -/
inductive SaveError
  | closed
  | noIdentity
  deriving DecidableEq, Repr

/-- The wording of a failure. -/
def SaveError.message : SaveError → Text
  | closed => "store is closed"
  | noIdentity => "event has no ID"

/-- A ledger would have room for no event. -/
structure CapacityError where
  deriving DecidableEq, Repr

/-- The wording of the failure. -/
def CapacityError.message (_ : CapacityError) : Text :=
  "max_events must be at least 1"

namespace Ledger

/-- The capacity of a ledger if none is given. -/
def defaultCapacity : Int := 10000

/-- An empty ledger. -/
def ofCapacity (capacity : Int) : Except CapacityError Ledger :=
  if h : 0 < capacity.toNat then .ok { capacity := capacity.toNat, capacity_pos := h }
  else .error {}

/-- Events with one more: it takes the place of an earlier one of its identity, but at the end. -/
def append (events : List Event) (e : Event) : List Event :=
  events.filter (·.id ≠ e.id) ++ [e]

/-- The latest events, as many as there is room for. -/
def latest (capacity : Nat) (events : List Event) : List Event :=
  events.drop (events.length - capacity)

/-- Keeps an event. -/
def save (l : Ledger) (e : Event) : Except SaveError Ledger :=
  if l.closed then .error .closed
  else if e.id.isEmpty then .error .noIdentity
  else .ok { l with events := latest l.capacity (append l.events e) }

/-- The ledger takes no more events. -/
def close (l : Ledger) : Ledger :=
  { l with closed := true }

/-- The event of an identity. -/
def get? (l : Ledger) (id : Text) : Option Event :=
  l.events.find? (·.id = id)

/-- The kept events in stored form. -/
def records (l : Ledger) : List Tree :=
  l.events.map Event.record

/-- The identities of the kept events. -/
def ids (l : Ledger) : List Text :=
  l.events.map (·.id)

end Ledger

end AdmissionLedger
