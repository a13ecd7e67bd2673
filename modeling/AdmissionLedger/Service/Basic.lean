import AdmissionLedger.Relay.Run
import AdmissionLedger.Review.Answer
import AdmissionLedger.Rules.Reload
import AdmissionLedger.Service.Reloader
import AdmissionLedger.Settings.Basic

/-!
# The service

The service is all components together.  What it finds outside is given with it: its
environment, the mounted rule files, and whether its listener can be opened.

## Main definitions

* `Component` — the parts that are stopped one by one.
* `Service` — the parts and what is outside.
-/

namespace AdmissionLedger

/-- A relay as a sink of events. -/
def Relay.sink {κ σ : Type} : Sink (Relay κ σ) where
  offer e r := r.offer e

/-- The version of the program. -/
def programVersion : Text := "0.1.0"

/-- The parts that are stopped one by one. -/
inductive Component
  | reloader
  | processor
  | router
  | store
  deriving DecidableEq, Repr

/-- The name of a part in entries. -/
def Component.name : Component → Text
  | reloader => "reloader"
  | processor => "processor"
  | router => "notifications"
  | store => "store"

/-- All components. -/
structure Service where
  environment : Environment
  /-- What is mounted, if anything is. -/
  mount : Option Mount := none
  /-- Why the listener cannot be opened, if it cannot. -/
  listenerFault : Option Text := none
  clock : Clock
  /-- How deep the containers of a body may be nested. -/
  nesting : Nat
  /-- The settings, once they have been read. -/
  settings : Option Settings := none
  /-- The rules in force, once there are any. -/
  policy : Option Policy := none
  relay : Relay Channel Outside
  reloader : Option Reloader := none
  /-- The listeners that have been opened. -/
  listeners : List ListenerSettings := []
  running : Bool := false
  /-- The parts that cannot be stopped, and why. -/
  faults : List (Component × Text) := []

namespace Service

/-- A service that was never started. -/
def idle (reflection : Template.Reflection) (nesting : Nat) (environment : Environment)
    (outside : Outside) (clock : Clock) : Service where
  environment := environment
  clock := clock
  nesting := nesting
  relay := { carrier := Channel.carrier reflection, outside := outside, storage := .nowhere }

/-- Counters are added to. -/
def count (s : Service) (counters : List Counter) : Service :=
  { s with relay := s.relay.count counters }

/-- Whether events are kept. -/
def ledger? (s : Service) : Option Ledger :=
  match s.relay.storage with
  | .ledger l => some l
  | _ => none

/-- The decision about a body, and what becomes of its event until nothing is left to do.  There is
none before there are rules. -/
def review (s : Service) (body : Bytes) : Option (Logged (Decision × Service)) :=
  s.policy.map fun policy => do
    let (decision, clock, relay) ←
      AdmissionLedger.review s.nesting policy (some Relay.sink) body s.clock s.relay
    let relay ← (relay.count decision.counts).settle
    return (decision, { s with clock, relay })

end Service

end AdmissionLedger
