import AdmissionLedger.Ledger.Storage
import AdmissionLedger.Relay.Delivery

/-!
# The acts of a relay

What a relay does with events is kept as a history, act by act.  The counters are
read off it.

## Main definitions

* `Act` — what can be done.
* `Act.counts` — what of it is counted.
-/

namespace AdmissionLedger

/-- What a relay does. -/
inductive Act
  /-- An event that was offered is put into the queue. -/
  | accepted (e : Event)
  /-- An event that was offered finds no room. -/
  | refused (e : Event)
  /-- A consumer takes an event from the queue. -/
  | taken (e : Event)
  /-- An attempt to save an event begins. -/
  | tried (e : Event)
  /-- The attempt has ended. -/
  | concluded (e : Event) (result : SaveResult)
  /-- The router has the event, and its deliveries are scheduled. -/
  | handed (e : Event)
  /-- A consumer ends while it has an event in its hands. -/
  | lost (e : Event)
  /-- A channel has completed a delivery. -/
  | delivered (channel : Text) (e : Event) (result : DeliveryEnd)
  /-- Something else is counted. -/
  | counted (counter : Counter)

/-- What of an act is counted. -/
def Act.counts : Act → List Counter
  | refused _ => [.droppedEvents]
  | concluded _ result => result.counts
  | delivered channel _ result => [result.count channel]
  | counted counter => [counter]
  | _ => []

end AdmissionLedger
