import AdmissionLedger.Alert.Router
import AdmissionLedger.Metrics.Counter

/-!
# Deliveries of a router

Each delivery of an event to a channel is a task of its own: one that fails or never
ends does not concern the others.  What channels are and what they meet outside is
left open.

## Main definitions

* `Carrier` — how channels of some kind deliver.
* `DeliveryEnd` — how a delivery can end, and how that is logged and counted.
* `DeliveryTask` — a delivery and how far it is.
-/

namespace AdmissionLedger

/-- How a delivery ends, if nobody stops it. -/
inductive DeliveryEnd
  | sent
  | refused
  /-- The channel broke down. -/
  | broken (message : Text)
  deriving DecidableEq, Repr

/-- How channels of a kind deliver. -/
structure Carrier (κ σ : Type) where
  name : κ → Text
  /-- Whether the work is done elsewhere, so that its result is seen a turn later. -/
  away : κ → Bool := fun _ => false
  /-- A delivery; no end means that it hangs. -/
  deliver : κ → Event → σ → Logged (Option DeliveryEnd × σ)

/-- Channels deliver to what is outside. -/
def Channel.carrier (r : Template.Reflection) : Carrier Channel Outside where
  name := Channel.name
  away := fun
    | .email _ => true
    | _ => false
  deliver c e o := do
    let (result, o) ← c.deliver r e o
    return match result with
      | .ok true => (some .sent, o)
      | .ok false => (some .refused, o)
      | .error error => (some (.broken error.message), o)

namespace DeliveryEnd

/-- Whether the event was delivered. -/
def success : DeliveryEnd → Bool
  | sent => true
  | _ => false

/-- How an end is counted. -/
def count (channel : Text) (result : DeliveryEnd) : Counter :=
  .notifications channel result.success

/-- The entry about an event that was delivered. -/
def sentEntry (channel : Text) (e : Event) : Log.Entry :=
  .of .info "notification_sent" [("channel", .str channel), ("event_id", .str e.id),
    ("operation", .str e.operation.name), ("resource", .str e.resource),
    ("namespace", .str e.scope)]

/-- The entry about an event that was not delivered. -/
def failedEntry (channel : Text) (e : Event) : Log.Entry :=
  .of .warning "notification_failed" [("channel", .str channel), ("event_id", .str e.id)]

/-- The entry about a channel that broke down. -/
def brokenEntry (channel : Text) (e : Event) (message : Text) : Log.Entry :=
  .of .error "notification_channel_unexpected_error" [("channel", .str channel),
    ("event_id", .str e.id), ("error", .str message)]

/-- How an end is logged. -/
def entries (channel : Text) (e : Event) : DeliveryEnd → List Log.Entry
  | sent => [sentEntry channel e]
  | refused => [failedEntry channel e]
  | broken message => [brokenEntry channel e message, failedEntry channel e]

end DeliveryEnd

/-- How far a delivery is. -/
inductive DeliveryPhase
  | scheduled
  /-- The work is done elsewhere; its result will be seen next. -/
  | away
  | hanging
  | done
  | cancelled
  deriving DecidableEq, Repr

/-- A delivery of an event to a channel. -/
structure DeliveryTask (κ : Type) where
  channel : κ
  event : Event
  phase : DeliveryPhase := .scheduled
  /-- Whether it was asked to end. -/
  asked : Bool := false
  /-- Those who wait for its end. -/
  watchers : List Nat := []

/-- Whether a delivery has ended. -/
def DeliveryTask.hasEnded {κ : Type} (d : DeliveryTask κ) : Bool :=
  d.phase = .done || d.phase = .cancelled

end AdmissionLedger
