import AdmissionLedger.Review.Outcome
import AdmissionLedger.Rules.Mount

/-!
# Counters

The program counts what it does.  Each step names the counters it adds one to; a
reading is how often a counter was named.

## Main definitions

* `Counter` — the counters with their labels.
* `Counter.family`, `Counter.labels` — how a counter is exposed.
-/

namespace AdmissionLedger

/-- A counter. -/
inductive Counter
  /-- Reviews that ended so. -/
  | reviews (outcome : Outcome)
  /-- Reviews whose duration was measured. -/
  | reviewDurations
  /-- Events refused by a full queue. -/
  | droppedEvents
  /-- Events given to the store. -/
  | savedEvents (success : Bool)
  /-- Deliveries that a channel completed. -/
  | notifications (channel : Text) (success : Bool)
  /-- Attempts to load a rule file. -/
  | reloads (file : PolicyFile) (result : LoadResult)
  deriving DecidableEq, Repr

namespace Counter

/-- A flag as a label. -/
def flagLabel (b : Bool) : Text :=
  if b then "true" else "false"

/-- The name under which a counter is exposed. -/
def family : Counter → Text
  | reviews _ => "kubechronicle_admission_requests_total"
  | reviewDurations => "kubechronicle_admission_duration_seconds_count"
  | droppedEvents => "kubechronicle_events_dropped_total"
  | savedEvents _ => "kubechronicle_events_saved_total"
  | notifications .. => "kubechronicle_notifications_total"
  | reloads .. => "kubechronicle_config_reloads_total"

/-- The labels of a counter, by name. -/
def labels : Counter → List (Text × Text)
  | reviews outcome => [("outcome", outcome.name)]
  | reviewDurations => []
  | droppedEvents => [("reason", "queue_full")]
  | savedEvents success => [("success", flagLabel success)]
  | notifications channel success => [("channel", channel), ("success", flagLabel success)]
  | reloads file result => [("config", file.name), ("result", result.name)]

end Counter

end AdmissionLedger
