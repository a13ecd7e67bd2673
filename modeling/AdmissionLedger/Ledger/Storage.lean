import AdmissionLedger.Ledger.Basic
import AdmissionLedger.Log.Entry
import AdmissionLedger.Metrics.Counter
import AdmissionLedger.Supply

/-!
# Storage

Events are kept in a ledger, or only logged.  A store may also be elsewhere: it
answers to an attempt at once or only after a while, and may refuse the event.

## Main definitions

* `Storage`, `Storage.save` — the stores, and an attempt to save.
* `SaveReply`, `SaveResult` — what a store answers, and what comes of an attempt.
* `SaveResult.entry`, `SaveResult.counts` — how it is logged and counted.
-/

namespace AdmissionLedger

/-- What a store answers to an attempt: that it has the event, or why not. -/
abbrev SaveReply := Except Text Unit

/-- Where events are kept. -/
inductive Storage
  /-- Nowhere; they are only logged. -/
  | nowhere
  | ledger (ledger : Ledger)
  /-- A store elsewhere, by its replies to the attempts to come, where none means that it does not
  reply at once, and by the events that it has saved. -/
  | remote (replies : Supply (Option SaveReply)) (saved : List Event)

/-- What comes of an attempt to save. -/
inductive SaveResult
  /-- There is no store. -/
  | unstored
  | saved
  | failed (message : Text)
  deriving DecidableEq, Repr

namespace SaveResult

/-- What comes of a reply. -/
def ofReply : SaveReply → SaveResult
  | .ok () => saved
  | .error message => failed message

/-- How a result is logged. -/
def entry (e : Event) : SaveResult → Log.Entry
  | unstored => .of .info "change_event_unstored" (e.coreFields ++ e.extraFields)
  | saved => .of .info "change_event_saved" [("event_id", .str e.id),
      ("operation", .str e.operation.name), ("resource_kind", .str e.resourceKind),
      ("name", .str e.name)]
  | failed message => .of .error "change_event_save_failed" [("event_id", .str e.id),
      ("error", .str message)]

/-- How a result is counted. -/
def counts : SaveResult → List Counter
  | unstored => []
  | saved => [.savedEvents true]
  | failed _ => [.savedEvents false]

end SaveResult

namespace Storage

/-- A store that refuses every event. -/
def refusing (message : Text) : Storage :=
  remote ⟨some (.error message), []⟩ []

/-- A store that replies to nobody until it is released, and to everybody from then on. -/
def slow (released : Bool) (saved : List Event) : Storage :=
  remote ⟨if released then some (.ok ()) else none, []⟩ saved

/-- The store after a reply to an attempt.  Stores that reply at once have kept the event by
then. -/
def complete (e : Event) (reply : SaveReply) : Storage → Storage
  | remote replies saved => remote replies (if reply.isOk then saved ++ [e] else saved)
  | s => s

/-- An attempt to save an event.  No result means that the store has not replied yet. -/
def save (e : Event) : Storage → Option SaveResult × Storage
  | nowhere => (some .unstored, nowhere)
  | ledger l =>
    match l.save e with
    | .ok l => (some .saved, ledger l)
    | .error error => (some (.failed error.message), ledger l)
  | remote replies saved =>
    let s := remote replies.next saved
    match replies.now with
    | some reply => (some (.ofReply reply), s.complete e reply)
    | none => (none, s)

/-- The store takes no more events. -/
def close : Storage → Storage
  | ledger l => ledger l.close
  | s => s

/-- A store that keeps others waiting replies at once from now on. -/
def release : Storage → Storage
  | remote ⟨none, _⟩ saved => slow true saved
  | s => s

/-- The identities of the kept events. -/
def ids : Storage → List Text
  | ledger l => l.ids
  | remote _ saved => saved.map (·.id)
  | _ => []

end Storage

end AdmissionLedger
