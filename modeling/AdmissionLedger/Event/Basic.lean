import AdmissionLedger.Event.Timestamp
import AdmissionLedger.Patch.Edit

/-!
# Change events

An event records one intercepted operation: what was done to which resource, by
whom, with which tool, and whether it was let through.  An update carries a patch,
a deletion the object as it was, a creation neither.

## Main definitions

* `Operation`, `SourceTool`, `Actor`, `Event` — the parts and the whole.
* `Event.check` — an event, if its parts fit together.
* `eventId` — the identity of an event.
* `Event.toTree`, `Event.record`, `Event.summary` — its written forms.
-/

namespace AdmissionLedger

/-- The kinds of change. -/
inductive Operation
  | create
  | update
  | delete
  /-- A command run inside a container; no review brings one. -/
  | exec
  deriving DecidableEq, Repr

namespace Operation

/-- The name of an operation. -/
def name : Operation → Text
  | create => "CREATE"
  | update => "UPDATE"
  | delete => "DELETE"
  | exec => "EXEC"

/-- All operations. -/
def all : List Operation := [create, update, delete, exec]

/-- The operation with a name. -/
def ofName? (t : Text) : Option Operation :=
  all.find? fun op => op.name = t

/-- What was done, in a sentence about a resource. -/
def verb : Operation → Text
  | create => "created"
  | update => "updated"
  | delete => "deleted"
  | exec => "exec into"

end Operation

/-- What issued a change, as far as it shows. -/
inductive SourceTool
  | kubectl
  | helm
  | controller
  | unknown
  deriving DecidableEq, Repr

namespace SourceTool

/-- The name of a tool. -/
def name : SourceTool → Text
  | kubectl => "kubectl"
  | helm => "helm"
  | controller => "controller"
  | unknown => "unknown"

/-- The tool with a name. -/
def ofName? (t : Text) : Option SourceTool :=
  [kubectl, helm, controller, unknown].find? fun tool => tool.name = t

end SourceTool

/-- Who made a change. -/
structure Actor where
  username : Text := []
  groups : List Text := []
  serviceAccount : Text := []
  sourceIp : Text := []

/-- The record of one intercepted operation. -/
structure Event where
  operation : Operation
  resourceKind : Text
  /-- The namespace of the resource, empty if it has none. -/
  scope : Text
  name : Text
  actor : Actor := {}
  source : SourceTool := .unknown
  patch : Patch := []
  snapshot : Option Tree := none
  allowed : Bool := true
  /-- The pattern that denied the operation. -/
  blockPattern : Text := []
  id : Text := []
  timestamp : Option Timestamp := none

/-- Why the parts of an event do not fit together. -/
inductive EventError
  | patchAndSnapshot
  | patchOn (operation : Operation)
  | snapshotOn (operation : Operation)
  | deniedWithoutPattern
  deriving DecidableEq, Repr

/-- The wording of a failure. -/
def EventError.message : EventError → Text
  | .patchAndSnapshot => "a change event carries either a diff or a snapshot, not both"
  | .patchOn op => Text.ofString "diff is only recorded for UPDATE, got " ++ op.name
  | .snapshotOn op => Text.ofString "object snapshot is only recorded for DELETE, got " ++ op.name
  | .deniedWithoutPattern => "a denied event must name the block pattern that matched"

/-- The identity of an event made from what it is about and its clock reading in nanoseconds. -/
def eventId (operation resourceKind name : Text) (ns : Int) : Text :=
  Text.join "-" [operation, resourceKind, name, Text.ofInt ns]

namespace Event

/-- An event whose parts fit together: a patch only on an update, a snapshot only on a deletion, and
a pattern on every denied event. -/
def check (e : Event) : Except EventError Event :=
  if !e.patch.isEmpty && e.snapshot.isSome then .error .patchAndSnapshot
  else if !e.patch.isEmpty && e.operation ≠ .update then .error (.patchOn e.operation)
  else if e.snapshot.isSome && e.operation ≠ .delete then .error (.snapshotOn e.operation)
  else if !e.allowed && e.blockPattern.isEmpty then .error .deniedWithoutPattern
  else .ok e

/-- The written timestamp, if there is one. -/
def timestampTree (e : Event) : Tree :=
  .ofOption (e.timestamp.map fun t => .str t.iso)

/-- The actor as a tree. -/
def actorTree (e : Event) : Tree :=
  .record [("username", .str e.actor.username), ("groups", .texts e.actor.groups),
    ("service_account", .str e.actor.serviceAccount), ("source_ip", .str e.actor.sourceIp)]

/-- The tool as a tree. -/
def sourceTree (e : Event) : Tree :=
  .record [("tool", .str e.source.name)]

/-- The patch as a tree. -/
def patchTree (e : Event) : Tree :=
  .array (e.patch.map Edit.toTree)

/-- The fields that every event has. -/
def coreFields (e : Event) : List (String × Tree) :=
  [("id", .str e.id), ("timestamp", e.timestampTree), ("operation", .str e.operation.name),
    ("resource_kind", .str e.resourceKind), ("namespace", .str e.scope), ("name", .str e.name),
    ("actor", e.actorTree), ("source", e.sourceTree), ("allowed", .bool e.allowed)]

/-- The fields that an event has only if there is something to say. -/
def extraFields (e : Event) : List (String × Tree) :=
  (if e.patch.isEmpty then [] else [("diff", e.patchTree)]) ++
  (match e.snapshot with
    | some t => [("object_snapshot", t)]
    | none => []) ++
  (if e.blockPattern.isEmpty then [] else [("block_pattern", .str e.blockPattern)])

/-- The form of an event that is sent out. -/
def toTree (e : Event) : Tree :=
  .record (e.coreFields ++ e.extraFields)

/-- The form of an event that is stored: every column is there, empty ones as `null`. -/
def record (e : Event) : Tree :=
  .record [("id", .str e.id), ("timestamp", e.timestampTree), ("operation", .str e.operation.name),
    ("resource_kind", .str e.resourceKind), ("namespace", .str e.scope), ("name", .str e.name),
    ("actor", e.actorTree), ("source", e.sourceTree),
    ("diff", if e.patch.isEmpty then .null else e.patchTree),
    ("object_snapshot", .ofOption e.snapshot), ("allowed", .bool e.allowed),
    ("block_pattern", .str e.blockPattern)]

/-- The resource of an event, by kind and name. -/
def resource (e : Event) : Text :=
  e.resourceKind ++ "/" ++ e.name

/-- One line for people. -/
def summary (e : Event) : Text :=
  let verb := if e.allowed then e.operation.verb else "blocked"
  let place := if e.scope.isEmpty then [] else Text.ofString " in " ++ e.scope
  let who := if e.actor.username.isEmpty then Text.ofString "unknown user" else e.actor.username
  e.resource ++ place ++ " " ++ verb ++ " by " ++ who ++ " (via " ++ e.source.name ++ ")"

end Event

end AdmissionLedger
