import AdmissionLedger.Event.Basic
import AdmissionLedger.Review.Envelope
import AdmissionLedger.Text.Case
import AdmissionLedger.Text.Quoted

/-!
# Candidates

A request is turned into a candidate: an event without identity, time and
decision.  An update carries the patch between its two objects, a deletion the old
object without noise and payloads.

## Main definitions

* `SourceTool.detect` — the tool that seems to have issued a change.
* `Event.ofRequest` — the candidate of a request.
* `CandidateError` — why there is none.
-/

namespace AdmissionLedger

/-- Why a request gives no candidate. -/
inductive CandidateError
  | unsupportedOperation (name : Text)
  /-- A field that has to hold an object holds something else. -/
  | notAnObject (field typeName : Text)
  /-- The object of a deletion could not be prepared. -/
  | unpreparable (error : EncodeError)
  /-- The parts of the candidate do not fit together. -/
  | inconsistent (error : EventError)
  deriving DecidableEq, Repr

namespace CandidateError

/-- The wording of a failure. -/
def message : CandidateError → Text
  | unsupportedOperation name => Text.ofString "unsupported operation: " ++ name.quoted
  | notAnObject field typeName => field ++ " is " ++ typeName ++ ", expected an object"
  | unpreparable e => e.message
  | inconsistent e => e.message

/-- Whether the request itself is at fault, and not what happened to it. -/
def isRefusal : CandidateError → Bool
  | unsupportedOperation _ | notAnObject .. => true
  | unpreparable _ | inconsistent _ => false

end CandidateError

/-- The operations that come with a review. -/
def Operation.reviewed : List Operation := [.create, .update, .delete]

/-- The operation that a request names, in any case. -/
def Operation.ofRequest? (name : Text) : Option Operation :=
  reviewed.find? fun op => op.name = name.upper

/-- What the names of service accounts begin with. -/
def serviceAccountMark : Text := "system:serviceaccount"

/-- Users that are part of the control plane. -/
def controllerUsers : List Text := ["system:kube-controller-manager", "system:kube-scheduler"]

/-- The label in which a tool names itself. -/
def managedByLabel : Text := "app.kubernetes.io/managed-by"

/-- Whether the labels of an object name the package manager. -/
def Tree.isHelmManaged (object : Tree) : Bool :=
  match ((object.get? "metadata").bind (get? "labels")).bind (get? managedByLabel) with
  | some (.str manager) => manager = Text.ofString "Helm"
  | _ => false

/-- The tool that seems to have issued a change, by the labels of the object and the user's name. -/
def SourceTool.detect (username : Text) (object : Tree) : SourceTool :=
  if object.isHelmManaged then .helm
  else if controllerUsers.contains username || username.startsWith serviceAccountMark then
    .controller
  else if !username.isEmpty && !username.startsWith "system:" then .kubectl
  else .unknown

/-- The attribute with the address from which a request came. -/
def remoteAddressKey : Text := "authentication.kubernetes.io/remote-addr"

/-- Who made a request. -/
def UserInfo.actor (u : UserInfo) : Actor where
  username := u.username
  groups := u.groups
  serviceAccount := if u.username.startsWith serviceAccountMark then u.username else []
  sourceIp := ((u.extra.lookup remoteAddressKey).bind List.head?).getD []

/-- A field that holds an object or nothing. -/
def Tree.requireObject (field : Text) (t : Tree) : Except CandidateError Unit :=
  match t with
  | .null | .object _ => .ok ()
  | t => .error (.notAnObject field t.typeName)

/-- The name that an object gives itself. -/
def Tree.metadataName (object : Tree) : Text :=
  match (object.get? "metadata").bind (get? "name") with
  | some (.str name) => name
  | _ => []

/-- The patch of an update.  A failure is logged and leaves the event without a patch. -/
def Patch.orEmpty (kind : Text) (old new : Tree) : Logged Patch := do
  .emitAll (Patch.betweenLog kind old new)
  match Patch.between kind old new with
  | .ok patch => return patch
  | .error e =>
    .emit (.of .error "diff_failed" [("resource_kind", .str kind), ("error", .str e.message)])
    return []

/-- The patch or the snapshot that an operation carries. -/
def Operation.payload (op : Operation) (kind : Text) (old new : Tree) :
    Logged (Except CandidateError (Patch × Option Tree)) :=
  match op with
  | .update =>
    if old.isNull || new.isNull then return .ok ([], none)
    else do
      let patch ← Patch.orEmpty kind old new
      return .ok (patch, none)
  | .delete =>
    if old.isNull then return .ok ([], none)
    else ⟨Tree.preparationLog kind old,
      match Tree.prepare kind old with
      | .ok snapshot => .ok ([], some snapshot)
      | .error e => .error (.unpreparable e)⟩
  | _ => return .ok ([], none)

/-- The name of the resource of a request; a deletion may have it in the object only. -/
def Request.resourceName (r : Request) (op : Operation) : Text :=
  if op = .delete && r.name.isEmpty then r.oldObject.metadataName else r.name

/-- The event of a request without identity, time and decision, given what it carries. -/
def Request.candidate (r : Request) (op : Operation) (patch : Patch) (snapshot : Option Tree) :
    Event where
  operation := op
  resourceKind := r.kind.kind
  scope := r.scope
  name := r.resourceName op
  actor := r.user.actor
  source := .detect r.user.username r.object
  patch := patch
  snapshot := snapshot

/-- The candidate of a request. -/
def Event.ofRequest (r : Request) : Logged (Except CandidateError Event) :=
  match Operation.ofRequest? r.operation with
  | none => return .error (.unsupportedOperation r.operation)
  | some op =>
    match r.oldObject.requireObject "oldObject", r.object.requireObject "object" with
    | .error e, _ => return .error e
    | .ok _, .error e => return .error e
    | .ok _, .ok _ => do
      let carried ← op.payload r.kind.kind r.oldObject r.object
      match carried with
      | .error e => return .error e
      | .ok (patch, snapshot) =>
        return (r.candidate op patch snapshot).check.mapError .inconsistent

end AdmissionLedger
