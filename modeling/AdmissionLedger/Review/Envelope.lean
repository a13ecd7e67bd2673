import AdmissionLedger.Json.Reader
import AdmissionLedger.Tree.Check

/-!
# Review envelopes

A review arrives as a document with a version and a request in it.  Only some
fields of the request are read.  A field may come under the name of the wire
format or under its plain name, the former first; a field that is there must have
its type.

## Main definitions

* `Request` — what is read of a request.
* `Request.ofTree`, `Request.ofBytes` — the request of a document.
* `EnvelopeError` — why there is none.
* `recoverUid` — the identity of a request whose envelope may be unusable.
-/

namespace AdmissionLedger

/-- The kind of a resource with its group and version. -/
structure ResourceKind where
  group : Text := []
  version : Text := []
  kind : Text := []

/-- Who makes a request, as the server knows it. -/
structure UserInfo where
  username : Text := []
  uid : Text := []
  groups : List Text := []
  /-- Further attributes, each with several values. -/
  extra : List (Text × List Text) := []

/-- A request for admission. -/
structure Request where
  uid : Text
  kind : ResourceKind := {}
  name : Text := []
  /-- The namespace of the resource. -/
  scope : Text := []
  operation : Text := []
  user : UserInfo := {}
  /-- The object as it is to be, `null` if there is none. -/
  object : Tree := .null
  /-- The object as it is. -/
  oldObject : Tree := .null
  dryRun : Bool := false

/-- Why a document holds no usable request. -/
inductive EnvelopeError
  | unreadable (error : Json.ReadError)
  /-- So many fields have a wrong type or are missing. -/
  | misshapen (faults : Nat)
  | unsupportedVersion (version : Text)
  | noRequest
  deriving DecidableEq, Repr

/-- The version of reviews that is understood. -/
def apiVersion : Text := "admission.k8s.io/v1"

/-- The kind of document that a review is. -/
def reviewKind : Text := "AdmissionReview"

/-- The wording of a failure. -/
def EnvelopeError.message : EnvelopeError → Text
  | .unreadable e => Text.ofString "failed to unmarshal AdmissionReview: " ++ e.message
  | .misshapen n =>
    Text.ofString "invalid AdmissionReview: " ++ Text.decimal n ++ " validation error(s)"
  | .unsupportedVersion v =>
    Text.ofString "unsupported API version: " ++ v ++ ", expected " ++ apiVersion
  | .noRequest => "AdmissionReview has no request"

/-- The words that are read as flags, in lower case. -/
def flagWords : List (Text × Bool) :=
  [("0", false), ("off", false), ("f", false), ("false", false), ("n", false), ("no", false),
    ("1", true), ("on", true), ("t", true), ("true", true), ("y", true), ("yes", true)]

namespace Tree

/-- A flag: a boolean, a zero or a one, or a word for one of them. -/
def asFlag (t : Tree) : Check Bool :=
  match t with
  | .bool b => .ok b
  | .int _ | .float _ =>
    if scalarIs 0 t then .ok false else if scalarIs 1 t then .ok true else .bad 1
  | .str word =>
    match flagWords.lookup word.lowerAscii with
    | some b => .ok b
    | none => .bad 1
  | _ => .bad 1
where
  /-- Whether a number has the value of an integer. -/
  scalarIs (n : Int) : Tree → Bool
    | .int m => m == n
    | .float x => x.sameValueInt n
    | _ => false

/-- A map of sequences of texts. -/
def asAttributes (t : Tree) : Check (List (Text × List Text)) :=
  t.asEntries.andThen <| Check.all fun (key, value) => value.asTexts.map fun texts => (key, texts)

/-- The kind of a resource. -/
def asResourceKind (t : Tree) : Check ResourceKind :=
  t.asEntries.andThen fun entries =>
    ResourceKind.mk <$> fieldUnder ["group"] (.ok []) asText entries
      <*> fieldUnder ["version"] (.ok []) asText entries
      <*> fieldUnder ["kind"] (.ok []) asText entries

/-- The attributes of a user. -/
def asUserInfo (t : Tree) : Check UserInfo :=
  t.asEntries.andThen fun entries =>
    UserInfo.mk <$> fieldUnder ["username"] (.ok []) asText entries
      <*> fieldUnder ["uid"] (.ok []) asText entries
      <*> fieldUnder ["groups"] (.ok []) asTexts entries
      <*> fieldUnder ["extra"] (.ok []) asAttributes entries

/-- A request; only its identity is required. -/
def asRequest (t : Tree) : Check Request :=
  t.asEntries.andThen fun entries =>
    Request.mk <$> fieldUnder ["uid"] (.bad 1) asText entries
      <*> fieldUnder ["kind"] (.ok {}) asResourceKind entries
      <*> fieldUnder ["name"] (.ok []) asText entries
      <*> fieldUnder ["namespace"] (.ok []) asText entries
      <*> fieldUnder ["operation"] (.ok []) asText entries
      <*> fieldUnder ["userInfo", "user_info"] (.ok {}) asUserInfo entries
      <*> fieldUnder ["object", "obj"] (.ok .null) .ok entries
      <*> fieldUnder ["oldObject", "old_obj"] (.ok .null) .ok entries
      <*> fieldUnder ["dryRun", "dry_run"] (.ok false) asFlag entries

/-- A review: its version, and its request if it has one. -/
def asReview (t : Tree) : Check (Text × Option Request) :=
  t.asEntries.andThen fun entries =>
    (fun version _ request => (version, request)) <$>
      fieldUnder ["apiVersion", "api_version"] (.ok []) asText entries
      <*> fieldUnder ["kind"] (.ok []) asText entries
      <*> fieldUnder ["request"] (.ok none)
        (fun r => if r.isNull then .ok none else r.asRequest.map some) entries

end Tree

/-- The identity of the request in a document, empty if none is to be found. -/
def recoverUid (t : Tree) : Text :=
  match (t.get? "request").bind (Tree.get? "uid") with
  | some (.str uid) => uid
  | _ => []

namespace Request

/-- The request of a document. -/
def ofTree (t : Tree) : Except EnvelopeError Request :=
  match t.asReview with
  | .bad n => .error (.misshapen n)
  | .ok (version, request) =>
    if version ≠ apiVersion then .error (.unsupportedVersion version)
    else match request with
      | some r => .ok r
      | none => .error .noRequest

/-- The request of a document given as bytes, with containers up to `depth` deep.  A failure comes
with the identity of the request, as far as it could be recovered. -/
def ofBytes (depth : Nat) (body : Bytes) : Except (EnvelopeError × Text) Request :=
  match Json.readBytes depth body with
  | .error e => .error (.unreadable e, [])
  | .ok t => (ofTree t).mapError fun e => (e, recoverUid t)

/-- A request as a tree. -/
def toTree (r : Request) : Tree :=
  .record [("uid", .str r.uid),
    ("kind", .record [("group", .str r.kind.group), ("version", .str r.kind.version),
      ("kind", .str r.kind.kind)]),
    ("name", .str r.name), ("namespace", .str r.scope), ("operation", .str r.operation),
    ("user_info", .record [("username", .str r.user.username), ("uid", .str r.user.uid),
      ("groups", .texts r.user.groups),
      ("extra", .object (r.user.extra.map fun (key, values) => (key, .texts values)))]),
    ("obj", r.object), ("old_obj", r.oldObject), ("dry_run", .bool r.dryRun)]

end Request

end AdmissionLedger
