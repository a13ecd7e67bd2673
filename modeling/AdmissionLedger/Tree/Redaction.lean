import AdmissionLedger.Digest.Sha256
import AdmissionLedger.Json.Writer
import AdmissionLedger.Log.Entry
import AdmissionLedger.Text.Utf8

/-!
# Redaction

The payload of a Secret must not leave the process.  Under the keys `data` and
`stringData` every value is replaced by a digest, so that a changed value still
shows as a change.  A text is hashed by its UTF-8 bytes and any other value by its
canonical text; a value that has no such text is hashed by a marker in its place.

## Main definitions

* `Payload`, `Payload.digest` — what can be hashed, and its digest.
* `Tree.redact` — a tree with every payload hashed.
* `Tree.payloads`, `Tree.redactionLog` — the hashed values in order, and the entries about them.
-/

namespace AdmissionLedger

/-- A value to be hashed. -/
inductive Payload
  | tree (value : Tree)
  | bytes (value : Bytes)
  /-- A value of a type that no document has. -/
  | foreign (typeName : Text)

namespace Payload

/-- What every digest begins with. -/
def digestMark : Text := "sha256:"

/-- The digest of bytes. -/
def digestBytes (bytes : Bytes) : Text :=
  digestMark ++ Sha256.hex bytes

/-- Why a value has no canonical text, if it has none. -/
def unencodable? : Payload → Option Text
  | .tree t => if t.isFinite then none else some Tree.notFiniteMessage
  | .bytes _ => none
  | .foreign name =>
    some (Text.ofString "Object of type " ++ name ++ " is not JSON serializable")

/-- The marker that is hashed in place of a value without a canonical text. -/
def errorMarker (reason : Text) : Text :=
  Text.ofString "<hash-error:" ++ reason ++ ">"

/-- The bytes that are hashed for a value.  Only a text with a surrogate has none. -/
def hashInput (p : Payload) : Except EncodeError Bytes :=
  match p.unencodable? with
  | some reason => (errorMarker reason).encodeUtf8
  | none =>
    match p with
    | .tree (.str t) => t.encodeUtf8
    | .tree t => t.canonicalText.encodeUtf8
    | .bytes b => .ok b
    | .foreign name => name.encodeUtf8

/-- The digest of a value. -/
def digest (p : Payload) : Except EncodeError Text :=
  p.hashInput.map digestBytes

end Payload

namespace Tree

/-- The kind of object whose payload is hashed. -/
def sensitiveKind : Text := "Secret"

/-- The keys whose values are hashed, at any depth. -/
def sensitiveKeys : List Text := ["data", "stringData"]

/-- The digest of a tree. -/
def digest (t : Tree) : Except EncodeError Text :=
  (Payload.tree t).digest

/-- Entries with every value hashed. -/
def hashValues : List (Text × Tree) → Except EncodeError (List (Text × Tree))
  | [] => .ok []
  | (key, value) :: rest => do
    let hashed ← digest value
    let others ← hashValues rest
    return (key, .str hashed) :: others

/-- The value of a sensitive key: a map is hashed value by value, a missing value stays missing. -/
def hashPayload : Tree → Except EncodeError Tree
  | .null => .ok .null
  | .object entries => (hashValues entries).map .object
  | t => (digest t).map .str

mutual

/-- A tree with the value of every sensitive key hashed.  Maps are searched, sequences are not. -/
def redact : Tree → Except EncodeError Tree
  | .object entries => (redactEntries entries).map .object
  | t => .ok t

/-- Entries with the values of sensitive keys hashed and the others searched. -/
def redactEntries : List (Text × Tree) → Except EncodeError (List (Text × Tree))
  | [] => .ok []
  | (key, value) :: rest => do
    let value ← if sensitiveKeys.contains key then hashPayload value else redact value
    let others ← redactEntries rest
    return (key, value) :: others

end

/-- The values that are hashed for the value of a sensitive key. -/
def payloadParts : Tree → List Tree
  | .null => []
  | .object entries => entries.map (·.2)
  | t => [t]

mutual

/-- The values that `redact` hashes, in its order. -/
def payloads : Tree → List Tree
  | .object entries => payloadsOfEntries entries
  | _ => []

/-- The values that are hashed in some entries, in order. -/
def payloadsOfEntries : List (Text × Tree) → List Tree
  | [] => []
  | (key, value) :: rest =>
    (if sensitiveKeys.contains key then payloadParts value else payloads value) ++
      payloadsOfEntries rest

end

/-- The entry about a value that was hashed by its marker. -/
def unencodableEntry? (t : Tree) : Option Log.Entry :=
  (Payload.tree t).unencodable?.map fun reason =>
    .of .warning "secret_value_unencodable"
      [("value_type", .str t.typeName), ("error", .str reason)]

/-- What is logged while a tree is redacted, up to the first value that cannot be hashed at all. -/
def redactionLog (t : Tree) : List Log.Entry :=
  (t.payloads.takeWhile fun p => p.digest.toBool).filterMap unencodableEntry?

end Tree

end AdmissionLedger
