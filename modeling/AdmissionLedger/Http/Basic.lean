import AdmissionLedger.Json.Writer
import AdmissionLedger.Text.Utf8

/-!
# Requests and responses

## Main definitions

* `HttpRequest`, `HttpRequest.writtenPath` — what comes in.
* `Content`, `HttpResponse` — what goes out.
* `HttpResponse.document` — a response with a document, which must have bytes.
-/

namespace AdmissionLedger

/-- What comes in. -/
structure HttpRequest where
  method : Text
  path : Text
  body : Bytes := []

/-- The path in the written address of a request: behind a slash, and without tabs and line ends,
which an address cannot hold. -/
def HttpRequest.writtenPath (r : HttpRequest) : Text :=
  let path := if r.path.startsWith "/" then r.path else CodePoint.ofChar '/' :: r.path
  path.filter fun c => c.val ≠ 0x09 && c.val ≠ 0x0A && c.val ≠ 0x0D

/-- What a response holds. -/
inductive Content
  | nothing
  | plain (text : Text)
  | lines (lines : List Text)
  /-- A document, of which the tree is kept beside its bytes. -/
  | document (tree : Tree) (bytes : Bytes)

/-- The type of a content, if it has one. -/
def Content.type? : Content → Option Text
  | nothing => none
  | plain _ => some "text/plain; charset=utf-8"
  | lines _ => some "text/plain; version=0.0.4; charset=utf-8"
  | document .. => some "application/json"

/-- What goes out. -/
structure HttpResponse where
  status : Nat
  content : Content
  /-- The method that would have been right. -/
  allow : Option Text := none
  /-- Where the request should go instead. -/
  location : Option Text := none

namespace HttpResponse

/-- A response with a document.  There is none if the document has no bytes. -/
def document (status : Nat) (t : Tree) : Except EncodeError HttpResponse :=
  (t.write .unicode).encodeUtf8.map fun bytes => { status, content := .document t bytes }

/-- The same response with a method that would have been right. -/
def allowing (r : HttpResponse) (method : Text) : HttpResponse :=
  { r with allow := some method }

end HttpResponse

end AdmissionLedger
