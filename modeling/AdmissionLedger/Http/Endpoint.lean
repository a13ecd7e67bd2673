import AdmissionLedger.Http.Basic
import AdmissionLedger.Metrics.Exposition
import AdmissionLedger.Review.Answer

/-!
# Endpoints

Reviews are posted to one path; two others tell that the program is alive and what it
has counted.  A failure that nobody handled is answered too: where reviews are posted,
by a review that allows the operation.

## Main definitions

* `Endpoint` — the paths and their methods.
* `Unhandled` — a failure that nobody handled.
* `Unhandled.response` — how it is answered.
* `HttpRequest.serve` — the response to a request.
-/

namespace AdmissionLedger

/-- What there is to be asked. -/
inductive Endpoint
  | validate
  | health
  | metrics
  deriving DecidableEq, Repr

namespace Endpoint

/-- Where an endpoint is. -/
def path : Endpoint → Text
  | validate => "/validate"
  | health => "/health"
  | metrics => "/metrics"

/-- The method of an endpoint. -/
def method : Endpoint → Text
  | validate => "POST"
  | health | metrics => "GET"

/-- All endpoints. -/
def all : List Endpoint := [validate, health, metrics]

/-- The endpoint at a path, which may end with a line feed. -/
def ofPath? (path : Text) : Option Endpoint :=
  all.find? fun e => path = e.path || path = e.path ++ [CodePoint.lineFeed]

end Endpoint

/-- A path with its last slashes taken away, or with one more if it has none there. -/
def toggleSlash (path : Text) : Text :=
  if path.getLast? = some (CodePoint.ofChar '/') then
    (path.reverse.dropWhile (· = CodePoint.ofChar '/')).reverse
  else path ++ "/"

/-- A failure that nobody handled. -/
inductive Unhandled
  /-- The decision broke down. -/
  | broken (message : Text)
  /-- The answer has no bytes. -/
  | unencodable (error : EncodeError)
  deriving DecidableEq, Repr

namespace Unhandled

/-- The wording of a failure. -/
def message : Unhandled → Text
  | broken message => message
  | unencodable e => e.message

/-- The entry about a failure. -/
def entry (f : Unhandled) (method : Text) : Log.Entry :=
  .of .error "unhandled_exception" [("method", .str method), ("error", .str f.message)]

/-- What is answered where nothing better is known. -/
def internalError : Tree :=
  .record [("error", .str "INTERNAL_ERROR"), ("detail", .str "An unexpected error occurred.")]

/-- How a failure is answered at a path: reviews are allowed. -/
def response (f : Unhandled) (path : Text) : Except EncodeError HttpResponse :=
  if path = Endpoint.validate.path then
    HttpResponse.document 200 (Decision.failOpen [] f.message).answer
  else HttpResponse.document 500 internalError

end Unhandled

/-- What comes of a request. -/
structure Served where
  /-- The response; there is none if even the failure could not be answered. -/
  response : Except EncodeError HttpResponse
  /-- A failure that was answered but concerns others too. -/
  failure : Option Unhandled := none

/-- A request that failed is answered all the same. -/
def HttpRequest.recover (r : HttpRequest) (f : Unhandled) : Logged Served := do
  Logged.emit (f.entry r.method)
  return { response := f.response r.writtenPath, failure := some f }

/-- A request with a response, or with a failure to recover from. -/
def HttpRequest.conclude (r : HttpRequest) :
    Except Unhandled HttpResponse → Logged Served
  | .ok response => return { response := .ok response }
  | .error f => r.recover f

/-- A document that tells what is wrong with a request. -/
def detail (text : Text) : Tree :=
  .record [("detail", .str text)]

/-- The response to a request that no endpoint takes.  A path that is right but for slashes at its
end is told. -/
def HttpRequest.decline (r : HttpRequest) : Except EncodeError HttpResponse :=
  if r.path ≠ "/" && (Endpoint.ofPath? (toggleSlash r.path)).isSome then
    .ok { status := 307, content := .nothing, location := some (toggleSlash r.path) }
  else HttpResponse.document 404 (detail "Not Found")

/-- The response to a request.  `decide` is asked about reviews, `counts` is what was counted. -/
def HttpRequest.serve {σ : Type} (r : HttpRequest) (counts : List Counter)
    (decide : Bytes → σ → Logged (Except Unhandled Decision × σ)) (s : σ) : Logged (Served × σ) :=
  match Endpoint.ofPath? r.path with
  | none => do
    let served ← r.conclude (r.decline.mapError .unencodable)
    return (served, s)
  | some endpoint =>
    if r.method ≠ endpoint.method then do
      let refusal := (HttpResponse.document 405 (detail "Method Not Allowed")).map
        (·.allowing endpoint.method)
      let served ← r.conclude (refusal.mapError .unencodable)
      return (served, s)
    else
      match endpoint with
      | .health => return ({ response := .ok { status := 200, content := .plain "OK" } }, s)
      | .metrics =>
        return ({ response := .ok { status := 200, content := .lines (exposition counts) } }, s)
      | .validate => do
        let (decision, s) ← decide r.body s
        let answer : Except Unhandled HttpResponse := do
          let decision ← decision
          (HttpResponse.document 200 decision.answer).mapError .unencodable
        let served ← r.conclude answer
        return (served, s)

end AdmissionLedger
