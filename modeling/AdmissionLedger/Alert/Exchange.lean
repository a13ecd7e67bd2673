import AdmissionLedger.Alert.Address
import AdmissionLedger.Json.Writer
import AdmissionLedger.Log.Entry
import AdmissionLedger.Supply
import AdmissionLedger.Text.Case

/-!
# Exchanges

Channels reach the outside by requests with a document in the body.  What comes
back is given in advance, reply by reply, so that a delivery is a function of it.

## Main definitions

* `WebRequest`, `Reply` — what goes out and what comes back.
* `WebRequest.prepare` — a request, or why it cannot be made.
* `Network`, `Network.exchange` — the replies to come and the requests made; one exchange.
-/

namespace AdmissionLedger

/-- A request as it goes out. -/
structure WebRequest where
  method : Text
  target : Address
  /-- The headers that say something about the request, names in lower case. -/
  headers : List (Text × Text)
  body : Text

/-- The address of a request in its written form. -/
def WebRequest.address (r : WebRequest) : Text :=
  r.target.text

/-- A failure of a kind that no channel knows. -/
structure ForeignError where
  kind : Text
  message : Text
  deriving DecidableEq, Repr

/-- What comes back for a request. -/
inductive Reply
  | answered (status : Int) (body : Text)
  | timedOut (message : Text)
  /-- The exchange failed in another way that web exchanges can fail. -/
  | failed (message : Text)
  | broken (error : ForeignError)
  deriving DecidableEq, Repr

/-- Whether a status is that of a success. -/
def isSuccess (status : Int) : Bool :=
  200 ≤ status && status ≤ 299

/-- Why a request cannot be made. -/
inductive RequestError
  | address (error : AddressError)
  /-- The name of the host cannot be read. -/
  | host (fault : LabelFault)
  | encoding (error : EncodeError)
  /-- The document holds a number that is not finite. -/
  | notFinite
  deriving DecidableEq, Repr

/-- The wording of a failure. -/
def RequestError.message : RequestError → Text
  | address e => e.message
  | host fault => fault.message
  | encoding e => e.message
  | notFinite => Tree.notFiniteMessage

namespace WebRequest

/-- The bytes of a document in a body must be UTF-8, and its numbers finite. -/
def bodyOf (document : Tree) : Except RequestError Text :=
  if document.isFinite then
    let text := document.write .unicode
    (text.encodeUtf8.mapError .encoding).map fun _ => text
  else .error .notFinite

/-- Headers are ASCII; their names do not distinguish case. -/
def headersOf : List (Text × Text) → Except RequestError (List (Text × Text))
  | [] => .ok []
  | (name, value) :: rest => do
    let _ ← name.encodeAscii.mapError .encoding
    let _ ← value.encodeAscii.mapError .encoding
    let rest ← headersOf rest
    return (name.lowerAscii, value) :: rest

/-- Headers that only concern the connection. -/
def connectionHeaders : List Text :=
  ["host", "accept", "accept-encoding", "connection", "user-agent", "content-length"]

/-- The digits of base 64. -/
def base64Digit (n : Nat) : CodePoint :=
  if n < 26 then .ofNat (0x41 + n)
  else if n < 52 then .ofNat (0x61 + (n - 26))
  else if n < 62 then .ofNat (0x30 + (n - 52))
  else if n = 62 then ↑ '+' else ↑ '/'

/-- Bytes in base 64, three by three. -/
def base64 : Bytes → Text
  | a :: b :: c :: rest =>
    let n := (a.toNat * 256 + b.toNat) * 256 + c.toNat
    base64Digit (n / 262144) :: base64Digit (n / 4096 % 64) :: base64Digit (n / 64 % 64) ::
      base64Digit (n % 64) :: base64 rest
  | [a, b] =>
    let n := (a.toNat * 256 + b.toNat) * 4
    [base64Digit (n / 4096), base64Digit (n / 64 % 64), base64Digit (n % 64), ↑ '=']
  | [a] =>
    let n := a.toNat * 16
    [base64Digit (n / 64), base64Digit (n % 64), ↑ '=', ↑ '=']
  | [] => []

/-- The bytes that a percent-encoded text of ASCII stands for. -/
def percentDecode : Text → Bytes
  | c :: a :: b :: rest =>
    match Json.hexValue? a, Json.hexValue? b with
    | some x, some y =>
      if c = ↑ '%' then UInt8.ofNat (x * 16 + y) :: percentDecode rest
      else UInt8.ofNat c.val :: percentDecode (a :: b :: rest)
    | _, _ => UInt8.ofNat c.val :: percentDecode (a :: b :: rest)
  | c :: rest => UInt8.ofNat c.val :: percentDecode rest
  | [] => []

/-- The bytes of a part of an address, where what is no UTF-8 is replaced. -/
def plainBytes (part : Text) : Bytes :=
  (Text.decodeUtf8Lossy (percentDecode part)).flatMap CodePoint.utf8Bytes

/-- The header by which the name and the password of an address are shown to the other side. -/
def credentials? (userinfo : Text) : Option (Text × Text) :=
  let name := userinfo.takeWhile (· ≠ ↑ ':')
  let password := userinfo.drop (name.length + 1)
  if name.isEmpty && password.isEmpty then none
  else
    let bytes := plainBytes name ++ [0x3A] ++ plainBytes password
    some ("authorization", Text.ofString "Basic " ++ base64 bytes)

/-- The header about the server, which is written unless one is given, shows the server in ASCII; a
name that is in its form on the wire must be readable. -/
def checkServer (target : Address) (headers : List (Text × Text)) : Except RequestError Unit := do
  if headers.any (·.1 = "host") || target.host.isEmpty then return ()
  if Host.isWireName target.host then
    let _ ← (DomainName.ofWire target.host).mapError .host
  let _ ← target.server.encodeAscii.mapError .encoding

/-- Headers with one more, in the place of the first of its name. -/
def setHeader (header : Text × Text) (headers : List (Text × Text)) : List (Text × Text) :=
  if headers.any (·.1 = header.1) then
    headers.takeWhile (·.1 ≠ header.1) ++
      header :: (headers.dropWhile (·.1 ≠ header.1)).filter (·.1 ≠ header.1)
  else headers ++ [header]

/-- A request with a document in its body.  The address is looked at first, then the headers, then
the document, and at last the server.  A header about the type of the body is added if there is
none. -/
def prepare (method address : Text) (headers : List (Text × Text)) (document : Tree) :
    Except RequestError WebRequest := do
  let target ← ((Address.ofText address).bind Address.anchored).mapError .address
  let headers ← headersOf headers
  let body ← bodyOf document
  checkServer target headers
  let headers := if headers.any (·.1 = "content-type") then headers
    else headers ++ [(Text.ofString "content-type", Text.ofString "application/json")]
  let headers := match credentials? target.userinfo with
    | some header => setHeader header headers
    | none => headers
  return ⟨Text.upper method, target, headers.filter (!connectionHeaders.contains ·.1), body⟩

end WebRequest

/-- The outside as channels meet it. -/
structure Network where
  replies : Supply Reply
  requests : List WebRequest := []

/-- A request that gets the next reply. -/
def Network.exchange (n : Network) (r : WebRequest) : Reply × Network :=
  (n.replies.now, ⟨n.replies.next, n.requests ++ [r]⟩)

end AdmissionLedger
