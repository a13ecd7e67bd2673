import AdmissionLedger.Alert.Exchange
import AdmissionLedger.Alert.MailServer

/-!
# Deliveries

A channel says whether it delivered an event and logs why it did not.  Some failures
it does not know; they end the delivery and are left to whoever asked for it.

## Main definitions

* `DeliveryError` — a failure that a channel does not know.
* `Outside` — everything outside that channels meet.
* `Network.submit` — one request with a document.
-/

namespace AdmissionLedger

/-- A failure that a channel does not know. -/
inductive DeliveryError
  | request (error : RequestError)
  /-- The request was answered, and the answer has no origin. -/
  | origin (error : OriginError)
  | mail (error : MailError)
  | foreign (error : ForeignError)
  deriving DecidableEq, Repr

/-- The wording of a failure. -/
def DeliveryError.message : DeliveryError → Text
  | request e => e.message
  | origin e => e.message
  | mail e => e.message
  | foreign e => e.message

/-- Whether an event was delivered, or the failure that left this open. -/
abbrev Delivery := Except DeliveryError Bool

/-- Everything outside that channels meet. -/
structure Outside where
  network : Network
  mailHost : MailHost := {}

/-- One request with a document in its body, if it can be made.  An answer is filed under its
origin. -/
def Network.submit (n : Network) (method address : Text) (headers : List (Text × Text))
    (document : Tree) : Except DeliveryError Reply × Network :=
  match WebRequest.prepare method address headers document with
  | .error e => (.error (.request e), n)
  | .ok request =>
    let (reply, n) := n.exchange request
    match reply, request.target.checkOrigin with
    | .answered .., .error e => (.error (.origin e), n)
    | reply, _ => (.ok reply, n)

/-- As much of the body of a reply as a log entry shows. -/
def Reply.excerpt (body : Text) : Text :=
  body.take 200

end AdmissionLedger
