import AdmissionLedger.Alert.Delivery

/-!
# Webhooks

Events are sent to an address as they are.

## Main definitions

* `WebhookChannel` — an address, the headers to send along and the method to use.
* `WebhookChannel.deliver` — sends an event.
-/

namespace AdmissionLedger

/-- An address that takes events. -/
structure WebhookChannel where
  address : Text
  headers : List (Text × Text) := []
  method : Text := "POST"

namespace WebhookChannel

/-- The header that says what is in the body. -/
def typeHeader : Text × Text :=
  (Text.ofString "Content-Type", Text.ofString "application/json")

/-- The headers of a request: the type of the body, unless there is a header of that very name, then
the others. -/
def requestHeaders (c : WebhookChannel) : List (Text × Text) :=
  match c.headers.lookup typeHeader.1 with
  | some type => (typeHeader.1, type) :: c.headers.filter (·.1 ≠ typeHeader.1)
  | none => typeHeader :: c.headers

/-- The entry about an exchange that took too long. -/
def timeoutEntry (c : WebhookChannel) (e : Event) : Log.Entry :=
  .of .warning "webhook_request_timeout" [("event_id", .str e.id), ("url", .str c.address)]

/-- The entry about an exchange that failed. -/
def failureEntry (e : Event) (message : Text) : Log.Entry :=
  .of .warning "webhook_http_error" [("error", .str message), ("event_id", .str e.id)]

/-- The entry about a reply that is no success. -/
def refusalEntry (e : Event) (status : Int) (body : Text) : Log.Entry :=
  .of .warning "webhook_non_2xx_response" [("status_code", .int status),
    ("body", .str (Reply.excerpt body)), ("event_id", .str e.id)]

/-- Sends an event. -/
def deliver (c : WebhookChannel) (e : Event) (n : Network) : Logged (Delivery × Network) :=
  match n.submit c.method c.address c.requestHeaders e.toTree with
  | (.error error, n) => return (.error error, n)
  | (.ok (.answered status body), n) => do
    if isSuccess status then return (.ok true, n)
    else
      Logged.emit (refusalEntry e status body)
      return (.ok false, n)
  | (.ok (.timedOut _), n) => do
    Logged.emit (c.timeoutEntry e)
    return (.ok false, n)
  | (.ok (.failed message), n) => do
    Logged.emit (failureEntry e message)
    return (.ok false, n)
  | (.ok (.broken error), n) => return (.error (.foreign error), n)

end WebhookChannel

end AdmissionLedger
