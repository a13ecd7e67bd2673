import AdmissionLedger.Alert.Delivery

/-!
# Email

Events are mailed to a list of recipients.

## Main definitions

* `EmailChannel` — a server, the recipients and the template of the subject.
* `EmailChannel.deliver` — mails an event.
-/

namespace AdmissionLedger

/-- Recipients and how they are reached. -/
structure EmailChannel where
  server : MailServer
  recipients : List Text
  /-- The template of the subject. -/
  template : Text := defaultSubject

namespace EmailChannel

/-- The mail about an event. -/
def mail (c : EmailChannel) (r : Template.Reflection) (e : Event) : Except MailError Mail :=
  e.mail r c.template c.server.sender c.recipients

/-- The entry about a server that refuses. -/
def refusalEntry (e : Event) (message : Text) : Log.Entry :=
  .of .warning "email_smtp_error" [("error", .str message), ("event_id", .str e.id)]

/-- The entry about a connection that fails. -/
def connectionEntry (e : Event) (message : Text) : Log.Entry :=
  .of .warning "email_connection_error" [("error", .str message), ("event_id", .str e.id)]

/-- Mails an event. -/
def deliver (c : EmailChannel) (r : Template.Reflection) (e : Event) (h : MailHost) :
    Logged (Delivery × MailHost) :=
  match c.mail r e with
  | .error error => return (.error (.mail error), h)
  | .ok mail =>
    match h.deliver c.server mail with
    | (.ok (), h) => return (.ok true, h)
    | (.error (.refused message), h) => do
      Logged.emit (refusalEntry e message)
      return (.ok false, h)
    | (.error (.connection message), h) => do
      Logged.emit (connectionEntry e message)
      return (.ok false, h)
    | (.error (.subject error), h) => return (.error (.mail (.encoding error)), h)
    | (.error (.broken error), h) => return (.error (.foreign error), h)

end EmailChannel

end AdmissionLedger
