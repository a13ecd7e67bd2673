import AdmissionLedger.Alert.Exchange
import AdmissionLedger.Alert.Mail

/-!
# Mail servers

A mail is handed to a server in a session of calls.  The session is encrypted from
the start on some ports, or later if the server offers it; a name is shown if there
is one.  A call may fail; the session is then left, and left politely unless it was
never opened.

## Main definitions

* `MailServer` — how a server is reached.
* `MailCall`, `MailHost` — the calls of a session, and what a server does on them.
* `MailHost.deliver` — a session that hands over one mail.
-/

namespace AdmissionLedger

/-- A time to wait, as it was given: in whole seconds or as a double. -/
inductive Seconds
  | whole (seconds : Int)
  | double (seconds : Double)
  deriving DecidableEq, Repr

/-- How a server is reached. -/
structure MailServer where
  host : Text
  port : Int
  username : Text
  password : Text
  sender : Text
  /-- Whether the connection is encrypted from the start. -/
  encrypted : Bool
  timeout : Seconds

namespace MailServer

/-- The port of connections that are encrypted from the start. -/
def encryptedPort : Int := 465

/-- The time to wait for a server if none is given. -/
def defaultTimeout : Seconds := .double (.ofIntRatio 10 1)

end MailServer

/-- A call to a server. -/
inductive MailCall
  | connect (encrypted : Bool) (host : Text) (port : Int) (timeout : Seconds)
  | greet
  /-- Asks whether the server offers encryption. -/
  | askEncryption
  | startEncryption
  | login (username password : Text)
  | send (subject : Text)
  | quit
  deriving DecidableEq, Repr

/-- The name of a call, by which a failure is tied to it. -/
def MailCall.name : MailCall → Text
  | connect .. => "connect"
  | greet => "ehlo"
  | askEncryption => "has_extn"
  | startEncryption => "starttls"
  | login .. => "login"
  | send _ => "send"
  | quit => "quit"

/-- How a call can fail. -/
inductive MailFault
  /-- The server refuses. -/
  | refused (message : Text)
  /-- The connection fails. -/
  | connection (message : Text)
  /-- The subject of the mail cannot be shown. -/
  | subject (error : EncodeError)
  | broken (error : ForeignError)
  deriving DecidableEq, Repr

/-- What a server does: whether it offers encryption, which call fails and how, and the calls that
were made. -/
structure MailHost where
  offersEncryption : Bool := false
  failure : Option (Text × MailFault) := none
  calls : List MailCall := []

namespace MailHost

/-- A call, which is made whether it fails or not. -/
def call (c : MailCall) (h : MailHost) : Except MailFault Unit × MailHost :=
  let h' := { h with calls := h.calls ++ [c] }
  match h.failure with
  | some (name, fault) => (if name = c.name then .error fault else .ok (), h')
  | none => (.ok (), h')

/-- Calls one after the other, up to the first that fails. -/
def callAll : List MailCall → MailHost → Except MailFault Unit × MailHost
  | [], h => (.ok (), h)
  | c :: rest, h =>
    match h.call c with
    | (.error fault, h) => (.error fault, h)
    | (.ok (), h) => callAll rest h

/-- The calls between connecting and handing over. -/
def sessionCalls (server : MailServer) (offersEncryption : Bool) : List MailCall :=
  (if server.encrypted then []
    else [.greet, .askEncryption] ++
      if offersEncryption then [.startEncryption, .greet] else []) ++
  (if server.username.isEmpty then [] else [.login server.username server.password])

/-- The call that hands over a mail. -/
def handOver (mail : Mail) (h : MailHost) : Except MailFault Unit × MailHost :=
  match Mail.shownHeader mail.subject with
  | .error e => (.error (.subject e), h)
  | .ok subject => h.call (.send subject)

/-- A session that hands over a mail.  Whether leaving it fails does not count. -/
def deliver (server : MailServer) (mail : Mail) (h : MailHost) : Except MailFault Unit × MailHost :=
  match h.call (.connect server.encrypted server.host server.port server.timeout) with
  | (.error fault, h) => (.error fault, h)
  | (.ok (), h) =>
    let (result, h) : Except MailFault Unit × MailHost :=
      match callAll (sessionCalls server h.offersEncryption) h with
      | (.error fault, h) => (.error fault, h)
      | (.ok (), h) => handOver mail h
    (result, (h.call .quit).2)

end MailHost

end AdmissionLedger
