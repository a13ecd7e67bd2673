import AdmissionLedger.Alert.Delivery

/-!
# Slack

A chat with an incoming hook gets a message made of blocks: a summary, four fields,
the pattern that blocked, and the first few edits.

## Main definitions

* `SlackChannel` — a hook with the chat and the name to post under.
* `SlackChannel.message` — the message about an event.
* `SlackChannel.deliver` — posts it.
-/

namespace AdmissionLedger

/-- A chat with an incoming hook.  An empty chat or name leaves the choice to the hook. -/
structure SlackChannel where
  address : Text
  channel : Text := []
  username : Text := []

namespace SlackChannel

/-- The number of edits that a message lists. -/
def shownEdits : Nat := 10

/-- A text with marks. -/
def marked (text : Text) : Tree :=
  .record [("type", .str "mrkdwn"), ("text", .str text)]

/-- A section with one text. -/
def textSection (text : Text) : Tree :=
  .record [("type", .str "section"), ("text", marked text)]

/-- A field: a label in bold over its value. -/
def labelled (label value : Text) : Tree :=
  marked (Text.ofString "*" ++ label ++ "*" ++ [CodePoint.lineFeed] ++ value)

/-- A value that is shown as a dash if there is none. -/
def orDash (value : Text) : Text :=
  if value.isEmpty then "-" else value

/-- The section of fields. -/
def fieldSection (e : Event) : Tree :=
  .record [("type", .str "section"), ("fields", .array [
    labelled "Operation" e.operation.name, labelled "Kind" e.resourceKind,
    labelled "Namespace" (orDash e.scope), labelled "User" (orDash e.actor.username)])]

/-- The block about the pattern that blocked. -/
def blockedContext (pattern : Text) : Tree :=
  .record [("type", .str "context"),
    ("elements", .array [marked (Text.ofString "Blocked by \x60" ++ pattern ++ "\x60")])]

/-- The lines about a patch: the first edits, and how many there are beyond them. -/
def patchLines (patch : Patch) : List Text :=
  ((patch.take shownEdits).map fun edit => edit.kind.name ++ Text.ofString " " ++ edit.location) ++
    if patch.length ≤ shownEdits then []
    else [Text.ofString "... " ++ Text.decimal (patch.length - shownEdits) ++ " more"]

/-- The section about a patch, as preformatted text. -/
def patchSection (patch : Patch) : Tree :=
  let fence := Text.ofString "\x60\x60\x60"
  textSection (fence ++ Text.join [.lineFeed] (patchLines patch) ++ fence)

/-- The blocks of a message. -/
def blocks (e : Event) : List Tree :=
  [textSection (Text.ofString "*" ++ e.summary ++ "*"), fieldSection e] ++
  (if e.allowed then [] else [blockedContext e.blockPattern]) ++
  (if e.patch.isEmpty then [] else [patchSection e.patch])

/-- The message about an event. -/
def message (c : SlackChannel) (e : Event) : Tree :=
  .record ([("text", .str e.summary), ("blocks", .array (blocks e))] ++
    (if c.channel.isEmpty then [] else [("channel", .str c.channel)]) ++
    (if c.username.isEmpty then [] else [("username", .str c.username)]))

/-- The entry about an exchange that failed. -/
def failureEntry (e : Event) (message : Text) : Log.Entry :=
  .of .warning "slack_http_error" [("error", .str message), ("event_id", .str e.id)]

/-- The entry about a reply that is no success. -/
def refusalEntry (e : Event) (status : Int) (body : Text) : Log.Entry :=
  .of .warning "slack_non_2xx_response" [("status_code", .int status),
    ("body", .str (Reply.excerpt body)), ("event_id", .str e.id)]

/-- Posts the message about an event. -/
def deliver (c : SlackChannel) (e : Event) (n : Network) : Logged (Delivery × Network) :=
  match n.submit "POST" c.address [] (c.message e) with
  | (.error error, n) => return (.error error, n)
  | (.ok (.answered status body), n) => do
    if isSuccess status then return (.ok true, n)
    else
      Logged.emit (refusalEntry e status body)
      return (.ok false, n)
  | (.ok (.timedOut message), n) | (.ok (.failed message), n) => do
    Logged.emit (failureEntry e message)
    return (.ok false, n)
  | (.ok (.broken error), n) => return (.error (.foreign error), n)

end SlackChannel

end AdmissionLedger
