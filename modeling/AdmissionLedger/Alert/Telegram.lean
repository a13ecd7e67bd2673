import AdmissionLedger.Alert.Delivery

/-!
# Telegram

A bot writes the same text to every chat of a list.  A chat that cannot be reached
does not keep the others from being written to; the event is delivered if every chat
took it.

## Main definitions

* `TelegramChannel` — a bot and its chats.
* `Event.chatText` — the text about an event.
* `TelegramChannel.deliver` — writes it to every chat, in order.
-/

namespace AdmissionLedger

/-- The text about an event for a chat. -/
def Event.chatText (e : Event) : Text :=
  Text.join [.lineFeed] <|
    [e.summary, Text.ofString "Event: " ++ e.id] ++
    (if e.allowed then [] else [Text.ofString "Blocked by pattern: " ++ e.blockPattern]) ++
    (if e.patch.isEmpty then [] else [Text.ofString "Changes: " ++ Text.decimal e.patch.length])

/-- A bot and the chats it writes to. -/
structure TelegramChannel where
  token : Text
  chats : List Text

namespace TelegramChannel

/-- The address that takes messages from the bot. -/
def address (c : TelegramChannel) : Text :=
  Text.ofString "https://api.telegram.org/bot" ++ c.token ++ "/sendMessage"

/-- A message to a chat. -/
def message (chat text : Text) : Tree :=
  .record [("chat_id", .str chat), ("text", .str text)]

/-- The warning about a reply, if it is no success. -/
def warning? (chat : Text) (e : Event) : Reply → Option Log.Entry
  | .answered status _ =>
    if isSuccess status then none
    else some <| .of .warning "telegram_non_2xx_response"
      [("chat_id", .str chat), ("status_code", .int status), ("event_id", .str e.id)]
  | .timedOut message | .failed message =>
    some <| .of .warning "telegram_http_error"
      [("chat_id", .str chat), ("error", .str message), ("event_id", .str e.id)]
  | .broken _ => none

/-- Writes about an event to one chat after the other. -/
def deliverTo (c : TelegramChannel) (e : Event) :
    List Text → Network → Logged (Delivery × Network)
  | [], n => return (.ok true, n)
  | chat :: rest, n =>
    match n.submit "POST" c.address [] (message chat e.chatText) with
    | (.error error, n) => return (.error error, n)
    | (.ok (.broken error), n) => return (.error (.foreign error), n)
    | (.ok reply, n) => do
      let warning := warning? chat e reply
      Logged.emitAll warning.toList
      let (later, n) ← deliverTo c e rest n
      return (later.map (warning.isNone && ·), n)

/-- Writes about an event to every chat. -/
def deliver (c : TelegramChannel) (e : Event) (n : Network) : Logged (Delivery × Network) :=
  c.deliverTo e c.chats n

end TelegramChannel

end AdmissionLedger
