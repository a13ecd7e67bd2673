import AdmissionLedger.Number.Numeral
import AdmissionLedger.Rules.Document

/-!
# Alert settings

Which channels are to be told about events, and about which operations.  A channel
that is not mentioned has no settings; one that is mentioned may still lack what it
needs.

## Main definitions

* `AlertSettings` — the settings of all channels and the filter.
* `AlertSettings.ofText` — the settings of a strict document, or the number of its faults.
-/

namespace AdmissionLedger

/-- A chat with incoming hooks. -/
structure SlackSettings where
  webhookUrl : Text := []
  channel : Text := []
  username : Text := []

/-- A bot that writes to chats. -/
structure TelegramSettings where
  botToken : Text := []
  chatIds : List Text := []

/-- Mail. -/
structure EmailSettings where
  host : Text := []
  port : Int := 587
  username : Text := []
  password : Text := []
  sender : Text := []
  recipients : List Text := []
  /-- The template of the subject. -/
  subject : Text := []

/-- An address that events are sent to as they are. -/
structure WebhookSettings where
  url : Text := []
  headers : List (Text × Text) := []
  method : Text := "POST"

/-- The settings of all channels. -/
structure AlertSettings where
  slack : Option SlackSettings := none
  telegram : Option TelegramSettings := none
  email : Option EmailSettings := none
  webhook : Option WebhookSettings := none
  /-- The operations that are told about; all of them if there are none. -/
  operations : List Text := []

namespace Tree

/-- An integer: written as one, as a double without a fraction within 64 bits, as a boolean, or
quoted. -/
def asInt : Tree → Check Int
  | .int n => .ok n
  | .bool b => .ok (if b then 1 else 0)
  | .float x =>
    match x.toInt? with
    | some n => if n.natAbs < Nat.pow 2 63 then .ok n else .bad 1
    | none => .bad 1
  | .str t =>
    match t.readLooseInt? with
    | some n => .ok n
    | none => .bad 1
  | _ => .bad 1

/-- A map of texts.  Every entry is checked, also one whose key comes again. -/
def asTextMap (t : Tree) : Check (List (Text × Text)) :=
  t.asEntries.andThen fun entries =>
    let check := Check.all fun (key, value) => (asText value).map fun text => (key, text)
    (check entries).andThen fun _ => check (merged entries)

/-- Settings of a channel, which may be missing. -/
def asSettings {α : Type} (read : List (Text × Tree) → Check α) : Tree → Check (Option α)
  | .null => .ok none
  | t => t.asEntries.andThen fun entries => (read entries).map some

end Tree

/-- The settings of the hooked chat. -/
def SlackSettings.ofEntries (entries : List (Text × Tree)) : Check SlackSettings :=
  SlackSettings.mk <$> Tree.fieldUnder ["webhook_url"] (.ok []) Tree.asText entries
    <*> Tree.fieldUnder ["channel"] (.ok []) Tree.asText entries
    <*> Tree.fieldUnder ["username"] (.ok []) Tree.asText entries

/-- The settings of the bot. -/
def TelegramSettings.ofEntries (entries : List (Text × Tree)) : Check TelegramSettings :=
  TelegramSettings.mk <$> Tree.fieldUnder ["bot_token"] (.ok []) Tree.asText entries
    <*> Tree.fieldUnder ["chat_ids"] (.ok []) Tree.asTexts entries

/-- The settings of mail. -/
def EmailSettings.ofEntries (entries : List (Text × Tree)) : Check EmailSettings :=
  EmailSettings.mk <$> Tree.fieldUnder ["smtp_host"] (.ok []) Tree.asText entries
    <*> Tree.fieldUnder ["smtp_port"] (.ok 587) Tree.asInt entries
    <*> Tree.fieldUnder ["smtp_username"] (.ok []) Tree.asText entries
    <*> Tree.fieldUnder ["smtp_password"] (.ok []) Tree.asText entries
    <*> Tree.fieldUnder ["from", "from_addr"] (.ok []) Tree.asText entries
    <*> Tree.fieldUnder ["to"] (.ok []) Tree.asTexts entries
    <*> Tree.fieldUnder ["subject"] (.ok []) Tree.asText entries

/-- The settings of the plain address. -/
def WebhookSettings.ofEntries (entries : List (Text × Tree)) : Check WebhookSettings :=
  WebhookSettings.mk <$> Tree.fieldUnder ["url"] (.ok []) Tree.asText entries
    <*> Tree.fieldUnder ["headers"] (.ok []) Tree.asTextMap entries
    <*> Tree.fieldUnder ["method"] (.ok "POST") Tree.asText entries

namespace AlertSettings

/-- The settings of a map. -/
def ofEntries (entries : List (Text × Tree)) : Check AlertSettings :=
  AlertSettings.mk
    <$> Tree.fieldUnder ["slack"] (.ok none) (Tree.asSettings SlackSettings.ofEntries) entries
    <*> Tree.fieldUnder ["telegram"] (.ok none) (Tree.asSettings TelegramSettings.ofEntries) entries
    <*> Tree.fieldUnder ["email"] (.ok none) (Tree.asSettings EmailSettings.ofEntries) entries
    <*> Tree.fieldUnder ["webhook"] (.ok none) (Tree.asSettings WebhookSettings.ofEntries) entries
    <*> Tree.fieldUnder ["operations"] (.ok []) Tree.asTexts entries

/-- The settings of a document. -/
def ofText (t : Text) : Check AlertSettings :=
  (Json.readStrict t).andThen fun tree => tree.asEntries.andThen ofEntries

end AlertSettings

/-- Settings of the hooked chat as a tree. -/
def SlackSettings.toTree (s : SlackSettings) : Tree :=
  .record [("webhook_url", .str s.webhookUrl), ("channel", .str s.channel),
    ("username", .str s.username)]

/-- Settings of the bot as a tree. -/
def TelegramSettings.toTree (s : TelegramSettings) : Tree :=
  .record [("bot_token", .str s.botToken), ("chat_ids", .texts s.chatIds)]

/-- Settings of mail as a tree. -/
def EmailSettings.toTree (s : EmailSettings) : Tree :=
  .record [("smtp_host", .str s.host), ("smtp_port", .int s.port),
    ("smtp_username", .str s.username), ("smtp_password", .str s.password),
    ("from_addr", .str s.sender), ("to", .texts s.recipients), ("subject", .str s.subject)]

/-- Settings of the plain address as a tree. -/
def WebhookSettings.toTree (s : WebhookSettings) : Tree :=
  .record [("url", .str s.url),
    ("headers", .object (s.headers.map fun (name, value) => (name, .str value))),
    ("method", .str s.method)]

/-- Alert settings as a tree. -/
def AlertSettings.toTree (s : AlertSettings) : Tree :=
  .record [("slack", .ofOption (s.slack.map SlackSettings.toTree)),
    ("telegram", .ofOption (s.telegram.map TelegramSettings.toTree)),
    ("email", .ofOption (s.email.map EmailSettings.toTree)),
    ("webhook", .ofOption (s.webhook.map WebhookSettings.toTree)),
    ("operations", .texts s.operations)]

end AdmissionLedger
