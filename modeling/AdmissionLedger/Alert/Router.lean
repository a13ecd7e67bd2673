import AdmissionLedger.Alert.Channel

/-!
# Routers

A router tells its channels about the operations it is set up for.

## Main definitions

* `Router`, `Router.alertsOn` — channels of any kind with a filter on operations.
* `Router.ofSettings` — the router that alert settings describe, if any channel is enabled.
-/

namespace AdmissionLedger

/-- Channels and the operations they are told about. -/
structure Router (κ : Type) where
  channels : List κ
  /-- Names of operations in capitals; no names let every operation pass. -/
  operations : List Text := []

namespace Router

variable {κ : Type}

/-- A router whose filter ignores case. -/
def filtered (channels : List κ) (operations : List Text) : Router κ :=
  ⟨channels, operations.map Text.upper⟩

/-- Whether channels are told about an operation. -/
def alertsOn (r : Router κ) (op : Operation) : Bool :=
  r.operations.isEmpty || r.operations.contains op.name

/-- The channels that are told about an event. -/
def audience (r : Router κ) (e : Event) : List κ :=
  if r.alertsOn e.operation then r.channels else []

/-- A channel that has all it needs is enabled, which is logged. -/
def enable (channel : Channel) (entry : Log.Entry) : Logged (List Channel) := do
  Logged.emit entry
  return [channel]

/-- The hooked chat, if it has an address. -/
def slackOf : Option SlackSettings → Logged (List Channel)
  | none => return []
  | some s =>
    match s.toChannel with
    | .error _ => return []
    | .ok c => enable (.slack c) (.of .info "slack_channel_enabled" [])

/-- The bot, if it has a token and chats. -/
def telegramOf : Option TelegramSettings → Logged (List Channel)
  | none => return []
  | some s =>
    match s.toChannel with
    | .error _ => return []
    | .ok c => enable (.telegram c)
      (.of .info "telegram_channel_enabled" [("chats", .nat c.chats.length)])

/-- Mail, if there are a host and recipients.  Mail that lacks something else is disabled with a
warning. -/
def emailOf : Option EmailSettings → Logged (List Channel)
  | none => return []
  | some s =>
    if s.host.isEmpty || s.recipients.isEmpty then return []
    else
      match s.toChannel with
      | .error e => do
        Logged.emit (.of .warning "email_channel_disabled" [("reason", .str e.message)])
        return []
      | .ok c => enable (.email c)
        (.of .info "email_channel_enabled" [("recipients", .nat c.recipients.length)])

/-- The plain address, if there is one. -/
def webhookOf : Option WebhookSettings → Logged (List Channel)
  | none => return []
  | some s =>
    match s.toChannel with
    | .error _ => return []
    | .ok c => enable (.webhook c)
      (.of .info "webhook_channel_enabled" [("url", .str c.address)])

/-- The channels that alert settings enable, in a fixed order. -/
def channelsOf (s : AlertSettings) : Logged (List Channel) := do
  let slack ← slackOf s.slack
  let telegram ← telegramOf s.telegram
  let email ← emailOf s.email
  let webhook ← webhookOf s.webhook
  return slack ++ telegram ++ email ++ webhook

/-- The router that alert settings describe.  Without settings nothing is said; settings that enable
no channel are logged. -/
def ofSettings : Option AlertSettings → Logged (Option (Router Channel))
  | none => return none
  | some s => do
    let channels ← channelsOf s
    if channels.isEmpty then
      Logged.emit (.of .info "no_notification_channels_configured" [])
      return none
    else return some (filtered channels s.operations)

end Router

end AdmissionLedger
