import AdmissionLedger.Alert.Email
import AdmissionLedger.Alert.Settings
import AdmissionLedger.Alert.Slack
import AdmissionLedger.Alert.Telegram
import AdmissionLedger.Alert.Webhook

/-!
# Channels

A channel is one of four kinds.  It is made from its settings, which must say where
to deliver to.

## Main definitions

* `Channel`, `Channel.name` — the channels.
* `ChannelError` — which setting is missing.
* `Channel.deliver` — a delivery on any channel.
-/

namespace AdmissionLedger

/-- A way to tell about events. -/
inductive Channel
  | slack (channel : SlackChannel)
  | telegram (channel : TelegramChannel)
  | email (channel : EmailChannel)
  | webhook (channel : WebhookChannel)

/-- A setting without which there is no channel. -/
inductive ChannelError
  | noHookAddress
  | noToken
  | noChats
  | noMailHost
  | noSender
  | noRecipients
  | noAddress
  deriving DecidableEq, Repr

/-- The wording of a missing setting. -/
def ChannelError.message : ChannelError → Text
  | noHookAddress => "Slack webhook_url must not be empty"
  | noToken => "Telegram bot_token must not be empty"
  | noChats => "Telegram chat_ids must not be empty"
  | noMailHost => "SMTP host must not be empty"
  | noSender => "SMTP from_addr must not be empty"
  | noRecipients => "Email to_addrs must not be empty"
  | noAddress => "Webhook url must not be empty"

/-- The hooked chat of its settings. -/
def SlackSettings.toChannel (s : SlackSettings) : Except ChannelError SlackChannel :=
  if s.webhookUrl.isEmpty then .error .noHookAddress
  else .ok ⟨s.webhookUrl, s.channel, s.username⟩

/-- The bot of its settings. -/
def TelegramSettings.toChannel (s : TelegramSettings) : Except ChannelError TelegramChannel :=
  if s.botToken.isEmpty then .error .noToken
  else if s.chatIds.isEmpty then .error .noChats
  else .ok ⟨s.botToken, s.chatIds⟩

/-- The mail server of its settings.  Unless said otherwise, the port says whether the connection is
encrypted from the start. -/
def EmailSettings.toServer (s : EmailSettings) (encrypted : Option Bool) (timeout : Seconds) :
    Except ChannelError MailServer :=
  if s.host.isEmpty then .error .noMailHost
  else if s.sender.isEmpty then .error .noSender
  else .ok {
    host := s.host
    port := s.port
    username := s.username
    password := s.password
    sender := s.sender
    encrypted := encrypted.getD (s.port == MailServer.encryptedPort)
    timeout := timeout }

/-- The mail channel of its settings.  An empty template stands for the default one. -/
def EmailSettings.toChannel (s : EmailSettings) (encrypted : Option Bool := none)
    (timeout : Seconds := MailServer.defaultTimeout) : Except ChannelError EmailChannel := do
  let server ← s.toServer encrypted timeout
  if s.recipients.isEmpty then .error .noRecipients
  else return ⟨server, s.recipients, if s.subject.isEmpty then defaultSubject else s.subject⟩

/-- The web address of its settings.  An empty method stands for `POST`. -/
def WebhookSettings.toChannel (s : WebhookSettings) : Except ChannelError WebhookChannel :=
  if s.url.isEmpty then .error .noAddress
  else .ok ⟨s.url, s.headers,
    Text.upper (if s.method.isEmpty then Text.ofString "POST" else s.method)⟩

namespace Channel

/-- The name of a channel. -/
def name : Channel → Text
  | slack _ => "slack"
  | telegram _ => "telegram"
  | email _ => "email"
  | webhook _ => "webhook"

/-- Delivers an event. -/
def deliver (r : Template.Reflection) : Channel → Event → Outside → Logged (Delivery × Outside)
  | slack c, e, o => do
    let (result, network) ← c.deliver e o.network
    return (result, { o with network := network })
  | telegram c, e, o => do
    let (result, network) ← c.deliver e o.network
    return (result, { o with network := network })
  | email c, e, o => do
    let (result, host) ← c.deliver r e o.mailHost
    return (result, { o with mailHost := host })
  | webhook c, e, o => do
    let (result, network) ← c.deliver e o.network
    return (result, { o with network := network })

end Channel

end AdmissionLedger
