import AdmissionLedger.Alert.Settings
import AdmissionLedger.Rules.Document
import AdmissionLedger.Settings.Environment

/-!
# Settings

All that can be set, with its defaults and ranges.

## Main definitions

* `Settings` — the settings of the whole program.
* `Environment.settings` — the settings that an environment gives, or the first fault.
-/

namespace AdmissionLedger

/-- How requests come in. -/
structure ListenerSettings where
  port : Int := 8443
  encrypted : Bool := true
  certificatePath : Text := "/etc/webhook/certs/tls.crt"
  keyPath : Text := "/etc/webhook/certs/tls.key"

/-- Where rules come from. -/
structure RuleSettings where
  /-- The rules to start with. -/
  policy : Policy := {}
  /-- Where rule files are mounted. -/
  mountPath : Text := "/etc/patterns"
  /-- The seconds between two reloads. -/
  reloadInterval : Int := 30

/-- How events are kept. -/
structure StoreSettings where
  enabled : Bool := true
  /-- The number of events that are kept. -/
  capacity : Int := 10000

/-- The settings of the whole program. -/
structure Settings where
  listener : ListenerSettings := {}
  rules : RuleSettings := {}
  /-- The number of events that may wait. -/
  queueSize : Int := 1000
  store : StoreSettings := {}
  alerts : Option AlertSettings := none
  /-- The least serious level that is logged. -/
  level : Log.Level := .info

/-- Settings as a tree. -/
def Settings.toTree (s : Settings) : Tree :=
  .record [
    ("webhook", .record [("port", .int s.listener.port),
      ("tls_enabled", .bool s.listener.encrypted),
      ("tls_cert_path", .str s.listener.certificatePath),
      ("tls_key_path", .str s.listener.keyPath)]),
    ("policy", .record (s.rules.policy.fields ++ [("patterns_path", .str s.rules.mountPath),
      ("reload_interval_seconds", .int s.rules.reloadInterval)])),
    ("processor", .record [("queue_size", .int s.queueSize)]),
    ("store", .record [("enabled", .bool s.store.enabled), ("max_events", .int s.store.capacity)]),
    ("log", .record [("level", .str s.level.name)]),
    ("alerting", .ofOption (s.alerts.map AlertSettings.toTree))]

/-- The level of a setting; the most serious one cannot be asked for. -/
def Log.Level.ofSetting? (value : Text) : Option Log.Level :=
  [Log.Level.debug, .info, .warning, .error].find? fun level => level.name = value.lowerAscii

namespace Environment

/-- The variables that are read. -/
def keys : List String :=
  ["WEBHOOK_PORT", "TLS_ENABLED", "TLS_CERT_PATH", "TLS_KEY_PATH", "IGNORE_CONFIG",
    "IGNORE_NAMESPACES", "IGNORE_NAMES", "BLOCK_CONFIG", "PATTERNS_PATH", "RELOAD_INTERVAL",
    "QUEUE_SIZE", "STORE_ENABLED", "STORE_MAX_EVENTS", "ALERT_CONFIG", "LOG_LEVEL"]

/-- The ports there are. -/
def portBounds : Bounds := ⟨1, some 65535⟩

/-- The intervals between reloads, in seconds. -/
def intervalBounds : Bounds := ⟨5, some 3600⟩

/-- The sizes of the queue. -/
def queueBounds : Bounds := ⟨1, some 100000⟩

/-- The capacities of the store. -/
def capacityBounds : Bounds := ⟨1, none⟩

/-- The rules to start with for passing over events: a document, or else two lists. -/
def ignoreRules (env : Environment) : Logged (Option IgnoreRules) :=
  if !(env.read "IGNORE_CONFIG").strip.isEmpty then env.document "IGNORE_CONFIG" Patterns.ofText
  else
    let namespaces := env.list "IGNORE_NAMESPACES"
    let names := env.list "IGNORE_NAMES"
    if namespaces.isEmpty && names.isEmpty then return none
    else return some ⟨namespaces, names, []⟩

/-- The level of what is logged. -/
def level (env : Environment) : Except SettingsError Log.Level :=
  let value := env.read "LOG_LEVEL" "info"
  match Log.Level.ofSetting? value with
  | some level => .ok level
  | none => .error (.level value)

/-- The settings that an environment gives.  Variables are read in a fixed order and the first
fault ends the reading, but what was logged before it stays. -/
def settings (env : Environment) : Loading Settings := do
  let port ← Loading.ofExcept (env.number "WEBHOOK_PORT" 8443 portBounds)
  let ignore ← env.ignoreRules
  let block ← env.document "BLOCK_CONFIG" BlockRules.ofText
  let interval ← Loading.ofExcept (env.number "RELOAD_INTERVAL" 30 intervalBounds)
  let queueSize ← Loading.ofExcept (env.number "QUEUE_SIZE" 1000 queueBounds)
  let capacity ← Loading.ofExcept (env.number "STORE_MAX_EVENTS" 10000 capacityBounds)
  let alerts ← env.document "ALERT_CONFIG" AlertSettings.ofText
  let level ← Loading.ofExcept env.level
  return {
    listener := {
      port := port
      encrypted := env.flag "TLS_ENABLED" true
      certificatePath := env.read "TLS_CERT_PATH" "/etc/webhook/certs/tls.crt"
      keyPath := env.read "TLS_KEY_PATH" "/etc/webhook/certs/tls.key" }
    rules := {
      policy := ⟨ignore, block⟩
      mountPath := env.read "PATTERNS_PATH" "/etc/patterns"
      reloadInterval := interval }
    queueSize := queueSize
    store := ⟨env.flag "STORE_ENABLED" true, capacity⟩
    alerts := alerts
    level := level }

end Environment

end AdmissionLedger
