import AdmissionLedger.Service.Basic

/-!
# Starting and stopping

Components are started in the order of their dependencies and stopped in the reverse
order.  A component that cannot be stopped does not keep the others from it.

## Main definitions

* `StartError` — why a service does not start.
* `Service.start`, `Service.stop` — the two.
* `Service.run` — a service from its start to a request to end.
-/

namespace AdmissionLedger

/-- Why a service does not start. -/
inductive StartError
  | settings (error : SettingsError)
  /-- The listener cannot be opened. -/
  | listener (cause : Text)
  deriving DecidableEq, Repr

namespace StartError

/-- The name of the listener in messages. -/
def listenerName : Text := "rest"

/-- The wording of a failure. -/
def message : StartError → Text
  | settings e => e.message
  | listener cause =>
    Text.ofString "Component '" ++ listenerName ++ "' failed to start: " ++ cause

end StartError

namespace Service

/-! ### Starting -/

/-- The entry with which a start begins. -/
def startingEntry : Log.Entry :=
  .of .info "kubechronicle starting" [("version", .str programVersion)]

/-- The store of settings.  Without one, events are only logged. -/
def openStore (s : StoreSettings) : Logged Storage :=
  if s.enabled then
    match Ledger.ofCapacity s.capacity with
    | .ok l => do
      .emit (.of .info "event store started"
        [("backend", .str "memory"), ("max_events", .int s.capacity)])
      return .ledger l
    | .error e => do
      .emit (.of .warning "event store failed to start; continuing without persistence"
        [("error", .str e.message)])
      return .nowhere
  else do
    .emit (.of .info "event store disabled; events will only be logged" [])
    return .nowhere

/-- The router of settings, without deliveries. -/
def openRouter (s : Option AlertSettings) : Logged (Option (Dispatch Channel)) := do
  let router ← Router.ofSettings s
  .emit (.of .info "notifications started" [("enabled", .bool router.isSome)])
  return router.map fun router => { router }

/-- The entry about the rules to start with. -/
def policyEntry (p : Policy) : Log.Entry :=
  .of .info "rule store started"
    [("ignore_configured", .bool p.ignore.isSome), ("block_configured", .bool p.block.isSome)]

/-- A relay with new parts and a consumer; what is outside and what was counted stays. -/
def openRelay (r : Relay Channel Outside) (storage : Storage)
    (dispatch : Option (Dispatch Channel)) (queueSize : Int) : Logged (Relay Channel Outside) := do
  .emit (.of .info "admission pipeline started" [("queue_size", .int queueSize)])
  return { r with
    storage, dispatch
    queue := { capacity := queueSize }
    worker := {}
    line := []
    routerStops := []
    ready := [] }.start

/-- Mounted rules win over those of the environment from the start. -/
def mountedPolicy (mount : Option Mount) (p : Policy) : Logged (Policy × List Counter) :=
  match mount.map p.reload with
  | some (.ok reload) => do
    let reload ← reload
    return (reload.policy, reload.counts)
  | some (.error _) | none => return (p, [])

/-- The rules to start with and the task that reloads them, unless there is no path to look at. -/
def openReloader (s : Service) (rules : RuleSettings) : Logged Service :=
  if rules.mountPath.isEmpty then do
    .emit (.of .info "config reloader disabled (no patterns path)" [])
    return { s with policy := some rules.policy }
  else do
    let (policy, counts) ← mountedPolicy s.mount rules.policy
    .emit (.of .info "config reloader started" [("interval_seconds", .int rules.reloadInterval)])
    let reloader : Reloader := { interval := rules.reloadInterval }
    return { s with policy := some policy, reloader := some reloader.start }.count counts

/-- Opens the listener. -/
def openListener (s : Service) (listener : ListenerSettings) :
    Logged (Except StartError Unit × Service) :=
  match s.listenerFault with
  | some cause => return (.error (.listener cause), s)
  | none => do
    .emit (.of .info "webhook server started"
      [("port", .int listener.port), ("tls", .bool listener.encrypted)])
    return (.ok (), { s with listeners := s.listeners ++ [listener] })

/-- The parts other than the listener, new ones in the place of those of an earlier start. -/
def openParts (s : Service) (settings : Settings) : Logged Service := do
  .emit startingEntry
  let storage ← openStore settings.store
  let dispatch ← openRouter settings.alerts
  .emit (policyEntry settings.rules.policy)
  let relay ← openRelay s.relay storage dispatch settings.queueSize
  { s with settings := some settings, relay, faults := [] }.openReloader settings.rules

/-- A start with settings, with a listener or without. -/
def launch (s : Service) (settings : Settings) (listen : Bool) :
    Logged (Except StartError Unit × Service) := do
  let s ← s.openParts settings
  let (result, s) ← if listen then s.openListener settings.listener else pure (.ok (), s)
  match result with
  | .error e => return (.error e, s)
  | .ok () =>
    .emit (.of .info "kubechronicle started" [("port", .int settings.listener.port)])
    return (.ok (), { s with running := true })

/-- Starts the service.  Settings are read once. -/
def start (s : Service) (listen : Bool) : Logged (Except StartError Unit × Service) := do
  let loaded ← match s.settings with
    | some settings => pure (.ok settings)
    | none => s.environment.settings.run
  match loaded with
  | .error e => return (.error (.settings e), s)
  | .ok settings => s.launch settings listen

/-! ### Stopping -/

/-- The entry about a part that cannot be stopped. -/
def faultEntry (c : Component) (error : Text) : Log.Entry :=
  .of .error "component stop raised an error" [("component", .str c.name), ("error", .str error)]

/-- Stops a part, unless it cannot be stopped. -/
def stopComponent (s : Service) (c : Component) (act : Service → Logged Service) : Logged Service :=
  match s.faults.lookup c with
  | some error => do
    .emit (faultEntry c error)
    return s
  | none => act s

/-- Stops the task that reloads rules. -/
def stopReloader (s : Service) : Logged Service :=
  if s.reloader.isNone then return s
  else s.stopComponent .reloader fun s =>
    return { s with reloader := s.reloader.map Reloader.stop }

/-- Stops the consumer. -/
def stopProcessor (s : Service) : Logged Service :=
  s.stopComponent .processor fun s => do
    let relay ← s.relay.stop
    return { s with relay }

/-- Stops the deliveries. -/
def stopRouter (s : Service) : Logged Service :=
  if s.relay.dispatch.isNone then return s
  else s.stopComponent .router fun s => do
    let relay ← s.relay.stopRouter
    return { s with relay }

/-- Closes the store. -/
def stopStore (s : Service) : Logged Service :=
  if s.ledger?.isNone then return s
  else s.stopComponent .store fun s => return { s with relay := s.relay.closeStore }

/-- Stops the service.  If it never came as far as its settings, there is nothing to stop. -/
def stop (s : Service) : Logged Service :=
  if !s.running && s.settings.isNone then return s
  else do
    .emit (.of .info "kubechronicle shutting down" [])
    let s := { s with running := false }
    let s ← s.stopReloader
    let s ← s.stopProcessor
    let s ← s.stopRouter
    let s ← s.stopStore
    .emit (.of .info "kubechronicle stopped" [])
    return s

/-! ### Running -/

/-- How a run ends. -/
inductive RunEnd
  /-- It was asked to end. -/
  | finished
  | failed (error : StartError)
  deriving DecidableEq, Repr

/-- The entry about a part without which the service does not start. -/
def fatalEntry (cause : Text) : Log.Entry :=
  .of .critical "fatal startup error"
    [("component", .str StartError.listenerName), ("error", .str cause)]

/-- A run: the service starts, serves until it is asked to end, and stops.  If a part does not
start, the others are stopped again. -/
def run (s : Service) : Logged (RunEnd × Service) := do
  let (result, s) ← s.start true
  match result with
  | .ok () => return (.finished, ← s.stop)
  | .error (.settings e) => return (.failed (.settings e), s)
  | .error (.listener cause) =>
    .emit (fatalEntry cause)
    return (.failed (.listener cause), ← s.stop)

end Service

end AdmissionLedger
