import AdmissionLedger.Proofs.Settings.Environment
import AdmissionLedger.Proofs.Text.Lower
import AdmissionLedger.Service.Lifecycle

/-!
# Settings of an environment

There are settings unless a number is no integer or the level is not one that can be asked
for.  Documents never get in the way: one that is not valid counts as none.  The numbers
are in range whatever integers are given, so the queue is bounded and the store opens.

## Main definitions

* `Environment.numberKeys` — the variables that hold a number.
* `Environment.ReadsIgnore` — where the rules for passing over events come from.
* `Environment.Settled` — what is right about settings that were read.

## Main results

* `Environment.run_settings` — a reading, case by case.
* `Log.Level.ofSetting?_eq_some_iff` — the level of a setting.
* `Environment.settings_of_environment` — when there are settings, and what they are.
-/

namespace AdmissionLedger

/-! ### Readings -/

namespace Loading

variable {α β : Type}

theorem ofExcept_ok_bind (a : α) (f : α → Loading β) : ofExcept (.ok a) >>= f = f a :=
  rfl

theorem ofExcept_error_bind (e : SettingsError) (f : α → Loading β) :
    ofExcept (.error e) >>= f = ofExcept (.error e) :=
  rfl

theorem run_ofExcept (result : Except SettingsError α) :
    (ofExcept result).run = Logged.quiet result :=
  rfl

theorem run_lift_bind (x : Logged α) (f : α → Loading β) :
    ((liftM x : Loading α) >>= f).run =
      ⟨x.log ++ (f x.value).run.log, (f x.value).run.value⟩ := by
  change (⟨(x.log ++ []) ++ _, _⟩ : Logged _) = _
  rw [List.append_nil]
  rfl

end Loading

/-! ### Levels -/

namespace Log.Level

/-- The levels that can be asked for. -/
def settable : List Level :=
  [debug, info, warning, error]

theorem isWordPoint_of_mem_name {level : Level} (h : level ∈ settable) :
    ∀ c ∈ level.name, c.IsWordPoint := by
  revert level
  decide

/-- A setting asks for the level that its lower case names. -/
theorem ofSetting?_eq_some_iff {value : Text} {level : Level} :
    ofSetting? value = some level ↔ level ∈ settable ∧ value.lower = level.name := by
  have hinj : ∀ a ∈ settable, ∀ b ∈ settable, a.name = b.name → a = b := by decide
  have hfound : ∀ {l : Level}, ofSetting? value = some l →
      l ∈ settable ∧ value.lower = l.name := by
    intro l h
    rw [ofSetting?] at h
    have hmem : l ∈ settable := List.mem_of_find?_eq_some h
    have hname := List.find?_some h
    rw [decide_eq_true_eq] at hname
    exact ⟨hmem, (Text.lower_eq_iff (isWordPoint_of_mem_name hmem)).mpr hname.symm⟩
  refine ⟨hfound, ?_⟩
  rintro ⟨hmem, hname⟩
  have hascii := (Text.lower_eq_iff (isWordPoint_of_mem_name hmem)).mp hname
  cases hsome : ofSetting? value with
  | none =>
    have hnone := List.find?_eq_none.mp hsome level hmem
    simp [hascii] at hnone
  | some l =>
    obtain ⟨hl, hlname⟩ := hfound hsome
    rw [hinj l hl level hmem (hlname.symm.trans hname)]

theorem ofSetting?_eq_none_iff {value : Text} :
    ofSetting? value = none ↔ ∀ level ∈ settable, value.lower ≠ level.name := by
  rw [Option.eq_none_iff_forall_ne_some]
  constructor
  · intro h level hmem hname
    exact h level (ofSetting?_eq_some_iff.mpr ⟨hmem, hname⟩)
  · intro h level hsome
    obtain ⟨hmem, hname⟩ := ofSetting?_eq_some_iff.mp hsome
    exact h level hmem hname

end Log.Level

namespace Environment

variable {env : Environment}

theorem level_eq_ok_iff {level : Log.Level} :
    env.level = .ok level ↔
      level ∈ Log.Level.settable ∧ (env.read "LOG_LEVEL" "info").lower = level.name := by
  rw [← Log.Level.ofSetting?_eq_some_iff, Environment.level]
  cases Log.Level.ofSetting? (env.read "LOG_LEVEL" "info") <;> simp

theorem level_eq_error_iff :
    (∃ e, env.level = .error e) ↔
      ∀ level ∈ Log.Level.settable, (env.read "LOG_LEVEL" "info").lower ≠ level.name := by
  rw [← Log.Level.ofSetting?_eq_none_iff, Environment.level]
  cases Log.Level.ofSetting? (env.read "LOG_LEVEL" "info") <;> simp

/-! ### A reading, case by case -/

/-- The variables that hold a number. -/
def numberKeys : List String :=
  ["WEBHOOK_PORT", "RELOAD_INTERVAL", "QUEUE_SIZE", "STORE_MAX_EVENTS"]

/-- What the documents of an environment are warned of. -/
def warnings (env : Environment) : List Log.Entry :=
  env.ignoreRules.log ++ (env.document "BLOCK_CONFIG" BlockRules.ofText).log ++
    (env.document "ALERT_CONFIG" AlertSettings.ofText).log

/-- The settings of an environment, its numbers and its level read. -/
def settingsWith (env : Environment) (port interval queueSize capacity : Int) (level : Log.Level) :
    Settings where
  listener := {
    port := port
    encrypted := env.flag "TLS_ENABLED" true
    certificatePath := env.read "TLS_CERT_PATH" "/etc/webhook/certs/tls.crt"
    keyPath := env.read "TLS_KEY_PATH" "/etc/webhook/certs/tls.key" }
  rules := {
    policy := ⟨env.ignoreRules.value, (env.document "BLOCK_CONFIG" BlockRules.ofText).value⟩
    mountPath := env.read "PATTERNS_PATH" "/etc/patterns"
    reloadInterval := interval }
  queueSize := queueSize
  store := ⟨env.flag "STORE_ENABLED" true, capacity⟩
  alerts := (env.document "ALERT_CONFIG" AlertSettings.ofText).value
  level := level

/-- A reading succeeds with every number and the level, or something is refused; in between it
warns of documents, and of all of them if it succeeds. -/
theorem run_settings (env : Environment) :
    (∃ port interval queueSize capacity level,
      env.number "WEBHOOK_PORT" 8443 portBounds = .ok port ∧
        env.number "RELOAD_INTERVAL" 30 intervalBounds = .ok interval ∧
        env.number "QUEUE_SIZE" 1000 queueBounds = .ok queueSize ∧
        env.number "STORE_MAX_EVENTS" 10000 capacityBounds = .ok capacity ∧
        env.level = .ok level ∧
        env.settings.run =
          ⟨env.warnings, .ok (env.settingsWith port interval queueSize capacity level)⟩) ∨
    ((∃ key ∈ numberKeys, env.Refused key) ∨ ∃ e, env.level = .error e) ∧
      ∃ log e, env.settings.run = ⟨log, .error e⟩ ∧ log <+: env.warnings := by
  have hrefused : ∀ {key : String} {default : Int} {b : Bounds} {e : SettingsError},
      key ∈ numberKeys → env.number key default b = .error e →
        (∃ key ∈ numberKeys, env.Refused key) ∨ ∃ e, env.level = .error e :=
    fun hkey h => .inl ⟨_, hkey, number_eq_error_iff.mp ⟨_, h⟩⟩
  -- The variables in the order in which they are read; the first that is refused ends the reading.
  cases hport : env.number "WEBHOOK_PORT" 8443 portBounds with
  | error e =>
    refine .inr ⟨hrefused (by decide) hport, [], e, ?_, List.nil_prefix⟩
    rw [settings, hport, Loading.ofExcept_error_bind, Loading.run_ofExcept, Logged.quiet]
  | ok port =>
    cases hinterval : env.number "RELOAD_INTERVAL" 30 intervalBounds with
    | error e =>
      refine .inr ⟨hrefused (by decide) hinterval, _, e, ?_, List.prefix_append _ _⟩
      simp only [settings, hport, hinterval, Loading.ofExcept_ok_bind, Loading.run_lift_bind,
        Loading.ofExcept_error_bind, Loading.run_ofExcept, Logged.quiet, List.append_nil]
    | ok interval =>
      cases hqueue : env.number "QUEUE_SIZE" 1000 queueBounds with
      | error e =>
        refine .inr ⟨hrefused (by decide) hqueue, _, e, ?_, List.prefix_append _ _⟩
        simp only [settings, hport, hinterval, hqueue, Loading.ofExcept_ok_bind,
          Loading.run_lift_bind, Loading.ofExcept_error_bind, Loading.run_ofExcept, Logged.quiet,
          List.append_nil]
      | ok queueSize =>
        cases hcapacity : env.number "STORE_MAX_EVENTS" 10000 capacityBounds with
        | error e =>
          refine .inr ⟨hrefused (by decide) hcapacity, _, e, ?_, List.prefix_append _ _⟩
          simp only [settings, hport, hinterval, hqueue, hcapacity, Loading.ofExcept_ok_bind,
            Loading.run_lift_bind, Loading.ofExcept_error_bind, Loading.run_ofExcept, Logged.quiet,
            List.append_nil]
        | ok capacity =>
          cases hlevel : env.level with
          | error e =>
            refine .inr ⟨.inr ⟨e, rfl⟩, env.warnings, e, ?_, List.prefix_rfl⟩
            simp only [settings, hport, hinterval, hqueue, hcapacity, hlevel,
              Loading.ofExcept_ok_bind, Loading.run_lift_bind, Loading.ofExcept_error_bind,
              Loading.run_ofExcept, Logged.quiet, List.append_nil, warnings, List.append_assoc]
          | ok level =>
            refine .inl ⟨port, interval, queueSize, capacity, level, rfl, rfl, rfl, rfl, rfl, ?_⟩
            simp only [settings, hport, hinterval, hqueue, hcapacity, hlevel,
              Loading.ofExcept_ok_bind, Loading.run_lift_bind, warnings, List.append_assoc,
              settingsWith, ExceptT.run_pure, Logged.log_pure, Logged.value_pure, List.append_nil]

/-! ### What is read -/

/-- Where the rules for passing over events come from, and what is said about it: a text that is not
blank is a document, and otherwise the two lists count. -/
structure ReadsIgnore (env : Environment) (result : Option IgnoreRules) (log : List Log.Entry) :
    Prop where
  document : (env.read "IGNORE_CONFIG").strip ≠ [] →
    env.Reads "IGNORE_CONFIG" Patterns.ofText result log
  lists : (env.read "IGNORE_CONFIG").strip = [] → log = [] ∧
    ∃ namespaces names, env.Lists "IGNORE_NAMESPACES" namespaces ∧
      env.Lists "IGNORE_NAMES" names ∧
      result = if namespaces = [] ∧ names = [] then none else some ⟨namespaces, names, []⟩

theorem readsIgnore_ignoreRules (env : Environment) :
    env.ReadsIgnore env.ignoreRules.value env.ignoreRules.log := by
  constructor
  · intro h
    have hdocument : env.ignoreRules = env.document "IGNORE_CONFIG" Patterns.ofText := by
      simp [ignoreRules, h]
    rw [hdocument]
    exact reads_document env "IGNORE_CONFIG" Patterns.ofText
  · intro h
    have hlists : env.ignoreRules = pure
        (if env.list "IGNORE_NAMESPACES" = [] ∧ env.list "IGNORE_NAMES" = [] then none
          else some ⟨env.list "IGNORE_NAMESPACES", env.list "IGNORE_NAMES", []⟩) := by
      by_cases hempty : env.list "IGNORE_NAMESPACES" = [] ∧ env.list "IGNORE_NAMES" = [] <;>
        simp [ignoreRules, h, hempty]
    rw [hlists]
    exact ⟨rfl, _, _, env.lists_list _, env.lists_list _, rfl⟩

/-- What is right about the numbers and the level of settings that were read: each number is the
nearest in its range to the one that is given, the queue that is opened with them is bounded, and
so is the store. -/
structure Settled (env : Environment) (s : Settings) : Prop where
  port : ∃ given, env.Gives "WEBHOOK_PORT" 8443 given ∧
    Bounds.Nearest ⟨1, some 65535⟩ given s.listener.port
  interval : ∃ given, env.Gives "RELOAD_INTERVAL" 30 given ∧
    Bounds.Nearest ⟨5, some 3600⟩ given s.rules.reloadInterval
  queueSize : ∃ given, env.Gives "QUEUE_SIZE" 1000 given ∧
    Bounds.Nearest ⟨1, some 100000⟩ given s.queueSize
  capacity : ∃ given, env.Gives "STORE_MAX_EVENTS" 10000 given ∧
    Bounds.Nearest ⟨1, none⟩ given s.store.capacity
  level : s.level ∈ Log.Level.settable ∧ (env.read "LOG_LEVEL" "info").lower = s.level.name
  queue : ∀ (r : Relay Channel Outside) (storage : Storage) (dispatch : Option (Dispatch Channel)),
    let q := (Service.openRelay r storage dispatch s.queueSize).value.queue
    q.events = [] ∧ q.capacity = s.queueSize ∧
      ∀ events, (EventQueue.isFull { q with events }) = true ↔ s.queueSize ≤ events.length
  store : ∃ l, Ledger.ofCapacity s.store.capacity = .ok l ∧ (l.capacity : Int) = s.store.capacity

/-- A relay is opened with an empty queue of the size that is asked for. -/
theorem queue_openRelay (r : Relay Channel Outside) (storage : Storage)
    (dispatch : Option (Dispatch Channel)) (queueSize : Int) :
    (Service.openRelay r storage dispatch queueSize).value.queue = { capacity := queueSize } := by
  rw [Service.openRelay, Logged.value_bind, Logged.value_pure, Relay.start]
  split <;> rfl

theorem exists_ofCapacity {capacity : Int} (h : 1 ≤ capacity) :
    ∃ l, Ledger.ofCapacity capacity = .ok l ∧ (l.capacity : Int) = capacity := by
  rw [Ledger.ofCapacity, dif_pos (by omega)]
  exact ⟨_, rfl, Int.toNat_of_nonneg (by omega)⟩

theorem settled_settingsWith {port interval queueSize capacity : Int} {level : Log.Level}
    (hport : env.number "WEBHOOK_PORT" 8443 portBounds = .ok port)
    (hinterval : env.number "RELOAD_INTERVAL" 30 intervalBounds = .ok interval)
    (hqueue : env.number "QUEUE_SIZE" 1000 queueBounds = .ok queueSize)
    (hcapacity : env.number "STORE_MAX_EVENTS" 10000 capacityBounds = .ok capacity)
    (hlevel : env.level = .ok level) :
    env.Settled (env.settingsWith port interval queueSize capacity level) := by
  have hqueue := nearest_of_number (by decide) hqueue
  have hcapacity := nearest_of_number (by decide) hcapacity
  refine ⟨nearest_of_number (by decide) hport, nearest_of_number (by decide) hinterval, hqueue,
    hcapacity, level_eq_ok_iff.mp hlevel, ?_, ?_⟩
  · intro r storage dispatch
    obtain ⟨given, -, hnearest⟩ := hqueue
    have hpos : 1 ≤ queueSize := hnearest.least_le
    intro q
    have hq : q = { capacity := queueSize } := queue_openRelay r storage dispatch queueSize
    rw [hq]
    refine ⟨rfl, rfl, fun events => ?_⟩
    rw [EventQueue.isFull, Bool.and_eq_true, decide_eq_true_eq, decide_eq_true_eq]
    exact and_iff_right (Int.lt_of_lt_of_le Int.zero_lt_one hpos)
  · obtain ⟨given, -, hnearest⟩ := hcapacity
    exact exists_ofCapacity hnearest.least_le

/-- The settings of an environment.

There are none exactly if a number that is set is no integer, or the lower case of the level names
none that can be asked for.  Otherwise every number is the nearest in its range, the queue is
bounded and the store opens.  Documents never fail: one that is not valid counts as none and is
warned of once.  The lists count exactly if the document about passing over events is blank. -/
theorem settings_of_environment (env : Environment) :
    ((∃ error, env.settings.run.value = .error error) ↔
      (∃ key ∈ numberKeys, env.Refused key) ∨
        ∀ level ∈ Log.Level.settable, (env.read "LOG_LEVEL" "info").lower ≠ level.name) ∧
    (∀ s, env.settings.run.value = .ok s → env.Settled s) ∧
    ∃ ignore block alerts ignoreLog blockLog alertLog,
      env.ReadsIgnore ignore ignoreLog ∧
      env.Reads "BLOCK_CONFIG" BlockRules.ofText block blockLog ∧
      env.Reads "ALERT_CONFIG" AlertSettings.ofText alerts alertLog ∧
      env.settings.run.log <+: ignoreLog ++ blockLog ++ alertLog ∧
      ∀ s, env.settings.run.value = .ok s →
        s.rules.policy = ⟨ignore, block⟩ ∧ s.alerts = alerts ∧
          env.settings.run.log = ignoreLog ++ blockLog ++ alertLog := by
  have hignore := env.readsIgnore_ignoreRules
  have hblock := env.reads_document "BLOCK_CONFIG" BlockRules.ofText
  have halerts := env.reads_document "ALERT_CONFIG" AlertSettings.ofText
  rw [← level_eq_error_iff]
  obtain ⟨port, interval, queueSize, capacity, level, hport, hinterval, hqueue, hcapacity, hlevel,
    hrun⟩ | ⟨hrefused, log, error, hrun, hlog⟩ := env.run_settings
  · rw [hrun]
    refine ⟨iff_of_false ?_ ?_, ?_,
      _, _, _, _, _, _, hignore, hblock, halerts, List.prefix_rfl, ?_⟩
    · rintro ⟨e, he⟩
      cases he
    · rintro (⟨key, hkey, hrefused⟩ | ⟨e, he⟩)
      · simp only [numberKeys, List.mem_cons, List.not_mem_nil, or_false] at hkey
        rcases hkey with rfl | rfl | rfl | rfl
        · exact not_refused_of_number hport hrefused
        · exact not_refused_of_number hinterval hrefused
        · exact not_refused_of_number hqueue hrefused
        · exact not_refused_of_number hcapacity hrefused
      · rw [hlevel] at he
        cases he
    · intro s hs
      cases hs
      exact settled_settingsWith hport hinterval hqueue hcapacity hlevel
    · intro s hs
      cases hs
      exact ⟨rfl, rfl, rfl⟩
  · rw [hrun]
    refine ⟨iff_of_true ⟨error, rfl⟩ hrefused, ?_,
      _, _, _, _, _, _, hignore, hblock, halerts, hlog, ?_⟩
    · intro s hs
      cases hs
    · intro s hs
      cases hs

/-- An environment that asks for no queue at all and lists what to pass over, with a document
beside the lists. -/
def exampleEnvironment (document : Text) : Environment :=
  [("KUBECHRONICLE_QUEUE_SIZE", "0"), ("KUBECHRONICLE_IGNORE_CONFIG", document),
    ("KUBECHRONICLE_IGNORE_NAMESPACES", " kube-system ,, dev-*"),
    ("KUBECHRONICLE_IGNORE_NAMES", "lease-*, ")]

/-- The lists count if the document is blank, and else only the document, valid or not. -/
theorem settings_of_environment_exampleEnvironment :
    let gives (document : Text) (ignore : Option IgnoreRules) (warned : List Text) : Prop :=
      ∃ s log, (exampleEnvironment document).settings.run = ⟨log, .ok s⟩ ∧
        log.map (·.event) = warned ∧ s.rules.policy.ignore = ignore ∧ s.queueSize = 1 ∧
        (exampleEnvironment document).Settled s ∧
        (exampleEnvironment document).ReadsIgnore ignore log
    gives " " (some ⟨["kube-system", "dev-*"], ["lease-*"], []⟩) [] ∧
      gives "\x7b\"name_patterns\":[\"web\"]\x7d" (some ⟨[], ["web"], []⟩) [] ∧
      gives "[" none ["inline_config_invalid"] := by
  intro gives
  have hgives : ∀ {document ignore warned},
      (exampleEnvironment document).settings.run.value.toOption.map
          (fun s => (s.rules.policy.ignore, s.queueSize)) = some (ignore, 1) ∧
        (exampleEnvironment document).settings.run.log.map (·.event) = warned →
      gives document ignore warned := by
    rintro document ignore warned ⟨hread, hwarned⟩
    obtain ⟨-, hsettled, ignore', block, alerts, ignoreLog, blockLog, alertLog, hignore, hblock,
      halerts, -, hloaded⟩ := settings_of_environment (exampleEnvironment document)
    dsimp only [gives]
    generalize (exampleEnvironment document).settings.run = loaded at *
    obtain ⟨log, error | s⟩ := loaded
    · cases hread
    · obtain ⟨hrules, hsize⟩ := Prod.mk.inj (Option.some.inj hread)
      obtain ⟨hpolicy, -, hlog⟩ := hloaded s rfl
      -- nothing is said about the two documents that are not set
      rw [(hblock.blank rfl).2, (halerts.blank rfl).2, List.append_nil, List.append_nil] at hlog
      rw [← hlog, ← show s.rules.policy.ignore = ignore' by rw [hpolicy], hrules] at hignore
      exact ⟨s, log, rfl, hwarned, hrules, hsize, hsettled s rfl, hignore⟩
  exact ⟨hgives (by decide +kernel), hgives (by decide +kernel), hgives (by decide +kernel)⟩

end Environment

end AdmissionLedger
