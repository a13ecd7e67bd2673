import AdmissionLedger.Log.Entry
import AdmissionLedger.Text.Case
import AdmissionLedger.Text.Quoted

/-!
# Log lines

An entry that is serious enough is written as one line: a document with the fields
of the entry, those of the context, and the name of the component.

## Main definitions

* `Log.Level.severity`, `Log.threshold` — how levels compare.
* `Log.Logger` — a component that logs, and the context it logs in.
* `Log.Logger.line?` — the line of an entry, if one is written.
* `Log.Logger.write` — the same for a call whose fields may clash with its own arguments.
-/

namespace AdmissionLedger.Log

/-- How serious a level is. -/
def Level.severity : Level → Nat
  | .debug => 10
  | .info => 20
  | .warning => 30
  | .error => 40
  | .critical => 50

/-- The names by which thresholds are asked for. -/
def thresholdNames : List (Text × Nat) :=
  [("DEBUG", Level.debug.severity), ("INFO", Level.info.severity),
    ("WARNING", Level.warning.severity), ("WARN", Level.warning.severity),
    ("ERROR", Level.error.severity), ("CRITICAL", Level.critical.severity),
    ("FATAL", Level.critical.severity), ("NOTSET", 0)]

/-- What else has a name among the thresholds and is none. -/
inductive LevelError
  /-- A text, which is no threshold. -/
  | text (value : Text)
  /-- A table, which cannot be looked up among the thresholds. -/
  | table
  deriving DecidableEq, Repr

/-- The wording of a failure. -/
def LevelError.message : LevelError → Text
  | text value => value.quoted
  | table => "unhashable type: 'dict'"

/-- Names that stand for something else. -/
def otherNames : List (Text × LevelError) :=
  [("BASIC_FORMAT", .text "%(levelname)s:%(name)s:%(message)s"), ("_STYLES", .table)]

/-- The severity from which on entries are written.  Case does not count, and an unknown name stands
for `info`. -/
def threshold (name : Text) : Except LevelError Nat :=
  match otherNames.lookup name.upper with
  | some e => .error e
  | none => .ok ((thresholdNames.lookup name.upper).getD Level.info.severity)

/-- A component that logs. -/
structure Logger where
  threshold : Nat
  component : Text
  /-- The fields that all entries get at the time. -/
  context : List (Text × Tree) := []

namespace Logger

/-- Entries belong to a request from now on, or to none if it has no identity. -/
def bind (l : Logger) (uid : Text) : Logger :=
  { l with context := if uid.isEmpty then [] else [("request_uid", .str uid)] }

/-- Entries belong to no request from now on. -/
def clear (l : Logger) : Logger :=
  { l with context := [] }

/-- The field that asks for the calls that led to an entry, and is not written. -/
def callsField : Text := "stack_info"

/-- The line of an entry at a time.  Fields of the entry win over those of the component and the
context, but not over the event, the level and the time. -/
def line? (l : Logger) (time : Text) (e : Entry) : Option Tree :=
  if e.level.severity < l.threshold then none
  else
    let fields := (e.within (("component", .str l.component) :: l.context)).fields.filter
      (·.1 ≠ callsField)
    some <| .object <| Tree.put "ts" (.str time) <| Tree.put "level" (.str e.level.name) <|
      Tree.put "event" (.str e.event) fields

end Logger

/-- An entry about a failure that is being handled. -/
def Entry.ofFailure (event : Text) (fields : List (Text × Tree)) : Entry :=
  Entry.within [("exc_info", .bool true)] ⟨.error, event, fields⟩

/-- A field that has the name of an argument of the call that logs. -/
structure FieldClash where
  call : Text
  name : Text
  deriving DecidableEq, Repr

/-- The wording of a clash. -/
def FieldClash.message (c : FieldClash) : Text :=
  c.call ++ "() got multiple values for argument '" ++ c.name ++ "'"

namespace Logger

/-- The call that takes an entry; one that is not serious enough is taken by a call that does
nothing. -/
def callName (l : Logger) (e : Entry) (ofFailure : Bool) : Text :=
  if ofFailure then "exception"
  else if e.level.severity < l.threshold then "_nop"
  else "_make_filtering_bound_logger.<locals>.make_method.<locals>.meth"

/-- The first field of an entry that has the name of an argument.  A call that writes has another
one inside. -/
def clash? (l : Logger) (e : Entry) (ofFailure : Bool) : Option FieldClash :=
  let first (names : List Text) : Option Text := (e.fields.find? (names.contains ·.1)).map (·.1)
  match first ["self", "event"] with
  | some name => some ⟨l.callName e ofFailure, name⟩
  | none =>
    if e.level.severity < l.threshold then none
    else (first ["method_name"]).map fun name => ⟨"BoundLoggerBase._proxy_to_logger", name⟩

/-- The line of an entry, if one is written. -/
def write (l : Logger) (time : Text) (ofFailure : Bool) (e : Entry) :
    Except FieldClash (Option Tree) :=
  match l.clash? e ofFailure with
  | some clash => .error clash
  | none => .ok (l.line? time e)

end Logger

end AdmissionLedger.Log
