import AdmissionLedger.Tree.Basic

/-!
# Log entries

What the components log is data: a computation that logs returns its entries in
order beside its value.

## Main definitions

* `Log.Level`, `Log.Entry` — one line of the log before it is written.
* `Logged` — a value with the entries logged on the way to it.
-/

namespace AdmissionLedger

namespace Log

/-- How serious an entry is. -/
inductive Level
  | debug
  | info
  | warning
  | error
  | critical
  deriving DecidableEq, Repr

/-- The name of a level. -/
def Level.name : Level → Text
  | .debug => "debug"
  | .info => "info"
  | .warning => "warning"
  | .error => "error"
  | .critical => "critical"

/-- An event with its fields. -/
structure Entry where
  level : Level
  event : Text
  fields : List (Text × Tree)
  deriving Repr

/-- An entry whose event and keys are known in advance. -/
def Entry.of (level : Level) (event : String) (fields : List (String × Tree)) : Entry :=
  ⟨level, event, fields.map fun (key, value) => (Text.ofString key, value)⟩

/-- An entry with a context field in front of its own; its own wins where both have one. -/
def Entry.within (context : List (Text × Tree)) (e : Entry) : Entry :=
  { e with fields := context.filter (fun c => (e.fields.lookup c.1).isNone) ++ e.fields }

end Log

/-- A value with the log entries made on the way to it, in order. -/
structure Logged (α : Type) where
  log : List Log.Entry
  value : α

namespace Logged

/-- A value without entries. -/
def quiet {α : Type} (value : α) : Logged α := ⟨[], value⟩

/-- One entry. -/
def emit (e : Log.Entry) : Logged Unit := ⟨[e], ()⟩

/-- Several entries. -/
def emitAll (es : List Log.Entry) : Logged Unit := ⟨es, ()⟩

/-- The entries of the first part come before those of the second. -/
def andThen {α β : Type} (x : Logged α) (f : α → Logged β) : Logged β :=
  ⟨x.log ++ (f x.value).log, (f x.value).value⟩

instance : Monad Logged where
  pure := quiet
  bind := andThen

@[simp] theorem value_pure {α : Type} (a : α) : (pure a : Logged α).value = a := rfl

@[simp] theorem log_pure {α : Type} (a : α) : (pure a : Logged α).log = [] := rfl

@[simp] theorem value_bind {α β : Type} (x : Logged α) (f : α → Logged β) :
    (x >>= f).value = (f x.value).value := rfl

@[simp] theorem log_bind {α β : Type} (x : Logged α) (f : α → Logged β) :
    (x >>= f).log = x.log ++ (f x.value).log := rfl

end Logged

end AdmissionLedger
