import AdmissionLedger.Log.Entry
import AdmissionLedger.Number.Numeral
import AdmissionLedger.Tree.Check

/-!
# The environment

Settings come from variables of the environment.  A variable that is not set has a
default; a number beyond its range counts as the nearest bound; a document that is
not valid is passed over with a warning.

## Main definitions

* `Environment`, `Environment.read` — the variables.
* `Loading`, `SettingsError` — computations that read settings, and how they fail.
* `Environment.flag`, `Environment.number`, `Environment.list`, `Environment.document` — the
  values of variables by what they mean.
-/

namespace AdmissionLedger

/-- Variables by name. -/
abbrev Environment := List (Text × Text)

/-- Why there are no settings. -/
inductive SettingsError
  | number (error : NumeralError)
  | level (value : Text)
  deriving DecidableEq, Repr

/-- The wording of a failure. -/
def SettingsError.message : SettingsError → Text
  | number e => e.message
  | level value => Text.ofString "Invalid log level: " ++ value

/-- A computation that reads settings: it logs, and it may fail. -/
abbrev Loading := ExceptT SettingsError Logged

/-- A reading that logs nothing. -/
def Loading.ofExcept {α : Type} (result : Except SettingsError α) : Loading α :=
  ExceptT.mk (pure result)

/-- A range of settings; it may be open above. -/
structure Bounds where
  least : Int
  most : Option Int := none

/-- The nearest number in a range. -/
def Bounds.clamp (b : Bounds) (n : Int) : Int :=
  match b.most with
  | some most => min (max n b.least) most
  | none => max n b.least

namespace Environment

/-- The full name of a variable. -/
def fullName (key : String) : Text :=
  Text.ofString "KUBECHRONICLE_" ++ key

/-- The value of a variable. -/
def read (env : Environment) (key : String) (default : Text := []) : Text :=
  (env.lookup (fullName key)).getD default

/-- Whether a value says yes. -/
def saysYes (value : Text) : Bool :=
  let lower := value.lowerAscii
  lower = "true" || lower = "1" || lower = "yes"

/-- A variable that switches something on or off. -/
def flag (env : Environment) (key : String) (default : Bool) : Bool :=
  match env.lookup (fullName key) with
  | some value => saysYes value
  | none => default

/-- A variable that holds an integer. -/
def number (env : Environment) (key : String) (default : Int) (bounds : Bounds) :
    Except SettingsError Int :=
  match env.lookup (fullName key) with
  | none => .ok (bounds.clamp default)
  | some value =>
    match value.readInt with
    | .ok n => .ok (bounds.clamp n)
    | .error e => .error (.number e)

/-- A variable that lists texts with commas between them.  Blanks around an item do not count, and
neither do empty items. -/
def list (env : Environment) (key : String) : List Text :=
  (((env.read key).splitOn (CodePoint.ofChar ',')).map Text.strip).filter (!·.isEmpty)

/-- The warning about a document that is not valid. -/
def invalidEntry (key : String) : Log.Entry :=
  .of .warning "inline_config_invalid" [("variable", .str (fullName key))]

/-- A variable that holds a document. -/
def document {α : Type} (env : Environment) (key : String) (ofText : Text → Check α) :
    Logged (Option α) :=
  let text := (env.read key).strip
  if text.isEmpty then return none
  else
    match ofText text with
    | .ok value => return some value
    | .bad _ => do
      Logged.emit (invalidEntry key)
      return none

end Environment

end AdmissionLedger
