import AdmissionLedger.Log.Entry
import AdmissionLedger.Metrics.Counter
import AdmissionLedger.Rules.Document
import AdmissionLedger.Text.Blank

/-!
# Reloading rules

Both files are read and the rules found in them replace those in force in one
step.  A file that is missing or invalid leaves its side as it is.

## Main definitions

* `FileLoad` — what comes of one file, with the rules if it is loaded.
* `Policy.reload` — one attempt on both files.
-/

namespace AdmissionLedger

/-- What comes of reading one file. -/
inductive FileLoad (α : Type)
  | loaded (rules : α)
  | missing
  | invalid

namespace FileLoad

variable {α : Type}

/-- What a file gives: its bytes must be UTF-8 and, without the blanks around it, a document. -/
def ofBytes (read : Text → Check α) : Option Bytes → FileLoad α
  | none => .missing
  | some bytes =>
    match Check.ofUtf8 (fun t => read t.strip) bytes with
    | .ok rules => .loaded rules
    | .bad _ => .invalid

/-- The rules, if they were loaded. -/
def rules? : FileLoad α → Option α
  | .loaded rules => some rules
  | _ => none

/-- The result without the rules. -/
def result : FileLoad α → LoadResult
  | .loaded _ => .loaded
  | .missing => .missing
  | .invalid => .invalid

/-- What is logged about a file while it is read. -/
def log : FileLoad α → List Log.Entry
  | .loaded _ => []
  | .missing => [.of .debug "config_file_unreadable" []]
  | .invalid => [.of .warning "config_file_invalid" []]

end FileLoad

/-- What a reload does. -/
structure Reload where
  /-- The policy afterwards. -/
  policy : Policy
  /-- Whether rules were loaded from either file. -/
  changed : Bool
  counts : List Counter

/-- Nothing can be read from a malformed path. -/
structure ReloadError where
  deriving DecidableEq, Repr

/-- The wording of the failure. -/
def ReloadError.message (_ : ReloadError) : Text :=
  "embedded null byte"

/-- The entry about new ignore rules. -/
def IgnoreRules.reloadEntry (rules : IgnoreRules) : Log.Entry :=
  .of .info "ignore_config_reloaded" (Patterns.fields rules)

/-- The entry about new block rules. -/
def BlockRules.reloadEntry (rules : BlockRules) : Log.Entry :=
  .of .info "block_config_reloaded"
    (rules.toPatterns.fields ++ [("operation_patterns", .texts rules.operations)])

/-- One attempt to reload a policy from what is mounted. -/
def Policy.reload (p : Policy) : Mount → Except ReloadError (Logged Reload)
  | .malformedPath => .error {}
  | .files ignoreFile blockFile =>
    let ignore := FileLoad.ofBytes Patterns.ofText ignoreFile
    let block := FileLoad.ofBytes BlockRules.ofText blockFile
    let log := ignore.log ++ block.log ++
      (ignore.rules?.map IgnoreRules.reloadEntry).toList ++
      (block.rules?.map BlockRules.reloadEntry).toList
    .ok ⟨log, {
      policy := p.replace ignore.rules? block.rules?
      changed := ignore.rules?.isSome || block.rules?.isSome
      counts := [.reloads .ignore ignore.result, .reloads .block block.result] }⟩

end AdmissionLedger
