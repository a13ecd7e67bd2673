import AdmissionLedger.Event.Basic
import AdmissionLedger.Rules.Basic
import AdmissionLedger.Rules.Glob
import AdmissionLedger.Text.Case

/-!
# Verdicts

Rules are applied to an event by its namespace, its name and the kind of its
resource.  Block rules look for the first pattern that matches, in that order;
ignore rules only ask whether one does.

## Main definitions

* `BlockRules.admits` — the gate on operations.
* `BlockRules.firstMatch` — the pattern that denies an event.
* `shouldBlock`, `shouldIgnore` — the two verdicts.
-/

namespace AdmissionLedger

/-- What block rules say about an event. -/
inductive Verdict
  | pass
  /-- The event is denied: the pattern that matched, and what the requester is told. -/
  | block (pattern message : Text)
  deriving DecidableEq, Repr

/-- The first pattern of a list that is not empty and matches a value. -/
def firstPattern (patterns : List Text) (value : Text) : Option Text :=
  patterns.find? fun pattern => !pattern.isEmpty && Glob.accepts pattern value

/-- The first pattern that is not empty and matches, by namespace, name and kind. -/
def Patterns.firstMatch (p : Patterns) (e : Event) : Option Text :=
  (firstPattern p.namespaces e.scope).or <|
    (firstPattern p.names e.name).or (firstPattern p.kinds e.resourceKind)

/-- Whether rules can deny an operation at all: they name none, or this one in some case. -/
def BlockRules.admits (r : BlockRules) (op : Operation) : Bool :=
  r.operations.isEmpty || r.operations.any fun name => op.name.fold == name.fold

/-- Whether an event is denied. -/
def shouldBlock (e : Event) : Option BlockRules → Verdict
  | none => .pass
  | some rules =>
    if rules.admits e.operation then
      match rules.firstMatch e with
      | some pattern => .block pattern rules.effectiveMessage
      | none => .pass
    else .pass

/-- Whether an event is kept out of the record: one pattern of any list is enough. -/
def shouldIgnore (e : Event) : Option IgnoreRules → Bool
  | none => false
  | some rules =>
    Glob.acceptsAny rules.namespaces e.scope || Glob.acceptsAny rules.names e.name ||
      Glob.acceptsAny rules.kinds e.resourceKind

end AdmissionLedger
