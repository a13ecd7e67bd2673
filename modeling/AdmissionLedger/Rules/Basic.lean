import AdmissionLedger.Tree.Basic

/-!
# Rules

Rules are lists of patterns on the namespace, the name and the kind of a resource.
Ignore rules keep events out of the record; block rules deny operations, all of
them or some by name.  The policy in force is a pair of both, either of which may
be missing.

## Main definitions

* `Patterns` — the three lists; ignore rules are nothing else.
* `BlockRules` — the lists with a gate on operations and a message.
* `Policy`, `Policy.replace` — the rules in force, and their replacement.
-/

namespace AdmissionLedger

/-- Patterns on the three names of a resource. -/
structure Patterns where
  namespaces : List Text := []
  names : List Text := []
  kinds : List Text := []
  deriving DecidableEq, Repr

/-- Which events are not recorded. -/
abbrev IgnoreRules := Patterns

/-- Which operations are denied. -/
structure BlockRules extends Patterns where
  /-- If there are any, only these operations can be denied. -/
  operations : List Text := []
  /-- What the requester is told. -/
  message : Text := []
  deriving DecidableEq, Repr

namespace BlockRules

/-- What a requester is told when the rules say nothing. -/
def defaultMessage : Text := "Resource blocked by kubechronicle policy"

/-- The message of the rules, or the default for an empty one. -/
def effectiveMessage (rules : BlockRules) : Text :=
  if rules.message.isEmpty then defaultMessage else rules.message

end BlockRules

/-- The pair of rules that one decision reads. -/
structure Policy where
  ignore : Option IgnoreRules := none
  block : Option BlockRules := none
  deriving DecidableEq, Repr

/-- Both sides replaced in one step; a missing side keeps the rules it has. -/
def Policy.replace (p : Policy) (ignore : Option IgnoreRules) (block : Option BlockRules) :
    Policy :=
  ⟨ignore.or p.ignore, block.or p.block⟩

namespace Patterns

/-- The entries for the three lists. -/
def fields (p : Patterns) : List (String × Tree) :=
  [("namespace_patterns", .texts p.namespaces), ("name_patterns", .texts p.names),
    ("resource_kind_patterns", .texts p.kinds)]

/-- Patterns as a tree. -/
def toTree (p : Patterns) : Tree :=
  .record p.fields

end Patterns

/-- Block rules as a tree. -/
def BlockRules.toTree (r : BlockRules) : Tree :=
  .record (r.toPatterns.fields ++
    [("operation_patterns", .texts r.operations), ("message", .str r.message)])

/-- The entries for the two sides of a policy. -/
def Policy.fields (p : Policy) : List (String × Tree) :=
  [("ignore", .ofOption (p.ignore.map Patterns.toTree)),
    ("block", .ofOption (p.block.map BlockRules.toTree))]

/-- A policy as a tree. -/
def Policy.toTree (p : Policy) : Tree :=
  .record p.fields

end AdmissionLedger
