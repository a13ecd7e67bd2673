import AdmissionLedger.Json.Reader
import AdmissionLedger.Rules.Basic
import AdmissionLedger.Text.Utf8
import AdmissionLedger.Tree.Check

/-!
# Rule documents

Rules come as strict documents.  Unknown keys are passed over, a missing list is
empty and so is `null`.

## Main definitions

* `Patterns.ofText`, `BlockRules.ofText` — the rules of a text, or the number of its faults.
* `Json.readStrict` — the tree of a strict document.
-/

namespace AdmissionLedger

/-- The tree of a strict document; one that cannot be read at all has one fault. -/
def Json.readStrict (t : Text) : Check Tree :=
  match Json.read .strict t with
  | .ok tree => .ok tree
  | .error _ => .bad 1

/-- A field that may be missing or `null`, and has a default then. -/
def Tree.fieldOr {α : Type} (key : String) (default : α) (check : Tree → Check α)
    (entries : List (Text × Tree)) : Check α :=
  match Tree.lastOf? key entries with
  | none | some .null => .ok default
  | some value => check value

/-- The patterns of a map. -/
def Patterns.ofEntries (entries : List (Text × Tree)) : Check Patterns :=
  Patterns.mk <$> Tree.fieldOr "namespace_patterns" [] Tree.asTexts entries
    <*> Tree.fieldOr "name_patterns" [] Tree.asTexts entries
    <*> Tree.fieldOr "resource_kind_patterns" [] Tree.asTexts entries

/-- The block rules of a map. -/
def BlockRules.ofEntries (entries : List (Text × Tree)) : Check BlockRules :=
  BlockRules.mk <$> Patterns.ofEntries entries
    <*> Tree.fieldOr "operation_patterns" [] Tree.asTexts entries
    <*> Tree.fieldOr "message" [] Tree.asText entries

/-- The ignore rules of a document. -/
def Patterns.ofText (t : Text) : Check Patterns :=
  (Json.readStrict t).andThen fun tree => tree.asEntries.andThen Patterns.ofEntries

/-- The block rules of a document. -/
def BlockRules.ofText (t : Text) : Check BlockRules :=
  (Json.readStrict t).andThen fun tree => tree.asEntries.andThen BlockRules.ofEntries

/-- A document given as bytes, which must be UTF-8. -/
def Check.ofUtf8 {α : Type} (read : Text → Check α) (bytes : Bytes) : Check α :=
  match Text.decodeUtf8 false bytes with
  | .ok t => read t
  | .error _ => .bad 1

end AdmissionLedger
