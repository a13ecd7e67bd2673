import AdmissionLedger.Tree.Equality
import AdmissionLedger.Tree.Noise
import AdmissionLedger.Tree.Redaction

/-!
# Patches

A patch lists edits that turn one tree into another: additions, removals and
replacements, each at a location.  Maps are compared key by key; a sequence that
changed is replaced whole.

## Main definitions

* `Edit`, `Patch` — one edit at a location of any kind; a list of edits at pointers.
* `Tree.edits` — the edits between two trees, located by keys.
* `Tree.prepare` — a tree without noise, and without payloads if it is a Secret.
* `Patch.between` — the patch between two prepared trees.
-/

namespace AdmissionLedger

/-- What an edit does. -/
inductive EditKind
  | add
  | remove
  | replace
  deriving DecidableEq, Repr

/-- The name of a kind of edit. -/
def EditKind.name : EditKind → Text
  | .add => "add"
  | .remove => "remove"
  | .replace => "replace"

/-- One edit, at a location. -/
inductive Edit (ρ : Type)
  | add (location : ρ) (value : Tree)
  | remove (location : ρ)
  | replace (location : ρ) (value : Tree)

namespace Edit

variable {ρ σ : Type}

/-- What the edit does. -/
def kind : Edit ρ → EditKind
  | .add .. => .add
  | .remove .. => .remove
  | .replace .. => .replace

/-- Where the edit is. -/
def location : Edit ρ → ρ
  | .add l _ => l
  | .remove l => l
  | .replace l _ => l

/-- The value that the edit brings, if it brings one. -/
def value? : Edit ρ → Option Tree
  | .add _ v => some v
  | .remove _ => none
  | .replace _ v => some v

/-- The same edit elsewhere. -/
def relocate (f : ρ → σ) : Edit ρ → Edit σ
  | .add l v => .add (f l) v
  | .remove l => .remove (f l)
  | .replace l v => .replace (f l) v

/-- An edit at a pointer as a tree. -/
def toTree : Edit Text → Tree
  | .add l v => .record [("op", .str "add"), ("path", .str l), ("value", v)]
  | .remove l => .record [("op", .str "remove"), ("path", .str l)]
  | .replace l v => .record [("op", .str "replace"), ("path", .str l), ("value", v)]

end Edit

/-- Edits at pointers. -/
abbrev Patch := List (Edit Text)

namespace Tree

/-- The edit between two nodes that are not both maps, if there is one. -/
def nodeEdit (location : List Text) (old new : Tree) : List (Edit (List Text)) :=
  match old.kind, new.kind with
  | .absent, .absent => []
  | .absent, _ => [.add location new]
  | _, .absent => [.remove location]
  | oldKind, newKind =>
    if oldKind ≠ newKind then [.replace location new]
    else if deepEqual old new then [] else [.replace location new]

/-- The additions for the keys that only the new map has. -/
def additions (location : List Text) (old new : List (Text × Tree)) : List (Edit (List Text)) :=
  (new.filter fun e => (old.lookup e.1).isNone).map fun e => .add (location ++ [e.1]) e.2

mutual

/-- The edits that turn the old tree into the new one, both at a location: at each map the removals
and changes in the order of the old keys, then the additions in the order of the new ones. -/
def edits (location : List Text) : (old new : Tree) → List (Edit (List Text))
  | .object old, .object new => entryEdits location old new ++ additions location old new
  | old, new => nodeEdit location old new

/-- The removals and changes for the entries of an old map. -/
def entryEdits (location : List Text) :
    (old new : List (Text × Tree)) → List (Edit (List Text))
  | [], _ => []
  | (key, before) :: old, new =>
    let here := location ++ [key]
    (match new.lookup key with
      | none => [.remove here]
      | some after => if deepEqual before after then [] else edits here before after) ++
      entryEdits location old new

end

/-- A tree as it is compared and kept: without noise, and if it is a Secret, without payloads. -/
def prepare (kind : Text) (t : Tree) : Except EncodeError Tree :=
  if kind = sensitiveKind then redact (withoutNoise [] t) else .ok (withoutNoise [] t)

/-- What is logged while a tree is prepared. -/
def preparationLog (kind : Text) (t : Tree) : List Log.Entry :=
  if kind = sensitiveKind then redactionLog (withoutNoise [] t) else []

end Tree

namespace Patch

/-- The patch between two trees of a kind, after both are prepared. -/
def between (kind : Text) (old new : Tree) : Except EncodeError Patch := do
  let old ← Tree.prepare kind old
  let new ← Tree.prepare kind new
  return (Tree.edits [] old new).map (Edit.relocate Pointer.ofKeys)

/-- What is logged while a patch is computed: the new tree is prepared only after the old one. -/
def betweenLog (kind : Text) (old new : Tree) : List Log.Entry :=
  Tree.preparationLog kind old ++
    if (Tree.prepare kind old).toBool then Tree.preparationLog kind new else []

end Patch

end AdmissionLedger
