import AdmissionLedger.Text.CodePoint

/-!
# Pointers

A pointer addresses a node by the keys that lead to it from the root, each after a
slash.  A slash in a key is written `~1` and a tilde `~0`, so that the keys can be
told apart again.

## Main definitions

* `Pointer.escape` — a key as a reference token.
* `Pointer.child` — the pointer to the value under a key.
* `Pointer.ofKeys` — the pointer along a list of keys.
-/

namespace AdmissionLedger.Pointer

/-- One code point of a key in a reference token. -/
def escapePoint (c : CodePoint) : Text :=
  if c = ↑ '~' then "~0" else if c = ↑ '/' then "~1" else [c]

/-- A key as a reference token. -/
def escape (key : Text) : Text :=
  key.flatMap escapePoint

/-- The pointer to the value under `key` of the map at `path`. -/
def child (path key : Text) : Text :=
  path ++ ↑ '/' :: escape key

/-- The pointer that follows a list of keys from the root. -/
def ofKeys (keys : List Text) : Text :=
  keys.foldl child []

end AdmissionLedger.Pointer
