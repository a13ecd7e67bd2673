import AdmissionLedger.Tree.Basic
import AdmissionLedger.Tree.Pointer

/-!
# Noise

Some fields of an object are changed by the server on almost every write:
bookkeeping of field owners, version counters, the status, and the annotation that
repeats the whole object.  They are left out before objects are compared or kept.

## Main definitions

* `isNoise` — whether a pointer leads into such a field.
* `Tree.withoutNoise` — a tree without them.
-/

namespace AdmissionLedger

/-- The annotation in which an object carries its own last applied form. -/
def lastAppliedPath : Text :=
  "/metadata/annotations/kubectl.kubernetes.io~1last-applied-configuration"

/-- The pointers to the excluded fields. -/
def noisePaths : List Text :=
  ["/metadata/managedFields", "/metadata/resourceVersion", "/metadata/generation",
    "/metadata/creationTimestamp", "/status", lastAppliedPath]

/-- What a pointer below an excluded map begins with. -/
def noiseRoots : List Text :=
  ["/status/", "/metadata/managedFields/"]

/-- Whether a pointer leads to an excluded field or below one; a missing first slash is added. -/
def isNoise (path : Text) : Bool :=
  let path := if path.startsWith "/" then path else ↑ '/' :: path
  noisePaths.contains path || noiseRoots.any path.startsWith

namespace Tree

mutual

/-- A tree that stands at `path`, without the fields below it that are noise. -/
def withoutNoise (path : Text) : Tree → Tree
  | .object entries => .object (entriesWithoutNoise path entries)
  | .array items => .array (itemsWithoutNoise path 0 items)
  | t => t

/-- The entries of a map at `path` that are not noise. -/
def entriesWithoutNoise (path : Text) : List (Text × Tree) → List (Text × Tree)
  | [] => []
  | (key, value) :: rest =>
    let here := Pointer.child path key
    if isNoise here then entriesWithoutNoise path rest
    else (key, withoutNoise here value) :: entriesWithoutNoise path rest

/-- The items of a sequence at `path` that are not noise, the first one at `index`. -/
def itemsWithoutNoise (path : Text) (index : Nat) : List Tree → List Tree
  | [] => []
  | item :: rest =>
    let here := Pointer.child path (Text.decimal index)
    if isNoise here then itemsWithoutNoise path (index + 1) rest
    else withoutNoise here item :: itemsWithoutNoise path (index + 1) rest

end

end Tree

end AdmissionLedger
