import AdmissionLedger.Text.Bytes

/-!
# Mounted rule files

Rules may be supplied as two files in one mounted directory, replaced while the
program runs.

## Main definitions

* `PolicyFile` — the two files.
* `Mount` — what is found at the mount path at one time.
* `LoadResult` — what comes of one file.
-/

namespace AdmissionLedger

/-- The two files of the mounted directory. -/
inductive PolicyFile
  | ignore
  | block
  deriving DecidableEq, Repr

/-- The name of a file. -/
def PolicyFile.name : PolicyFile → Text
  | ignore => "IGNORE_CONFIG"
  | block => "BLOCK_CONFIG"

/-- What is found at the mount path. -/
inductive Mount
  /-- The contents of the two files; `none` where a file cannot be read. -/
  | files (ignore block : Option Bytes)
  /-- The path holds a null character, so nothing can even be looked for. -/
  | malformedPath

/-- What comes of one file. -/
inductive LoadResult
  | loaded
  | missing
  | invalid
  deriving DecidableEq, Repr

/-- The name of a result. -/
def LoadResult.name : LoadResult → Text
  | loaded => "loaded"
  | missing => "missing"
  | invalid => "invalid"

end AdmissionLedger
