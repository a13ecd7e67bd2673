import AdmissionLedger.Text.CodePoint

/-!
# Outcomes

## Main definitions

* `Outcome` — the four ways in which a review ends.
-/

namespace AdmissionLedger

/-- How a review ends. -/
inductive Outcome
  /-- A block rule matched; the event is recorded and the operation refused. -/
  | denied
  /-- An ignore rule matched; the operation is allowed and nothing recorded. -/
  | skipped
  /-- The operation is allowed and its event recorded. -/
  | recorded
  /-- Something failed; the operation is allowed and nothing recorded. -/
  | failedOpen
  deriving DecidableEq, Repr

/-- The name of an outcome. -/
def Outcome.name : Outcome → Text
  | denied => "denied"
  | skipped => "skipped"
  | recorded => "recorded"
  | failedOpen => "failed_open"

end AdmissionLedger
