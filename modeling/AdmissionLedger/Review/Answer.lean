import AdmissionLedger.Review.Decision

/-!
# Answers

A decision is answered with a review document of the same version as the request.
It has a status only if there is something to tell; a refusal has a reason and a
code.

## Main definitions

* `Decision.answer` — the document.
-/

namespace AdmissionLedger.Decision

/-- The code of a refusal. -/
def refusalCode : Nat := 403

/-- The status of an answer, if it has one. -/
def status? (d : Decision) : Option Tree :=
  if !d.allowed then
    some (.record [("message", .str d.message), ("reason", .str "Forbidden"),
      ("code", .nat refusalCode)])
  else if d.message.isEmpty then none
  else some (.record [("message", .str d.message)])

/-- The answer to a review. -/
def answer (d : Decision) : Tree :=
  .record [("apiVersion", .str apiVersion), ("kind", .str reviewKind),
    ("response", .record ([("uid", .str d.uid), ("allowed", .bool d.allowed)] ++
      (match d.status? with
        | some status => [("status", status)]
        | none => [])))]

end AdmissionLedger.Decision
