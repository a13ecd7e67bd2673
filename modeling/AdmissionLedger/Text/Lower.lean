import AdmissionLedger.Text.Case
import AdmissionLedger.Text.LowerTable

/-!
# Lower case

The full lower-case mapping.  It depends on neighbours in one place: a capital sigma
at the end of a word becomes the final form of the small one.

## Main definitions

* `CodePoint.lower` — the image of one code point.
* `Text.lower` — the image of a text.
-/

namespace AdmissionLedger

namespace CodePoint

/-- The lower case of a code point, its neighbours left aside. -/
def lower (c : CodePoint) : Text :=
  (CaseTable.images CaseTable.lowerRanges CaseTable.lowerExpansions c.val).map CodePoint.ofNat

/-- Whether a code point is a letter with case. -/
def isCased (c : CodePoint) : Bool :=
  c.isIn CaseTable.cased

/-- Whether a code point is passed over when the neighbours of a letter count. -/
def isCaseIgnorable (c : CodePoint) : Bool :=
  c.isIn CaseTable.caseIgnorable

/-- The capital sigma. -/
def capitalSigma : CodePoint := ⟨0x3A3, by decide⟩

/-- The small sigma at the end of a word. -/
def finalSigma : CodePoint := ⟨0x3C2, by decide⟩

end CodePoint

namespace Text

/-- Whether a text goes on with a letter that has case. -/
def goesOnCased (t : Text) : Bool :=
  match t.find? fun c => !c.isCaseIgnorable with
  | some c => c.isCased
  | none => false

/-- The lower case of a text; `afterCased` tells whether a letter with case stands before it. -/
def lowerFrom : (afterCased : Bool) → Text → Text
  | _, [] => []
  | afterCased, c :: rest =>
    let image := if c = .capitalSigma && afterCased && !goesOnCased rest then [.finalSigma]
      else c.lower
    image ++ lowerFrom (if c.isCaseIgnorable then afterCased else c.isCased) rest

/-- A text in lower case. -/
def lower (t : Text) : Text :=
  lowerFrom false t

end Text

end AdmissionLedger
