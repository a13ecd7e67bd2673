import AdmissionLedger.Text.CaseTable
import AdmissionLedger.Text.CodePoint

/-!
# Upper case and case folding

Both mappings are the full ones of Unicode: a code point may become several, and
the result does not depend on its neighbours.

## Main definitions

* `CodePoint.upper`, `CodePoint.fold` — the images of one code point.
* `Text.upper`, `Text.fold` — the images of a text.
-/

namespace AdmissionLedger

/-- The image of a number under a row, if the row holds it. -/
def CaseRange.image? (r : CaseRange) (n : Nat) : Option Nat :=
  if r.first ≤ n && n ≤ r.last && (n - r.first) % r.step == 0 then some (r.image + (n - r.first))
  else none

/-- The images of a number under a mapping given by its two tables; itself where they are silent. -/
def CaseTable.images (ranges : List CaseRange) (expansions : List CaseExpansion) (n : Nat) :
    List Nat :=
  match expansions.find? (·.source == n) with
  | some row => row.images
  | none => [(ranges.findSome? (·.image? n)).getD n]

/-- The full upper case of a code point. -/
def CodePoint.upper (c : CodePoint) : Text :=
  (CaseTable.images CaseTable.upperRanges CaseTable.upperExpansions c.val).map CodePoint.ofNat

/-- The full case folding of a code point. -/
def CodePoint.fold (c : CodePoint) : Text :=
  (CaseTable.images CaseTable.foldRanges CaseTable.foldExpansions c.val).map CodePoint.ofNat

/-- A text in upper case. -/
def Text.upper (t : Text) : Text :=
  t.flatMap CodePoint.upper

/-- A text with differences of case removed. -/
def Text.fold (t : Text) : Text :=
  t.flatMap CodePoint.fold

end AdmissionLedger
