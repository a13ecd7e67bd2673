import AdmissionLedger.Proofs.Text.Case
import AdmissionLedger.Text.Lower

/-!
# Lower case and ASCII

The full lower-case mapping agrees with the one for ASCII on ASCII letters.  On what is not
ASCII it never gives ASCII letters alone, with one exception: the sign of the kelvin has
the letter k.  So for words without a k it is the same which of the two mappings is used.

## Main results

* `CodePoint.lower_of_lt`, `CodePoint.exists_mem_lower` — the images of ASCII and of the rest.
* `Text.lower_eq_iff` — which texts have a word of ASCII letters as their lower case.
-/

namespace AdmissionLedger

namespace CodePoint

/-- What can stand in a word that is recognized whatever the case of its letters is. -/
def IsWordPoint (c : CodePoint) : Prop :=
  c.val < 0x80 ∧ c.val ≠ 0x6B

instance (c : CodePoint) : Decidable c.IsWordPoint :=
  inferInstanceAs (Decidable (_ ∧ _))

/-- On ASCII the full mapping is the one for ASCII. -/
theorem lower_of_lt {c : CodePoint} (h : c.val < 0x80) : c.lower = [c.lowerAscii] := by
  rw [lower, CaseTable.images_of_lt rfl (by decide +kernel) (by decide +kernel) h,
    List.map_singleton, ofNat_image_capital h]

/-- Beyond ASCII every image holds something that is no word point. -/
theorem exists_mem_lower {c : CodePoint} (h : 0x80 ≤ c.val) : ∃ d ∈ c.lower, ¬ d.IsWordPoint :=
  -- among the rows about one code point is that of the sign of the kelvin
  CaseTable.exists_mem_images ⟨fun _ => And.left, by decide +kernel, by decide +kernel⟩ h

end CodePoint

namespace Text

theorem lowerAscii_cons (c : CodePoint) (t : Text) :
    lowerAscii (c :: t) = c.lowerAscii :: lowerAscii t :=
  rfl

/-- In words without a k it does not matter whether the full mapping is used or that for ASCII. -/
theorem lowerFrom_eq_iff {word : Text} (hword : ∀ c ∈ word, c.IsWordPoint) {afterCased : Bool}
    {t : Text} : lowerFrom afterCased t = word ↔ t.lowerAscii = word := by
  induction t generalizing word afterCased with
  | nil => rfl
  | cons c t ih =>
    rw [lowerFrom, lowerAscii_cons]
    by_cases hc : c.val < 0x80
    · have hsigma : c ≠ .capitalSigma := by
        rintro rfl
        revert hc
        decide
      rw [if_neg (by simp [hsigma]), CodePoint.lower_of_lt hc, List.singleton_append]
      cases word with
      | nil => simp
      | cons d word =>
        rw [List.forall_mem_cons] at hword
        rw [List.cons.injEq, List.cons.injEq, ih hword.2]
    · -- Neither image begins like the word: one holds no word point, the other is the code point.
      have hleft : ∀ image after : Text, (∃ d ∈ image, ¬ d.IsWordPoint) →
          image ++ after ≠ word := by
        rintro image after ⟨d, hd, hnone⟩ rfl
        exact hnone (hword d (List.mem_append_left _ hd))
      have hright : c.lowerAscii = c := CodePoint.lowerAscii_of_le (Nat.not_lt.mp hc)
      refine iff_of_false (hleft _ _ ?_) ?_
      · split
        · exact ⟨_, List.mem_cons_self, by decide⟩
        · exact CodePoint.exists_mem_lower (Nat.not_lt.mp hc)
      · rw [hright]
        rintro rfl
        exact hc (hword c List.mem_cons_self).1

/-- A text has a word without a k as its lower case exactly if it is that word up to the case of
ASCII letters. -/
theorem lower_eq_iff {word : Text} (hword : ∀ c ∈ word, c.IsWordPoint) {t : Text} :
    t.lower = word ↔ t.lowerAscii = word :=
  lowerFrom_eq_iff hword

end Text

end AdmissionLedger
