import AdmissionLedger.Proofs.Except
import AdmissionLedger.Template.Spec

/-!
# Texts by specification

A specification for texts cuts a text to its precision and fills it up to its width.  What
is filled in stands behind the text, before it, or on both sides of it, and then as evenly
as it can.

## Main definitions

* `Alignment.Puts` — how much is filled in on the two sides of a text.
* `Spec.FitsText` — a specification is one for texts.
* `Spec.Shows` — what a specification makes of a text.

## Main results

* `Spec.showText_eq_ok_iff`, `showTextBy_eq_ok_iff` — a text is shown as its specification says.
* `fault_of_showTextBy` — what can be wrong if it is not shown.
-/

namespace AdmissionLedger.Template

variable {limit : Nat} {t spec u : Text} {fault : Fault}

/-- How much is filled in before a text and behind it. -/
def Alignment.Puts : Alignment → (before after : Nat) → Prop
  | left, before, _ => before = 0
  | right, _, after => after = 0
  | center, before, after => after = before ∨ after = before + 1
  | inner, _, _ => False

/-- The alignment leaves no choice of the two sides. -/
theorem Alignment.puts_iff {alignment : Alignment} (h : alignment ≠ .inner)
    {missing before after : Nat} : before + after = missing ∧ alignment.Puts before after ↔
      before = alignment.before missing ∧ after = missing - alignment.before missing := by
  cases alignment with
  | left =>
    simp only [Puts, Alignment.before]
    omega
  | right =>
    simp only [Puts, Alignment.before]
    omega
  | center =>
    simp only [Puts, Alignment.before]
    omega
  | inner => exact absurd rfl h

namespace Spec

variable {s : Spec}

/-- A specification that asks for nothing that only numbers have. -/
structure FitsText (s : Spec) : Prop where
  sign : s.sign = none
  unsignedZero : s.unsignedZero = false
  showsBase : s.showsBase = false
  separator : s.separator = none
  alignment : s.alignment ≠ some .inner
  letter : s.letter = none ∨ s.letter = some ↑ 's'

/-- A text is cut, and filled up if that leaves it too short. -/
structure Shows (s : Spec) (t u : Text) : Prop where
  fits : s.FitsText
  filled : ∃ before after,
    u = List.replicate before s.fill ++ s.precision.elim t t.take ++ List.replicate after s.fill ∧
      before + after = s.width - (s.precision.elim t t.take).length ∧
      (s.alignment.getD .left).Puts before after

theorem fitsText_iff : s.fitsText = true ↔ s.FitsText := by
  simp only [fitsText, Bool.and_eq_true, Bool.or_eq_true, Option.isNone_iff_eq_none,
    Bool.not_eq_true', decide_eq_true_eq]
  constructor
  · rintro ⟨⟨⟨⟨⟨hsign, hzero⟩, hbase⟩, hseparator⟩, halignment⟩, hletter⟩
    exact ⟨hsign, hzero, hbase, hseparator, halignment, hletter⟩
  · rintro ⟨hsign, hzero, hbase, hseparator, halignment, hletter⟩
    exact ⟨⟨⟨⟨⟨hsign, hzero⟩, hbase⟩, hseparator⟩, halignment⟩, hletter⟩

theorem cut_eq (s : Spec) (t : Text) : s.cut t = s.precision.elim t t.take := by
  rw [cut]
  cases s.precision <;> rfl

/-- A text is filled up on the sides that its alignment says. -/
theorem pad_eq_iff {alignment : Alignment} (h : alignment ≠ .inner) :
    s.pad alignment [] t = u ↔ ∃ before after,
      u = List.replicate before s.fill ++ t ++ List.replicate after s.fill ∧
        before + after = s.width - t.length ∧ alignment.Puts before after := by
  have hpad : s.pad alignment [] t =
      List.replicate (alignment.before (s.width - t.length)) s.fill ++ t ++
        List.replicate (s.width - t.length - alignment.before (s.width - t.length)) s.fill := by
    simp [pad, h]
  rw [hpad]
  constructor
  · rintro rfl
    exact ⟨_, _, rfl, (Alignment.puts_iff h).mpr ⟨rfl, rfl⟩⟩
  · rintro ⟨before, after, rfl, hputs⟩
    obtain ⟨rfl, rfl⟩ := (Alignment.puts_iff h).mp hputs
    rfl

/-- A text is cut and filled up, or its specification is none for texts. -/
theorem showText_eq_ok_iff : s.showText t = .ok u ↔ s.Shows t u := by
  rw [showText]
  split
  · next hfits =>
    rw [fitsText_iff] at hfits
    have halignment : s.alignment.getD .left ≠ .inner := by
      cases h : s.alignment with
      | none => exact nofun
      | some alignment =>
        intro hinner
        exact hfits.alignment (h.trans (congrArg some hinner))
    rw [Except.ok.injEq, pad_eq_iff halignment, cut_eq]
    exact ⟨fun hfilled => ⟨hfits, hfilled⟩, Shows.filled⟩
  · next hfits =>
    rw [fitsText_iff] at hfits
    exact iff_of_false nofun fun h => hfits h.fits

/-- What is wrong with a specification for a text is wrong with it as a whole. -/
theorem fault_of_showText (h : s.showText t = .error fault) : fault = .unusable := by
  rw [showText] at h
  split at h
  · cases h
  · cases h
    rfl

end Spec

/-- A text is shown as its specification says, if it says so for texts and within the limit. -/
theorem showTextBy_eq_ok_iff : showTextBy limit t spec = .ok u ↔
    ∃ s, Spec.ofText spec = some s ∧ s.width ≤ limit ∧ s.Shows t u := by
  have happly : showTextBy limit t spec = Spec.apply limit (·.showText t) spec := by
    rw [showTextBy]
    split
    · next hempty =>
      -- without a specification there is nothing to cut or to fill up
      have hplain : ({} : Spec).showText t = .ok t := Spec.showText_eq_ok_iff.mpr
        ⟨⟨rfl, rfl, rfl, rfl, nofun, .inl rfl⟩, 0, 0, by simp, (Nat.zero_sub _).symm, rfl⟩
      rw [List.isEmpty_iff.mp hempty]
      exact hplain.symm
    · rfl
  rw [happly, Spec.apply]
  cases hs : Spec.ofText spec with
  | none => simp
  | some s =>
    simp only [Option.some.injEq, exists_eq_left']
    split
    · next hwide =>
      constructor
      · intro h
        obtain ⟨_, -, h⟩ := Except.bind_eq_ok_iff.mp h
        cases h
      · rintro ⟨hle, -⟩
        omega
    · next hle => rw [Spec.showText_eq_ok_iff, and_iff_right (Nat.le_of_not_lt hle)]

/-- What can be wrong if a text is not shown. -/
theorem fault_of_showTextBy (h : showTextBy limit t spec = .error fault) :
    fault = .unusable ∨ fault = .tooWide ∧ ∃ s, Spec.ofText spec = some s ∧ limit < s.width := by
  rw [showTextBy] at h
  split at h
  · cases h
  rw [Spec.apply] at h
  split at h
  · cases h
    exact .inl rfl
  · next s hs =>
    split at h
    · next hwide =>
      rcases Except.bind_eq_error_iff.mp h with h | ⟨_, -, h⟩
      · exact .inl (Spec.fault_of_showText h)
      · cases h
        exact .inr ⟨rfl, s, hs, hwide⟩
    · exact .inl (Spec.fault_of_showText h)

end AdmissionLedger.Template
