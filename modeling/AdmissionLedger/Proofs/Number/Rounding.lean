import AdmissionLedger.Proofs.Number.Double

/-!
# Rounding gives the normal form

A quotient is rounded at the exponent at which its whole part has 53 bits, or at the
least exponent if that is greater.  So what comes of it is in normal form.

## Main results

* `Double.fitExponent_spec` — the exponent at which a quotient is rounded.
* `Double.normal_ofRatio`, `Double.normal_ofDecimal` — rounding gives the normal form.
-/

namespace AdmissionLedger

/-- Rounding to a whole number takes one of the two neighbours. -/
theorem roundHalfEven_bounds (n d : Nat) :
    n / d ≤ roundHalfEven n d ∧ roundHalfEven n d ≤ n / d + 1 := by
  simp only [roundHalfEven]
  split <;> omega

/-- The whole part of a shifted quotient reaches a power of two if the quotient does. -/
theorem two_pow_le_shiftRatio_div_iff {num den : Nat} (hden : 0 < den) (e : Int) (k : Nat) :
    2 ^ k ≤ (shiftRatio num den e).1 / (shiftRatio num den e).2 ↔
      (2 : ℚ) ^ (k : Int) ≤ num / den * 2 ^ e := by
  have hpos : (0 : ℚ) < (shiftRatio num den e).2 := Nat.cast_pos.mpr (shiftRatio_snd_pos hden e)
  rw [← shiftRatio_div, le_div_iff₀ hpos, zpow_natCast, Nat.le_div_iff_mul_le
    (shiftRatio_snd_pos hden e)]
  exact_mod_cast Iff.rfl

namespace Double

/-- A quotient lies between two powers of two that its terms give. -/
theorem quotient_bounds {num den : Nat} (hnum : num ≠ 0) (hden : den ≠ 0) :
    (2 : ℚ) ^ ((num.log2 : Int) - den.log2 - 1) ≤ num / den ∧
      (num : ℚ) / den < 2 ^ ((num.log2 : Int) - den.log2 + 1) := by
  have hden' : (0 : ℚ) < den := Nat.cast_pos.mpr (Nat.pos_of_ne_zero hden)
  have hlow : (2 : ℚ) ^ num.log2 ≤ num := by exact_mod_cast Nat.log2_self_le hnum
  have hhigh : (num : ℚ) < 2 ^ (num.log2 + 1) := by exact_mod_cast Nat.lt_log2_self
  have hlow' : (2 : ℚ) ^ den.log2 ≤ den := by exact_mod_cast Nat.log2_self_le hden
  have hhigh' : (den : ℚ) < 2 ^ (den.log2 + 1) := by exact_mod_cast Nat.lt_log2_self
  constructor
  · rw [le_div_iff₀ hden']
    calc (2 : ℚ) ^ ((num.log2 : Int) - den.log2 - 1) * den
      _ ≤ 2 ^ ((num.log2 : Int) - den.log2 - 1) * 2 ^ (den.log2 + 1) :=
        mul_le_mul_of_nonneg_left hhigh'.le (zpow_pos (by norm_num) _).le
      _ = 2 ^ num.log2 := by
        rw [← zpow_natCast, ← zpow_natCast, ← zpow_add₀ (by norm_num)]
        congr 1
        push_cast
        ring
      _ ≤ num := hlow
  · rw [div_lt_iff₀ hden']
    calc (num : ℚ)
      _ < 2 ^ (num.log2 + 1) := hhigh
      _ = 2 ^ ((num.log2 : Int) - den.log2 + 1) * 2 ^ den.log2 := by
        rw [← zpow_natCast, ← zpow_natCast, ← zpow_add₀ (by norm_num)]
        congr 1
        push_cast
        ring
      _ ≤ 2 ^ ((num.log2 : Int) - den.log2 + 1) * den :=
        mul_le_mul_of_nonneg_left hlow' (zpow_pos (by norm_num) _).le

/-- A number shifted down reaches a power of two if it reaches a higher one. -/
theorem two_zpow_le_mul_zpow_neg_iff (x : ℚ) (p e : Int) :
    (2 : ℚ) ^ p ≤ x * 2 ^ (-e) ↔ (2 : ℚ) ^ (p + e) ≤ x := by
  rw [zpow_neg, ← div_eq_mul_inv, le_div_iff₀ (zpow_pos (by norm_num) e),
    ← zpow_add₀ (by norm_num)]

/-- The exponent at which the whole part of a quotient has 53 bits, from which the exponent of the
double is taken. -/
theorem exists_fitExponent_eq_max {num den : Nat} (hnum : num ≠ 0) (hden : 0 < den) :
    ∃ e, fitExponent num den = max e minExponent ∧ (2 : ℚ) ^ (52 + e) ≤ num / den ∧
      (num : ℚ) / den < 2 ^ (53 + e) := by
  obtain ⟨hlow, hhigh⟩ := quotient_bounds hnum hden.ne'
  generalize hguess : (num.log2 : Int) - den.log2 - 53 = guess
  have hlow' : (2 : ℚ) ^ (52 + guess) ≤ num / den := by
    rwa [show (num.log2 : Int) - den.log2 - 1 = 52 + guess by omega] at hlow
  have hhigh' : (num : ℚ) / den < 2 ^ (54 + guess) := by
    rwa [show (num.log2 : Int) - den.log2 + 1 = 54 + guess by omega] at hhigh
  have hreaches := (two_pow_le_shiftRatio_div_iff hden (-guess) 53).trans
    (two_zpow_le_mul_zpow_neg_iff (num / den) (53 : Nat) guess)
  refine ⟨if Nat.pow 2 53 ≤ (shiftRatio num den (-guess)).1 / (shiftRatio num den (-guess)).2
    then guess + 1 else guess, by simp only [fitExponent, hguess], ?_⟩
  split
  · next h =>
    have hreached := hreaches.mp h
    exact ⟨by rwa [show 52 + (guess + 1) = (53 : Nat) + guess by omega],
      by rwa [show 53 + (guess + 1) = 54 + guess by omega]⟩
  · next h => exact ⟨hlow', not_le.mp (mt hreaches.mpr h)⟩

/-- At the exponent at which it is rounded, the whole part of a quotient has at most 53 bits, and no
fewer unless the exponent is the least. -/
theorem fitExponent_spec {num den : Nat} (hnum : num ≠ 0) (hden : 0 < den) :
    let ratio := shiftRatio num den (-fitExponent num den)
    ratio.1 / ratio.2 < 2 ^ 53 ∧
      (2 ^ 52 ≤ ratio.1 / ratio.2 ∨ fitExponent num den = minExponent) := by
  obtain ⟨e, he, hlow, hhigh⟩ := exists_fitExponent_eq_max hnum hden
  have hreaches : ∀ k : Nat, 2 ^ k ≤ (shiftRatio num den (-fitExponent num den)).1 /
      (shiftRatio num den (-fitExponent num den)).2 ↔
        (2 : ℚ) ^ (k + fitExponent num den) ≤ num / den :=
    fun k => (two_pow_le_shiftRatio_div_iff hden _ k).trans
      (two_zpow_le_mul_zpow_neg_iff (num / den) k _)
  constructor
  · rw [← not_le, hreaches, not_le]
    refine hhigh.trans_le (zpow_le_zpow_right₀ (by norm_num) ?_)
    push_cast
    omega
  · rcases le_total e minExponent with hmin | hmin
    · exact .inr (he.trans (max_eq_right hmin))
    · rw [hreaches, he, max_eq_left hmin]
      exact .inl hlow

theorem normal_zero (negative : Bool) : (zero negative).Normal :=
  ⟨by decide, le_refl _, by decide, .inr rfl⟩

/-- A quotient is rounded to a double in normal form. -/
theorem normal_ofRatio (negative : Bool) (num : Nat) {den : Nat} (hden : 0 < den) :
    (ofRatio negative num den).Normal := by
  by_cases hnum : num = 0
  · rw [ofRatio, if_pos hnum]
    exact normal_zero negative
  obtain ⟨hbits, hmin⟩ := fitExponent_spec hnum hden
  have hexp : minExponent ≤ fitExponent num den := by
    obtain ⟨e, he, -⟩ := exists_fitExponent_eq_max hnum hden
    rw [he]
    exact le_max_right e minExponent
  obtain ⟨hfloor, hceil⟩ := roundHalfEven_bounds
    (shiftRatio num den (-fitExponent num den)).1 (shiftRatio num den (-fitExponent num den)).2
  simp only [ofRatio, if_neg hnum]
  -- a quotient that is rounded up to 54 bits takes the next exponent
  by_cases hcarry : roundHalfEven (shiftRatio num den (-fitExponent num den)).1
      (shiftRatio num den (-fitExponent num den)).2 = Nat.pow 2 53
  · simp only [if_pos hcarry]
    split
    · trivial
    · next hmax => exact ⟨by decide, by omega, not_lt.mp hmax, .inl (le_refl _)⟩
  · simp only [if_neg hcarry]
    split
    · trivial
    · next hmax =>
      have hpow : Nat.pow 2 53 = 2 ^ 53 := rfl
      exact ⟨by omega, hexp, not_lt.mp hmax, hmin.imp_left fun h => h.trans hfloor⟩

/-- A decimal is rounded to a double in normal form. -/
theorem normal_ofDecimal (negative : Bool) (digits : Nat) (exponent : Int) :
    (ofDecimal negative digits exponent).Normal := by
  unfold ofDecimal
  split
  · exact normal_zero negative
  · split
    · trivial
    · split
      · exact normal_zero negative
      · split
        · exact normal_ofRatio negative _ (by decide)
        · exact normal_ofRatio negative _ (Nat.pow_pos (by decide))

end Double

end AdmissionLedger
