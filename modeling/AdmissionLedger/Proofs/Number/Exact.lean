import AdmissionLedger.Proofs.Number.Double

/-!
# Exact values

A double stands for a rational number, for an infinity or for nothing.  Doubles and integers
are compared by what they stand for: neither is rounded to the type of the other, and the
two zeros stand for the same number.

## Main definitions

* `ExactValue` — what a number can stand for.
* `Double.exactValue` — what a double stands for.

## Main results

* `Double.sameValue_iff`, `Double.sameValueInt_iff` — the two comparisons in terms of exact values.
-/

namespace AdmissionLedger

/-- What a number stands for. -/
inductive ExactValue
  /-- Not a number stands for nothing. -/
  | nan
  | infinite (negative : Bool)
  | rational (value : ℚ)

namespace Double

/-- A rational number with a sign put before it. -/
def signed (negative : Bool) (x : ℚ) : ℚ :=
  if negative then -x else x

/-- What a double stands for. -/
def exactValue : Double → ExactValue
  | .nan => .nan
  | .infinite negative => .infinite negative
  | .finite negative m e => .rational (signed negative (magnitude m e))

theorem exactValue_eq_nan_iff {x : Double} : x.exactValue = .nan ↔ x = .nan := by
  cases x <;> simp [exactValue]

/-! ### Magnitudes -/

theorem magnitude_nonneg (m : Nat) (e : Int) : 0 ≤ magnitude m e :=
  mul_nonneg (Nat.cast_nonneg m) (zpow_nonneg (by norm_num) e)

theorem magnitude_eq_zero_iff {m : Nat} {e : Int} : magnitude m e = 0 ↔ m = 0 := by
  rw [magnitude, mul_eq_zero, Nat.cast_eq_zero, or_iff_left (zpow_ne_zero e (by norm_num))]

/-- A mantissa that is shifted to a smaller exponent is the magnitude in units of that exponent. -/
theorem shiftRatio_sub_mul {m : Nat} {e c : Int} (h : c ≤ e) :
    ((shiftRatio m 1 (e - c)).1 : ℚ) * 2 ^ c = magnitude m e := by
  have hshift : ((shiftRatio m 1 (e - c)).1 : ℚ) = m * 2 ^ (e - c) := by
    have hdiv := shiftRatio_div m 1 (e - c)
    have hone : (shiftRatio m 1 (e - c)).2 = 1 := by
      rw [shiftRatio, if_pos (Int.sub_nonneg_of_le h)]
    rwa [hone, Nat.cast_one, div_one, div_one] at hdiv
  rw [hshift, mul_assoc, ← zpow_add₀ (by norm_num), Int.sub_add_cancel, magnitude]

/-- Two mantissas are the same in units of the smaller exponent exactly if the magnitudes are. -/
theorem shiftRatio_eq_iff {m n : Nat} {e f : Int} :
    (shiftRatio m 1 (e - min e f)).1 = (shiftRatio n 1 (f - min e f)).1 ↔
      magnitude m e = magnitude n f := by
  have hunit : (2 : ℚ) ^ min e f ≠ 0 := zpow_ne_zero _ (by norm_num)
  rw [← shiftRatio_sub_mul (min_le_left e f), ← shiftRatio_sub_mul (min_le_right e f),
    mul_left_inj' hunit, Nat.cast_inj]

/-- Numbers with signs before them are the same if both are zero or they and their signs are. -/
theorem signed_eq_iff {s s' : Bool} {x y : ℚ} (hx : 0 ≤ x) (hy : 0 ≤ y) :
    signed s x = signed s' y ↔ (x = 0 ∧ y = 0) ∨ s = s' ∧ x = y := by
  by_cases hsign : s = s'
  · subst hsign
    have hneg : signed s x = signed s y ↔ x = y := by cases s <;> simp [signed]
    rw [hneg, and_iff_right rfl]
    refine ⟨.inr, ?_⟩
    rintro (⟨rfl, rfl⟩ | h)
    · rfl
    · exact h
  · have hsum : signed s x = signed s' y ↔ x + y = 0 := by
      cases s <;> cases s' <;> simp [signed] at hsign ⊢
      · exact eq_neg_iff_add_eq_zero
      · rw [neg_eq_iff_add_eq_zero]
    rw [hsum, add_eq_zero_iff_of_nonneg hx hy, or_iff_left fun h => hsign h.1]

/-! ### Comparisons -/

/-- Doubles have the same value exactly if they stand for the same number or infinity. -/
theorem sameValue_iff {x y : Double} :
    x.sameValue y = true ↔ x ≠ .nan ∧ x.exactValue = y.exactValue := by
  cases x with
  | nan => simp [sameValue]
  | infinite s => cases y <;> simp [sameValue, exactValue]
  | finite s m e =>
    cases y with
    | nan => simp [sameValue, exactValue]
    | infinite s' => simp [sameValue, exactValue]
    | finite s' n f =>
      simp only [sameValue, exactValue, Bool.or_eq_true, Bool.and_eq_true, beq_iff_eq,
        shiftRatio_eq_iff, ExactValue.rational.injEq,
        signed_eq_iff (magnitude_nonneg m e) (magnitude_nonneg n f), magnitude_eq_zero_iff]
      exact (and_iff_right nofun).symm

/-- A quotient without a remainder is the whole number that it stands for. -/
theorem signed_div_eq_iff {s : Bool} {n d : Nat} (hd : 0 < d) {k : Int} :
    signed s ((n : ℚ) / d) = k ↔
      n % d = 0 ∧ (if s then -((n / d : Nat) : Int) else (n / d : Nat)) = k := by
  have hd' : (d : ℚ) ≠ 0 := Nat.cast_ne_zero.mpr hd.ne'
  by_cases hdvd : n % d = 0
  · obtain ⟨q, rfl⟩ := Nat.dvd_of_mod_eq_zero hdvd
    rw [and_iff_right hdvd, Nat.mul_div_cancel_left q hd, Nat.cast_mul, mul_div_cancel_left₀ _ hd']
    cases s
    · show (q : ℚ) = k ↔ (q : Int) = k
      exact_mod_cast Iff.rfl
    · show -(q : ℚ) = k ↔ -(q : Int) = k
      exact_mod_cast Iff.rfl
  · refine iff_of_false (fun h => hdvd ?_) fun h => hdvd h.1
    obtain ⟨j, hj⟩ : ∃ j : Int, (n : ℚ) / d = j := by
      cases s
      · exact ⟨k, h⟩
      · exact ⟨-k, by rw [Int.cast_neg, ← h, signed, if_pos rfl, neg_neg]⟩
    rw [div_eq_iff hd'] at hj
    have hmul : (n : Int) = j * d := by exact_mod_cast hj
    exact Nat.mod_eq_zero_of_dvd (Int.natCast_dvd_natCast.mp ⟨j, by rw [hmul, mul_comm]⟩)

/-- A double is a whole number exactly if it stands for it. -/
theorem toInt?_eq_some_iff {x : Double} {k : Int} :
    x.toInt? = some k ↔ x.exactValue = .rational k := by
  cases x with
  | nan => simp [toInt?, exactValue]
  | infinite s => simp [toInt?, exactValue]
  | finite s m e =>
    have hpos : 0 < (shiftRatio m 1 e).2 := shiftRatio_snd_pos one_pos e
    have hvalue := shiftRatio_div m 1 e
    rw [Nat.cast_one, div_one] at hvalue
    rw [toInt?, exactValue, ExactValue.rational.injEq, magnitude, ← hvalue, signed_div_eq_iff hpos,
      Option.ite_none_right_eq_some, Option.some.injEq]

theorem sameValueInt_iff {x : Double} {n : Int} :
    x.sameValueInt n = true ↔ x.exactValue = .rational n := by
  rw [sameValueInt, beq_iff_eq, toInt?_eq_some_iff]

end Double

end AdmissionLedger
