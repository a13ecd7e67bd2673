import AdmissionLedger.Proofs.Number.Rounding
import Mathlib.Algebra.Order.Floor.Semifield
import Mathlib.Data.Int.Log
import Mathlib.Data.Rat.Floor
import Mathlib.Tactic.FieldSimp
import Mathlib.Tactic.NormNum

/-!
# Rounding as a function on the rationals

What a quotient is rounded to depends on its value only, and not on its terms.  As a function on
the nonnegative rationals rounding keeps the order and leaves the numbers of the grid where they
are.  It moves a number by half a unit of the last place at most.

## Main definitions

* `roundEven` — a number rounded to a whole one, a half to the even neighbour.
* `Double.fit` — the exponent at which a number is rounded to a double.
* `Double.nearest` — the value of the double nearest to a number.

## Main results

* `roundEven_mono`, `abs_roundEven_sub_le` — rounding to whole numbers keeps the order and is off
  by a half at most.
* `Double.nearest_mono`, `Double.abs_nearest_sub_le` — rounding to doubles keeps the order and is
  off by half a unit of the last place at most.
* `Double.eq_nearest_of_ofRatio`, `Double.exists_scale_eq_finite` — this is how quotients and
  products are rounded.
-/

namespace AdmissionLedger

/-! ### Whole numbers -/

/-- A number rounded to the nearest whole number, a half to the even neighbour. -/
def roundEven (x : ℚ) : ℕ :=
  if 1 / 2 < Int.fract x ∨ Int.fract x = 1 / 2 ∧ ⌊x⌋₊ % 2 = 1 then ⌊x⌋₊ + 1 else ⌊x⌋₊

/-- A quotient is rounded by its value. -/
theorem roundHalfEven_eq_roundEven (n : ℕ) {d : ℕ} (hd : 0 < d) :
    roundHalfEven n d = roundEven (n / d) := by
  have hd' : (0 : ℚ) < d := Nat.cast_pos.mpr hd
  have hover : (1 / 2 : ℚ) < (n % d : ℕ) / d ↔ d < 2 * (n % d) := by
    rw [div_lt_div_iff₀ two_pos hd', one_mul, mul_comm]
    exact_mod_cast Iff.rfl
  have htie : ((n % d : ℕ) / d : ℚ) = 1 / 2 ↔ 2 * (n % d) = d := by
    rw [div_eq_div_iff hd'.ne' two_ne_zero, one_mul, mul_comm]
    exact_mod_cast Iff.rfl
  simp only [roundHalfEven, roundEven, Nat.floor_div_eq_div,
    Int.fract_div_natCast_eq_div_natCast_mod, hover, htie, Bool.or_eq_true, decide_eq_true_eq,
    Bool.and_eq_true, beq_iff_eq]

theorem floor_le_roundEven (x : ℚ) : ⌊x⌋₊ ≤ roundEven x := by
  unfold roundEven
  split <;> omega

theorem roundEven_le_floor_add_one (x : ℚ) : roundEven x ≤ ⌊x⌋₊ + 1 := by
  unfold roundEven
  split <;> omega

/-- A nonnegative number in two parts. -/
theorem floor_add_fract {x : ℚ} (hx : 0 ≤ x) : ⌊x⌋₊ + Int.fract x = x := by
  rw [natCast_floor_eq_intCast_floor hx, Int.floor_add_fract]

/-- Of two numbers with one whole part the greater has the greater fraction. -/
theorem fract_le_fract {x y : ℚ} (hx : 0 ≤ x) (h : x ≤ y) (hfloor : ⌊x⌋₊ = ⌊y⌋₊) :
    Int.fract x ≤ Int.fract y := by
  have hx' := floor_add_fract hx
  have hy' := floor_add_fract (hx.trans h)
  rw [hfloor] at hx'
  linarith

/-- Rounding to whole numbers keeps the order. -/
theorem roundEven_mono {x y : ℚ} (hx : 0 ≤ x) (h : x ≤ y) : roundEven x ≤ roundEven y := by
  rcases (Nat.floor_mono h).lt_or_eq with hlt | heq
  · calc roundEven x ≤ ⌊x⌋₊ + 1 := roundEven_le_floor_add_one x
      _ ≤ ⌊y⌋₊ := hlt
      _ ≤ roundEven y := floor_le_roundEven y
  · have hfract : Int.fract x ≤ Int.fract y := fract_le_fract hx h heq
    unfold roundEven
    rw [heq]
    split
    · next hup =>
      rw [if_pos]
      rcases hup with hover | ⟨htie, hodd⟩
      · exact .inl (hover.trans_le hfract)
      · rcases (htie ▸ hfract).lt_or_eq with hover | htie'
        · exact .inl hover
        · exact .inr ⟨htie'.symm, hodd⟩
    · split <;> omega

/-- Rounding to whole numbers is off by a half at most. -/
theorem abs_roundEven_sub_le {x : ℚ} (hx : 0 ≤ x) : |(roundEven x : ℚ) - x| ≤ 1 / 2 := by
  have hparts := floor_add_fract hx
  have hlow := Int.fract_nonneg x
  have hhigh := Int.fract_lt_one x
  rw [abs_le]
  unfold roundEven
  split
  · next hup =>
    have hhalf : 1 / 2 ≤ Int.fract x := hup.elim le_of_lt fun htie => htie.1.ge
    push_cast
    constructor <;> linarith
  · next hdown =>
    have hhalf : Int.fract x ≤ 1 / 2 := not_lt.mp fun hover => hdown (.inl hover)
    constructor <;> linarith

@[simp] theorem roundEven_natCast (n : ℕ) : roundEven n = n := by
  simp [roundEven]

namespace Double

/-! ### Doubles -/

/-- The exponent at which a positive number has a 53-bit whole part, or the least one. -/
def fit (x : ℚ) : ℤ :=
  max (Int.log 2 x - 52) minExponent

/-- The value of the double nearest to a nonnegative number, ties to even. -/
def nearest (x : ℚ) : ℚ :=
  roundEven (x / 2 ^ fit x) * 2 ^ fit x

/-- A quotient is rounded at the exponent of its value. -/
theorem fitExponent_eq_fit {num den : ℕ} (hnum : num ≠ 0) (hden : 0 < den) :
    fitExponent num den = fit (num / den) := by
  obtain ⟨e, he, hlow, hhigh⟩ := exists_fitExponent_eq_max hnum hden
  have hpos : (0 : ℚ) < num / den :=
    div_pos (Nat.cast_pos.mpr (Nat.pos_of_ne_zero hnum)) (Nat.cast_pos.mpr hden)
  have hge : 52 + e ≤ Int.log 2 ((num : ℚ) / den) :=
    (Int.zpow_le_iff_le_log (by decide) hpos).mp (by exact_mod_cast hlow)
  have hlt : Int.log 2 ((num : ℚ) / den) < 53 + e :=
    (Int.lt_zpow_iff_log_lt (by decide) hpos).mp (by exact_mod_cast hhigh)
  rw [he, fit, show Int.log 2 ((num : ℚ) / den) - 52 = e by omega]

/-- Below a power of two the exponent is that of its last place. -/
theorem fit_le {x : ℚ} {k : ℤ} (hx : 0 < x) (h : x < 2 ^ k) (hk : -1021 ≤ k) :
    fit x ≤ k - 53 := by
  have hlog : Int.log 2 x < k := (Int.lt_zpow_iff_log_lt (by decide) hx).mp (by exact_mod_cast h)
  simp only [fit, minExponent]
  omega

theorem lt_two_zpow_fit (x : ℚ) : x < 2 ^ (53 + fit x) := by
  calc x < ((2 : ℕ) : ℚ) ^ (Int.log 2 x + 1) := Int.lt_zpow_succ_log_self (by decide) x
    _ ≤ 2 ^ (53 + fit x) := by
      rw [Nat.cast_ofNat]
      refine zpow_le_zpow_right₀ (by norm_num) ?_
      simp only [fit]
      omega

theorem two_zpow_fit_le {x : ℚ} (hx : 0 < x) (h : minExponent < fit x) :
    2 ^ (52 + fit x) ≤ x := by
  have hfit : 52 + fit x = Int.log 2 x := by
    simp only [fit] at h ⊢
    omega
  rw [hfit]
  exact_mod_cast Int.zpow_log_le_self (b := 2) (by decide) hx

theorem fit_mono {x y : ℚ} (hx : 0 < x) (h : x ≤ y) : fit x ≤ fit y := by
  have := Int.log_mono_right (b := 2) hx h
  simp only [fit]
  omega

@[simp] theorem nearest_zero : nearest 0 = 0 := by
  have h := roundEven_natCast 0
  simp_all [nearest]

theorem nearest_nonneg (x : ℚ) : 0 ≤ nearest x :=
  mul_nonneg (Nat.cast_nonneg _) (zpow_pos two_pos _).le

/-- A number is rounded to one of 53 bits, or to the next power of two. -/
theorem nearest_le_two_zpow {x : ℚ} (hx : 0 ≤ x) : nearest x ≤ 2 ^ (53 + fit x) := by
  have hunit : (0 : ℚ) < 2 ^ fit x := zpow_pos two_pos _
  have hbits : roundEven (x / 2 ^ fit x) ≤ 2 ^ 53 := by
    calc roundEven (x / 2 ^ fit x) ≤ roundEven (2 ^ 53 : ℕ) := by
          refine roundEven_mono (div_nonneg hx hunit.le) ?_
          rw [div_le_iff₀ hunit, Nat.cast_pow, Nat.cast_ofNat, ← zpow_natCast,
            ← zpow_add₀ two_ne_zero]
          exact (lt_two_zpow_fit x).le
      _ = 2 ^ 53 := roundEven_natCast _
  calc nearest x ≤ (2 ^ 53 : ℕ) * 2 ^ fit x :=
        mul_le_mul_of_nonneg_right (Nat.cast_le.mpr hbits) hunit.le
    _ = 2 ^ (53 + fit x) := by
      rw [zpow_add₀ two_ne_zero]
      norm_num

/-- Above the least exponent a number is rounded to one with all its bits. -/
theorem two_zpow_le_nearest {x : ℚ} (hx : 0 < x) (h : minExponent < fit x) :
    2 ^ (52 + fit x) ≤ nearest x := by
  have hunit : (0 : ℚ) < 2 ^ fit x := zpow_pos two_pos _
  have hbits : 2 ^ 52 ≤ roundEven (x / 2 ^ fit x) := by
    calc 2 ^ 52 = roundEven (2 ^ 52 : ℕ) := (roundEven_natCast _).symm
      _ ≤ roundEven (x / 2 ^ fit x) := by
        refine roundEven_mono (Nat.cast_nonneg _) ?_
        rw [le_div_iff₀ hunit, Nat.cast_pow, Nat.cast_ofNat, ← zpow_natCast,
          ← zpow_add₀ two_ne_zero]
        exact two_zpow_fit_le hx h
  calc (2 : ℚ) ^ (52 + fit x) = (2 ^ 52 : ℕ) * 2 ^ fit x := by
        rw [zpow_add₀ two_ne_zero]
        norm_num
    _ ≤ nearest x := mul_le_mul_of_nonneg_right (Nat.cast_le.mpr hbits) hunit.le

/-- Rounding to doubles keeps the order. -/
theorem nearest_mono {x y : ℚ} (hx : 0 ≤ x) (h : x ≤ y) : nearest x ≤ nearest y := by
  rcases hx.eq_or_lt with rfl | hpos
  · rw [nearest_zero]
    exact nearest_nonneg y
  rcases (fit_mono hpos h).lt_or_eq with hlt | heq
  · -- a power of two lies between the doubles of two exponents
    have hmin : minExponent < fit y := (le_max_right _ _).trans_lt hlt
    calc nearest x ≤ 2 ^ (53 + fit x) := nearest_le_two_zpow hx
      _ ≤ 2 ^ (52 + fit y) := zpow_le_zpow_right₀ (by norm_num) (by omega)
      _ ≤ nearest y := two_zpow_le_nearest (hpos.trans_le h) hmin
  · have hunit : (0 : ℚ) < 2 ^ fit y := zpow_pos two_pos _
    unfold nearest
    rw [heq]
    refine mul_le_mul_of_nonneg_right (Nat.cast_le.mpr ?_) hunit.le
    exact roundEven_mono (div_nonneg hx hunit.le) (div_le_div_of_nonneg_right h hunit.le)

/-- Rounding to doubles is off by half a unit of the last place at most. -/
theorem abs_nearest_sub_le {x : ℚ} {k : ℤ} (hx : 0 ≤ x) (h : x < 2 ^ k) (hk : -1021 ≤ k) :
    |nearest x - x| ≤ 2 ^ (k - 54) := by
  rcases hx.eq_or_lt with rfl | hpos
  · simp [(zpow_pos two_pos (k - 54) : (0 : ℚ) < _).le]
  have hunit : (0 : ℚ) < 2 ^ fit x := zpow_pos two_pos _
  calc |nearest x - x| = |(roundEven (x / 2 ^ fit x) : ℚ) - x / 2 ^ fit x| * 2 ^ fit x := by
        rw [← abs_of_pos hunit, ← abs_mul, sub_mul, abs_of_pos hunit, div_mul_cancel₀ _ hunit.ne',
          nearest]
    _ ≤ 1 / 2 * 2 ^ fit x :=
      mul_le_mul_of_nonneg_right (abs_roundEven_sub_le (div_nonneg hx hunit.le)) hunit.le
    _ ≤ 1 / 2 * 2 ^ (k - 53) := by
      have hfit := zpow_le_zpow_right₀ (a := (2 : ℚ)) (by norm_num) (fit_le hpos h hk)
      linarith
    _ = 2 ^ (k - 54) := by
      rw [show k - 53 = k - 54 + 1 by ring, zpow_add₀ two_ne_zero]
      ring

/-- A whole number below 2⁵³ is a double. -/
theorem nearest_natCast {n : ℕ} (hn : n < 2 ^ 53) : nearest n = n := by
  rcases Nat.eq_zero_or_pos n with rfl | hpos
  · exact nearest_zero
  have hfit : fit n ≤ 0 :=
    fit_le (k := 53) (Nat.cast_pos.mpr hpos) (by exact_mod_cast hn) (by decide)
  obtain ⟨j, hj⟩ := Int.eq_ofNat_of_zero_le (neg_nonneg.mpr hfit)
  have hscaled : (n : ℚ) / 2 ^ fit n = (n * 2 ^ j : ℕ) := by
    rw [div_eq_mul_inv, ← zpow_neg, hj, zpow_natCast, Nat.cast_mul, Nat.cast_pow, Nat.cast_ofNat]
  rw [nearest, hscaled, roundEven_natCast, ← hscaled, div_mul_cancel₀]
  exact (zpow_pos two_pos _).ne'

/-- A quotient that is rounded to a finite double is rounded to the one nearest to it. -/
theorem eq_nearest_of_ofRatio {negative s : Bool} {num den m : ℕ} {e : ℤ} (hden : 0 < den)
    (h : ofRatio negative num den = .finite s m e) :
    s = negative ∧ magnitude m e = nearest (num / den) := by
  by_cases hnum : num = 0
  · rw [ofRatio, if_pos hnum, zero] at h
    obtain ⟨rfl, rfl, rfl⟩ := h
    simp [hnum, magnitude]
  have hvalue : (roundHalfEven (shiftRatio num den (-fit (num / den))).1
      (shiftRatio num den (-fit (num / den))).2 : ℚ) * 2 ^ fit (num / den) =
        nearest (num / den) := by
    rw [roundHalfEven_eq_roundEven _ (shiftRatio_snd_pos hden _), shiftRatio_div, zpow_neg,
      ← div_eq_mul_inv, nearest]
  simp only [ofRatio, if_neg hnum, fitExponent_eq_fit hnum hden] at h
  -- a quotient that is rounded up to 54 bits takes the next exponent
  by_cases hcarry : roundHalfEven (shiftRatio num den (-fit (num / den))).1
      (shiftRatio num den (-fit (num / den))).2 = Nat.pow 2 53
  · simp only [if_pos hcarry] at h
    split at h
    · cases h
    · obtain ⟨rfl, rfl, rfl⟩ := h
      refine ⟨rfl, ?_⟩
      rw [← hvalue, hcarry, magnitude, zpow_add₀ two_ne_zero, Nat.pow_eq, Nat.pow_eq]
      push_cast
      ring
  · simp only [if_neg hcarry] at h
    split at h
    · cases h
    · obtain ⟨rfl, rfl, rfl⟩ := h
      exact ⟨rfl, hvalue⟩

/-- A quotient below 2¹⁰²³ is rounded to a finite double. -/
theorem exists_ofRatio_eq_finite (negative : Bool) {num den : ℕ} {k : ℤ} (hden : 0 < den)
    (h : (num : ℚ) / den < 2 ^ k) (hk : k ≤ 1023) :
    ∃ m e, ofRatio negative num den = .finite negative m e := by
  by_cases hnum : num = 0
  · exact ⟨0, minExponent, by rw [ofRatio, if_pos hnum, zero]⟩
  have hpos : (0 : ℚ) < num / den :=
    div_pos (Nat.cast_pos.mpr (Nat.pos_of_ne_zero hnum)) (Nat.cast_pos.mpr hden)
  have hfit : fit (num / den) ≤ 970 :=
    fit_le hpos (h.trans_le (zpow_le_zpow_right₀ (by norm_num) hk)) (by decide)
  simp only [ofRatio, if_neg hnum, fitExponent_eq_fit hnum hden]
  split
  · exact ⟨_, _, if_neg (by simp only [maxExponent]; omega)⟩
  · exact ⟨_, _, if_neg (by simp only [maxExponent]; omega)⟩

/-- A double as a quotient. -/
theorem shiftRatio_one_div (m : ℕ) (e : ℤ) :
    ((shiftRatio m 1 e).1 : ℚ) / (shiftRatio m 1 e).2 = magnitude m e := by
  rw [shiftRatio_div, Nat.cast_one, div_one, magnitude]

/-- A product below 2¹⁰²³ is rounded to the double nearest to it. -/
theorem exists_scale_eq_finite (negative : Bool) {m factor : ℕ} {e k : ℤ}
    (h : factor * magnitude m e < 2 ^ k) (hk : k ≤ 1023) :
    ∃ m' e', (finite negative m e).scale factor = .finite negative m' e' ∧
      magnitude m' e' = nearest (factor * magnitude m e) := by
  have hvalue : ((shiftRatio (m * factor) 1 e).1 : ℚ) / (shiftRatio (m * factor) 1 e).2 =
      factor * magnitude m e := by
    rw [shiftRatio_one_div, magnitude, magnitude]
    push_cast
    ring
  have hden : 0 < (shiftRatio (m * factor) 1 e).2 := shiftRatio_snd_pos one_pos e
  obtain ⟨m', e', hscale⟩ := exists_ofRatio_eq_finite negative hden (hvalue ▸ h) hk
  exact ⟨m', e', hscale, hvalue ▸ (eq_nearest_of_ofRatio hden hscale).2⟩

end Double

end AdmissionLedger
