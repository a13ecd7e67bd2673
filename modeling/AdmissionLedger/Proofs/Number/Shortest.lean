import AdmissionLedger.Proofs.Number.Double
import AdmissionLedger.Proofs.Text.Numeral
import Mathlib.Tactic.FieldSimp

/-!
# Shortest decimals round to their double

The search for the shortest digits stops at the first decimal in the rounding interval.
With seventeen digits the grid of decimals is finer than the interval, so that the
search always ends, and what it finds rounds to the double.

## Main results

* `Double.two_zpow_le_ten_zpow` — powers of two and of ten compared by their exponents.
* `Double.decimalPlace_spec` — the place of the point of a double.
* `Double.nearestWith_spec`, `Double.exists_nearestWith` — what the search finds, and that it does.
* `Double.shortest_spec` — the shortest digits round to the double.
-/

namespace AdmissionLedger.Double

/-! ### Powers of two and of ten -/

/-- 2⁹³ is below 10²⁸ and 2¹⁹⁶ above 10⁵⁹, which compares all powers whose exponents are as far
apart as that. -/
theorem two_zpow_le_ten_zpow {a b : Int} (hpos : 0 ≤ a → 28 * a ≤ 93 * b)
    (hneg : a ≤ 0 → 59 * a ≤ 196 * b) : (2 : ℚ) ^ a ≤ 10 ^ b := by
  rcases Int.le_total 0 a with ha | ha
  · obtain ⟨n, rfl⟩ := Int.eq_ofNat_of_zero_le ha
    obtain ⟨k, rfl⟩ := Int.eq_ofNat_of_zero_le (show 0 ≤ b by have := hpos ha; omega)
    have hexp : 28 * n ≤ 93 * k := by have := hpos ha; omega
    have hnat : 2 ^ n ≤ 10 ^ k := by
      refine (Nat.pow_le_pow_iff_left (show 93 ≠ 0 by decide)).mp ?_
      calc (2 ^ n) ^ 93 = (2 ^ 93) ^ n := by rw [← Nat.pow_mul, ← Nat.pow_mul, Nat.mul_comm]
        _ ≤ (10 ^ 28) ^ n := Nat.pow_le_pow_left (by decide) n
        _ = 10 ^ (28 * n) := by rw [← Nat.pow_mul]
        _ ≤ 10 ^ (93 * k) := Nat.pow_le_pow_right (by decide) hexp
        _ = (10 ^ k) ^ 93 := by rw [← Nat.pow_mul, Nat.mul_comm]
    exact_mod_cast hnat
  · obtain ⟨n, hn⟩ := Int.eq_ofNat_of_zero_le (show 0 ≤ -a by omega)
    obtain rfl : a = -n := by omega
    rcases Int.le_total 0 b with hb | hb
    · exact (zpow_le_one_of_nonpos₀ (by norm_num) ha).trans (one_le_zpow₀ (by norm_num) hb)
    · obtain ⟨k, hk⟩ := Int.eq_ofNat_of_zero_le (show 0 ≤ -b by omega)
      obtain rfl : b = -k := by omega
      have hexp : 196 * k ≤ 59 * n := by have := hneg ha; omega
      have hnat : 10 ^ k ≤ 2 ^ n := by
        refine (Nat.pow_le_pow_iff_left (show 196 ≠ 0 by decide)).mp ?_
        calc (10 ^ k) ^ 196 = 10 ^ (196 * k) := by rw [← Nat.pow_mul, Nat.mul_comm]
          _ ≤ 10 ^ (59 * n) := Nat.pow_le_pow_right (by decide) hexp
          _ = (10 ^ 59) ^ n := by rw [← Nat.pow_mul]
          _ ≤ (2 ^ 196) ^ n := Nat.pow_le_pow_left (by decide) n
          _ = (2 ^ n) ^ 196 := by rw [← Nat.pow_mul, ← Nat.pow_mul, Nat.mul_comm]
      have hcast : (10 : ℚ) ^ k ≤ 2 ^ n := by exact_mod_cast hnat
      rw [zpow_neg, zpow_neg, zpow_natCast, zpow_natCast]
      exact inv_anti₀ (by positivity) hcast

/-! ### The place of the point -/

/-- Whether a quotient is below a power of ten, computed by the sign of the exponent. -/
def isBelowPower (n d : Nat) (p : Int) : Bool :=
  if 0 ≤ p then n < d * Nat.pow 10 p.toNat else n * Nat.pow 10 (-p).toNat < d

theorem isBelowPower_iff {n d : Nat} (hd : 0 < d) (p : Int) :
    isBelowPower n d p = true ↔ (n : ℚ) / d < 10 ^ p := by
  have hd' : (0 : ℚ) < d := Nat.cast_pos.mpr hd
  unfold isBelowPower
  split
  · next h =>
    rw [decide_eq_true_eq, zpow_eq_of_nonneg h, div_lt_iff₀ hd', mul_comm, Nat.pow_eq]
    exact_mod_cast Iff.rfl
  · next h =>
    rw [decide_eq_true_eq, zpow_eq_of_neg h, div_lt_iff₀ hd', lt_inv_mul_iff₀ (by positivity),
      Nat.pow_eq, mul_comm n]
    exact_mod_cast Iff.rfl

/-- A double lies between two powers of two next to each other. -/
theorem two_zpow_log2_le {m : Nat} (hm : m ≠ 0) (e : Int) :
    (2 : ℚ) ^ ((m.log2 : Int) + e) ≤ magnitude m e ∧
      magnitude m e < 2 ^ ((m.log2 : Int) + e + 1) := by
  have hpos : (0 : ℚ) < 2 ^ e := zpow_pos (by norm_num) e
  have hle : (2 : ℚ) ^ m.log2 ≤ m := by exact_mod_cast Nat.log2_self_le hm
  have hlt : (m : ℚ) < 2 ^ (m.log2 + 1) := by exact_mod_cast Nat.lt_log2_self
  constructor
  · rw [zpow_add₀ (by norm_num), zpow_natCast, magnitude]
    exact mul_le_mul_of_nonneg_right hle hpos.le
  · have hexp : (m.log2 : Int) + e + 1 = ((m.log2 + 1 : Nat) : Int) + e := by push_cast; ring
    rw [hexp, zpow_add₀ (by norm_num), zpow_natCast, magnitude]
    exact mul_lt_mul_of_pos_right hlt hpos

/-- Whether a double is below a power of ten. -/
def isBelow (m : Nat) (e : Int) : Int → Bool :=
  isBelowPower (shiftRatio m 1 e).1 (shiftRatio m 1 e).2

theorem isBelow_iff (m : Nat) (e p : Int) : isBelow m e p = true ↔ magnitude m e < 10 ^ p := by
  rw [isBelow, isBelowPower_iff (shiftRatio_snd_pos (by decide) e), shiftRatio_div, Nat.cast_one,
    div_one, magnitude]

/-- The place of the point, by the guess of the logarithm from which it is searched. -/
theorem decimalPlace_eq (m : Nat) (e : Int) :
    decimalPlace m e =
      let guess := Int.fdiv (((m.log2 : Int) + e) * 30103) 100000
      if isBelow m e (guess - 1) then guess - 1 else if isBelow m e guess then guess
      else if isBelow m e (guess + 1) then guess + 1 else guess + 2 :=
  rfl

/-- A normal double has so many digits before its point. -/
theorem decimalPlace_spec {s : Bool} {m : Nat} {e : Int} (hn : Normal (.finite s m e))
    (hm : m ≠ 0) : (10 : ℚ) ^ (decimalPlace m e - 1) ≤ magnitude m e ∧
      magnitude m e < 10 ^ decimalPlace m e := by
  obtain ⟨hbits, hmin, hmax, -⟩ := hn
  simp only [minExponent, maxExponent] at hmin hmax
  have hlog : m.log2 < 53 := (Nat.log2_lt hm).mpr hbits
  obtain ⟨hlow, hhigh⟩ := two_zpow_log2_le hm e
  generalize hL : (m.log2 : Int) + e = L at hlow hhigh
  generalize hguess : Int.fdiv (L * 30103) 100000 = guess
  have hfdiv : guess * 100000 ≤ L * 30103 ∧ L * 30103 < (guess + 1) * 100000 := by
    rw [Int.fdiv_eq_ediv_of_nonneg _ (by decide)] at hguess
    omega
  have hunder : (10 : ℚ) ^ (guess - 2) ≤ magnitude m e := by
    have hinv : (2 : ℚ) ^ (-L) ≤ 10 ^ (-(guess - 2)) :=
      two_zpow_le_ten_zpow (by omega) (by omega)
    rw [zpow_neg, zpow_neg, inv_le_inv₀ (by positivity) (by positivity)] at hinv
    exact hinv.trans hlow
  have hover : magnitude m e < 10 ^ (guess + 2) :=
    hhigh.trans_le (two_zpow_le_ten_zpow (by omega) (by omega))
  rw [decimalPlace_eq, hL, hguess]
  -- what is not below a power is at least that power
  have hge : ∀ p, ¬ isBelow m e p = true → (10 : ℚ) ^ p ≤ magnitude m e :=
    fun p h => not_lt.mp (mt (isBelow_iff m e p).mpr h)
  dsimp only
  split
  · next h => exact ⟨by rwa [show guess - 1 - 1 = guess - 2 by ring], (isBelow_iff m e _).mp h⟩
  · next hnot =>
    split
    · next h => exact ⟨hge _ hnot, (isBelow_iff m e _).mp h⟩
    · next hnot =>
      split
      · next h => exact ⟨by rw [add_sub_cancel_right]; exact hge _ hnot, (isBelow_iff m e _).mp h⟩
      · next hnot =>
        exact ⟨by rw [show guess + 2 - 1 = guess + 1 by ring]; exact hge _ hnot, hover⟩

/-! ### The grid of decimals -/

/-- One step of the grid of decimals with so many digits, in units of a quarter of the last
place. -/
def gridStep (m : Nat) (e : Int) (count : Nat) : Nat × Nat :=
  let grid := decimalPlace m e - count
  let (a, b) := shiftRatio 1 1 (2 - e)
  if 0 ≤ grid then (a * Nat.pow 10 grid.toNat, b) else (a, b * Nat.pow 10 (-grid).toNat)

/-- The greatest decimal of the grid that is not above the double. -/
def gridBelow (m : Nat) (e : Int) (count : Nat) : Nat :=
  4 * m * (gridStep m e count).2 / (gridStep m e count).1

section

variable {m : Nat} {e : Int} {count : Nat}

theorem gridStep_pos (m : Nat) (e : Int) (count : Nat) :
    0 < (gridStep m e count).1 ∧ 0 < (gridStep m e count).2 := by
  have hsnd : 0 < (shiftRatio 1 1 (2 - e)).2 := shiftRatio_snd_pos (by decide) _
  have hfst : 0 < (shiftRatio 1 1 (2 - e)).1 := by
    unfold shiftRatio
    split
    · exact Nat.mul_pos (by decide) (Nat.pow_pos (by decide))
    · exact Nat.one_pos
  simp only [gridStep]
  split
  · exact ⟨Nat.mul_pos hfst (Nat.pow_pos (by decide)), hsnd⟩
  · exact ⟨hfst, Nat.mul_pos hsnd (Nat.pow_pos (by decide))⟩

/-- The step of the grid is a power of ten. -/
theorem gridStep_fst_mul (m : Nat) (e : Int) (count : Nat) :
    ((gridStep m e count).1 : ℚ) * 2 ^ (e - 2)
      = 10 ^ (decimalPlace m e - count) * (gridStep m e count).2 := by
  have hshift := shiftRatio_div 1 1 (2 - e)
  have hsnd : (0 : ℚ) < (shiftRatio 1 1 (2 - e)).2 :=
    Nat.cast_pos.mpr (shiftRatio_snd_pos (by decide) _)
  rw [Nat.cast_one, div_one, one_mul, div_eq_iff hsnd.ne'] at hshift
  have hunit : (2 : ℚ) ^ (2 - e) * 2 ^ (e - 2) = 1 := by
    rw [← zpow_add₀ (by norm_num)]
    simp
  have hfst : ((shiftRatio 1 1 (2 - e)).1 : ℚ) * 2 ^ (e - 2) = (shiftRatio 1 1 (2 - e)).2 := by
    rw [hshift, mul_right_comm, hunit, one_mul]
  simp only [gridStep]
  split
  · next h =>
    rw [zpow_eq_of_nonneg h]
    simp only [Nat.pow_eq, Nat.cast_mul, Nat.cast_pow, Nat.cast_ofNat]
    rw [mul_right_comm, hfst, mul_comm]
  · next h =>
    rw [zpow_eq_of_neg h]
    simp only [Nat.pow_eq, Nat.cast_mul, Nat.cast_pow, Nat.cast_ofNat]
    rw [hfst, mul_comm, mul_assoc, mul_inv_cancel₀ (by positivity), mul_one]

/-- The comparison of an end of the interval with a decimal of the grid, in their common units. -/
theorem mul_gridStep_le_iff (a k : Nat) :
    a * (gridStep m e count).2 ≤ k * (gridStep m e count).1 ↔
      (a : ℚ) * 2 ^ (e - 2) ≤ k * 10 ^ (decimalPlace m e - count) := by
  have hden : (0 : ℚ) < (gridStep m e count).2 := Nat.cast_pos.mpr (gridStep_pos m e count).2
  have hunit : (0 : ℚ) < 2 ^ (e - 2) := zpow_pos (by norm_num) _
  rw [← mul_le_mul_iff_of_pos_right hden, mul_assoc (k : ℚ), ← gridStep_fst_mul,
    mul_right_comm, ← mul_assoc (k : ℚ), mul_le_mul_iff_of_pos_right hunit]
  exact_mod_cast Iff.rfl

theorem mul_gridStep_ge_iff (a k : Nat) :
    k * (gridStep m e count).1 ≤ a * (gridStep m e count).2 ↔
      (k : ℚ) * 10 ^ (decimalPlace m e - count) ≤ a * 2 ^ (e - 2) := by
  have hden : (0 : ℚ) < (gridStep m e count).2 := Nat.cast_pos.mpr (gridStep_pos m e count).2
  have hunit : (0 : ℚ) < 2 ^ (e - 2) := zpow_pos (by norm_num) _
  rw [← mul_le_mul_iff_of_pos_right hden, mul_assoc (k : ℚ), ← gridStep_fst_mul,
    mul_right_comm (a : ℚ), ← mul_assoc (k : ℚ), mul_le_mul_iff_of_pos_right hunit]
  exact_mod_cast Iff.rfl

/-- A decimal of the grid is found in the interval exactly if it rounds to the double. -/
theorem contains_iff (k : Nat) :
    (interval m e).contains (k * (gridStep m e count).1) (gridStep m e count).2 = true ↔
      Rounds m e (k * 10 ^ (decimalPlace m e - count)) := by
  unfold Interval.contains Rounds
  split
  · rw [Bool.and_eq_true, decide_eq_true_eq, decide_eq_true_eq, mul_gridStep_le_iff,
      mul_gridStep_ge_iff]
  · rw [Bool.and_eq_true, decide_eq_true_eq, decide_eq_true_eq, ← not_le, ← not_le,
      mul_gridStep_le_iff, mul_gridStep_ge_iff, not_le, not_le]

theorem magnitude_eq_quarters (m : Nat) (e : Int) :
    magnitude m e = (4 * m : Nat) * 2 ^ (e - 2) := by
  rw [magnitude, zpow_sub₀ (by norm_num)]
  push_cast
  ring

/-- A double lies between two decimals of the grid next to each other. -/
theorem gridBelow_spec (m : Nat) (e : Int) (count : Nat) :
    (gridBelow m e count : ℚ) * 10 ^ (decimalPlace m e - count) ≤ magnitude m e ∧
      magnitude m e < (gridBelow m e count + 1 : Nat) * 10 ^ (decimalPlace m e - count) := by
  rw [magnitude_eq_quarters, ← mul_gridStep_ge_iff, ← not_le, ← mul_gridStep_ge_iff, not_le]
  exact ⟨Nat.div_mul_le_self _ _,
    Nat.lt_mul_of_div_lt (Nat.lt_succ_self _) (gridStep_pos m e count).1⟩

/-- Whether a decimal of the grid lies in the interval. -/
def hits (m : Nat) (e : Int) (count k : Nat) : Bool :=
  (interval m e).contains (k * (gridStep m e count).1) (gridStep m e count).2

/-- Whether the decimal below is taken where both are in the interval. -/
def takesBelow (m : Nat) (e : Int) (count : Nat) : Bool :=
  let (num, den) := gridStep m e count
  let lower := gridBelow m e count
  let below := 4 * m * den - lower * num
  let above := (lower + 1) * num - 4 * m * den
  below < above || (below == above && lower % 2 == 0)

/-- The search on the grid, by what lies in the interval. -/
theorem nearestWith_eq (m : Nat) (e : Int) (count : Nat) :
    nearestWith m e count =
      let lower := gridBelow m e count
      let hitLower := lower != 0 && hits m e count lower
      let hitUpper := hits m e count (lower + 1)
      if hitLower && hitUpper then if takesBelow m e count then some lower else some (lower + 1)
      else if hitLower then some lower
      else if hitUpper then some (lower + 1)
      else none :=
  rfl

/-- What is found on the grid: one of the two decimals next to the double, if it rounds to it. -/
theorem nearestWith_spec {digits : Nat} (h : nearestWith m e count = some digits) :
    digits ≠ 0 ∧ (digits = gridBelow m e count ∨ digits = gridBelow m e count + 1) ∧
      Rounds m e (digits * 10 ^ (decimalPlace m e - count)) := by
  rw [← contains_iff]
  rw [nearestWith_eq] at h
  dsimp only at h
  have hlower : (gridBelow m e count != 0 && hits m e count (gridBelow m e count)) = true →
      gridBelow m e count ≠ 0 ∧ hits m e count (gridBelow m e count) = true := by
    simp
  have hupper := Nat.succ_ne_zero (gridBelow m e count)
  split at h
  · next hboth =>
    rw [Bool.and_eq_true] at hboth
    split at h <;> cases h
    · exact ⟨(hlower hboth.1).1, .inl rfl, (hlower hboth.1).2⟩
    · exact ⟨hupper, .inr rfl, hboth.2⟩
  · split at h
    · next hhit =>
      cases h
      exact ⟨(hlower hhit).1, .inl rfl, (hlower hhit).2⟩
    · split at h
      · next hhit =>
        cases h
        exact ⟨hupper, .inr rfl, hhit⟩
      · cases h

/-- Nothing is found on the grid only if neither of the two decimals rounds to the double. -/
theorem nearestWith_eq_none (h : nearestWith m e count = none) :
    (gridBelow m e count ≠ 0 →
      ¬ Rounds m e (gridBelow m e count * 10 ^ (decimalPlace m e - count))) ∧
    ¬ Rounds m e ((gridBelow m e count + 1 : Nat) * 10 ^ (decimalPlace m e - count)) := by
  rw [← contains_iff, ← contains_iff]
  rw [nearestWith_eq] at h
  dsimp only at h
  split at h
  · split at h <;> cases h
  · split at h
    · cases h
    · next hlower =>
      split at h
      · cases h
      · next hupper =>
        rw [Bool.and_eq_true, bne_iff_ne, not_and] at hlower
        exact ⟨hlower, hupper⟩

/-! ### Seventeen digits suffice -/

/-- A decimal that is no further from a double than half a step of a grid of seventeen digits rounds
to it. -/
theorem rounds_of_close {s : Bool} (hn : Normal (.finite s m e)) (hm : m ≠ 0) {g x : ℚ}
    (hg : 10 ^ 16 * g ≤ magnitude m e) (hlow : magnitude m e - g / 2 ≤ x)
    (hhigh : x ≤ magnitude m e + g / 2) : Rounds m e x := by
  have hinside : (interval m e).low * 2 ^ (e - 2) < x ∧ x < (interval m e).high * 2 ^ (e - 2) := by
    have hunit : (0 : ℚ) < 2 ^ (e - 2) := zpow_pos (by norm_num) _
    rw [magnitude_eq_quarters] at hg hlow hhigh
    generalize (2 : ℚ) ^ (e - 2) = u at *
    push_cast at hg hlow hhigh
    have hbits : (m : ℚ) ≤ 2 ^ 53 := by exact_mod_cast hn.1.le
    have hwide : (m : ℚ) * u ≤ 2 ^ 53 * u := mul_le_mul_of_nonneg_right hbits hunit.le
    constructor
    · simp only [interval]
      split
      · next hgap =>
        -- a power of two has the smaller double half as far below it
        have hpower : (m : ℚ) = 2 ^ 52 := by
          simp only [Nat.pow_eq, Bool.and_eq_true, decide_eq_true_eq] at hgap
          exact_mod_cast hgap.1
        rw [Nat.cast_sub (by omega)]
        push_cast
        rw [hpower] at hg hlow ⊢
        linarith
      · rw [Nat.cast_sub (by omega)]
        push_cast
        linarith
    · simp only [interval]
      push_cast
      linarith
  unfold Rounds
  split
  · exact ⟨hinside.1.le, hinside.2.le⟩
  · exact hinside

/-- Seventeen digits are always enough. -/
theorem exists_nearestWith {s : Bool} (hn : Normal (.finite s m e)) (hm : m ≠ 0) :
    ∃ digits, nearestWith m e 17 = some digits := by
  by_contra hnone
  obtain ⟨hlower, hupper⟩ := nearestWith_eq_none (Option.eq_none_iff_forall_ne_some.mpr
    fun digits h => hnone ⟨digits, h⟩)
  obtain ⟨hbelow, habove⟩ := gridBelow_spec m e 17
  have hplace := (decimalPlace_spec hn hm).1
  have hsixteen : (10 : ℚ) ^ (decimalPlace m e - 1)
      = 10 ^ 16 * 10 ^ (decimalPlace m e - (17 : Nat)) := by
    rw [← zpow_natCast, ← zpow_add₀ (by norm_num)]
    congr 1
    push_cast
    ring
  rw [hsixteen] at hplace
  have hstep : (0 : ℚ) < 10 ^ (decimalPlace m e - (17 : Nat)) := zpow_pos (by norm_num) _
  generalize (10 : ℚ) ^ (decimalPlace m e - (17 : Nat)) = g at *
  -- one of the two decimals is no further off than half a step
  rcases le_total (magnitude m e - gridBelow m e 17 * g) (g / 2) with hnear | hfar
  · refine hlower ?_ (rounds_of_close hn hm hplace (by linarith) (by linarith))
    intro hzero
    rw [hzero, Nat.cast_zero] at hnear
    linarith
  · refine hupper (rounds_of_close hn hm hplace ?_ ?_)
    · linarith
    · push_cast
      linarith

/-! ### The search -/

/-- The search ends where something is found. -/
theorem shortestFrom_spec (fuel : Nat)
    (h : ∃ digits, nearestWith m e (count + fuel) = some digits) :
    ∃ digits count', shortestFrom m e count fuel = (digits, count') ∧ count ≤ count' ∧
      count' ≤ count + fuel ∧ nearestWith m e count' = some digits := by
  induction fuel generalizing count with
  | zero =>
    obtain ⟨digits, hdigits⟩ := h
    rw [Nat.add_zero] at hdigits
    exact ⟨digits, count, by rw [shortestFrom, hdigits, Option.getD_some], le_refl _, le_refl _,
      hdigits⟩
  | succ fuel ih =>
    rw [shortestFrom]
    cases hnearest : nearestWith m e count with
    | some digits => exact ⟨digits, count, rfl, le_refl _, by omega, hnearest⟩
    | none =>
      obtain ⟨digits, count', hsearch, hle, hle', hfound⟩ :=
        @ih (count + 1) (by rwa [Nat.add_right_comm])
      exact ⟨digits, count', hsearch, by omega, by omega, hfound⟩

/-- Zeros at the end are a power of ten as factor. -/
theorem dropZeros_spec (n fuel : Nat) : ∃ k, n = dropZeros n fuel * 10 ^ k := by
  induction fuel generalizing n with
  | zero => exact ⟨0, by rw [dropZeros, Nat.pow_zero, Nat.mul_one]⟩
  | succ fuel ih =>
    rw [dropZeros]
    split
    · next h =>
      obtain ⟨k, hk⟩ := ih (n / 10)
      simp only [Bool.and_eq_true, beq_iff_eq] at h
      exact ⟨k + 1, by rw [Nat.pow_succ, ← Nat.mul_assoc, ← hk]; omega⟩
    · exact ⟨0, by rw [Nat.pow_zero, Nat.mul_one]⟩

/-- What the grid has next to a double has as many digits as asked for, or is the next power of
ten. -/
theorem digits_bounds {s : Bool} (hn : Normal (.finite s m e)) (hm : m ≠ 0) (hcount : 0 < count)
    {digits : Nat} (h : digits = gridBelow m e count ∨ digits = gridBelow m e count + 1) :
    10 ^ (count - 1) ≤ digits ∧ digits ≤ 10 ^ count := by
  obtain ⟨hbelow, habove⟩ := gridBelow_spec m e count
  obtain ⟨hlow, hhigh⟩ := decimalPlace_spec hn hm
  have hstep : (0 : ℚ) < 10 ^ (decimalPlace m e - count) := zpow_pos (by norm_num) _
  have hfactor : ∀ k : Nat, (10 : ℚ) ^ (decimalPlace m e - count + k)
      = (10 ^ k : Nat) * 10 ^ (decimalPlace m e - count) := by
    intro k
    rw [zpow_add₀ (by norm_num), zpow_natCast, mul_comm]
    push_cast
    rfl
  have hlow' : 10 ^ (count - 1) < gridBelow m e count + 1 := by
    rw [show decimalPlace m e - 1 = decimalPlace m e - count + (count - 1 : Nat) by omega,
      hfactor] at hlow
    have hlt := lt_of_mul_lt_mul_right (hlow.trans_lt habove) hstep.le
    exact_mod_cast hlt
  have hhigh' : gridBelow m e count < 10 ^ count := by
    rw [show decimalPlace m e = decimalPlace m e - count + (count : Nat) by omega,
      hfactor] at hhigh
    have hlt := lt_of_mul_lt_mul_right (hbelow.trans_lt hhigh) hstep.le
    exact_mod_cast hlt
  omega

/-- A number with a digit at some place and none beyond it has as many digits, the next power of ten
one more. -/
theorem length_decimal_of_bounds {digits : Nat} (hcount : 0 < count)
    (hlow : 10 ^ (count - 1) ≤ digits) (hhigh : digits ≤ 10 ^ count) :
    (Text.decimal digits).length = if digits = 10 ^ count then count + 1 else count := by
  split
  · next h =>
    rw [h, ← Nat.one_mul (10 ^ count), Text.length_decimal_mul_pow (by decide), Nat.add_comm]
    rfl
  · next h =>
    have hle := (Text.length_decimal_le_iff hcount).mpr (Nat.lt_of_le_of_ne hhigh h)
    have hpos := List.length_pos_of_ne_nil (Text.decimal_ne_nil digits)
    rcases Nat.eq_zero_or_pos (count - 1) with hzero | hprev
    · omega
    · have hnot := mt (Text.length_decimal_le_iff (n := digits) hprev).mp (not_lt.mpr hlow)
      omega

/-- The shortest digits of a normal double, laid out at their place, round to it. -/
theorem shortest_spec {s : Bool} (hn : Normal (.finite s m e)) (hm : m ≠ 0) :
    ∃ digits place, shortest m e = (Text.decimal digits, place) ∧ digits ≠ 0 ∧
      Rounds m e (digits * 10 ^ (place - (Text.decimal digits).length)) := by
  obtain ⟨digits, count, hsearch, hcount, -, hfound⟩ :=
    shortestFrom_spec 16 (exists_nearestWith hn hm)
  obtain ⟨hne, hgrid, hrounds⟩ := nearestWith_spec hfound
  obtain ⟨hlow, hhigh⟩ := digits_bounds hn hm hcount hgrid
  obtain ⟨k, hk⟩ := dropZeros_spec digits 18
  have hshort : dropZeros digits 18 ≠ 0 := by
    intro hzero
    rw [hzero, Nat.zero_mul] at hk
    exact hne hk
  refine ⟨dropZeros digits 18, if digits = Nat.pow 10 count then decimalPlace m e + 1
    else decimalPlace m e, by rw [shortest, hsearch], hshort, ?_⟩
  have hlength := length_decimal_of_bounds hcount hlow hhigh
  rw [hk, Text.length_decimal_mul_pow (Nat.pos_of_ne_zero hshort), ← hk] at hlength
  -- the zeros that are left out are made up for by the place of the last digit
  have hplace : (if digits = Nat.pow 10 count then decimalPlace m e + 1 else decimalPlace m e)
      - ((Text.decimal (dropZeros digits 18)).length : Int) = decimalPlace m e - count + k := by
    rw [Nat.pow_eq]
    split at hlength <;> split <;> omega
  have hvalue : (dropZeros digits 18 : ℚ) * 10 ^ (decimalPlace m e - count + k)
      = digits * 10 ^ (decimalPlace m e - count) := by
    rw [zpow_add₀ (by norm_num), zpow_natCast, mul_comm (10 ^ _), ← mul_assoc]
    congr 1
    exact_mod_cast hk.symm
  rw [hplace, hvalue]
  exact hrounds

end

end AdmissionLedger.Double
