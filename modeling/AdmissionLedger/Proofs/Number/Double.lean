import AdmissionLedger.Number.Shortest
import Mathlib.Algebra.Order.Field.Power
import Mathlib.Data.Rat.Cast.Order
import Mathlib.Tactic.Linarith
import Mathlib.Tactic.Positivity
import Mathlib.Tactic.Ring

/-!
# Doubles and their rounding intervals

A double that comes of rounding is in a normal form: its mantissa has 53 bits unless its
exponent is the least.  The numbers that round to it form an interval that reaches
halfway to both neighbours.  The intervals of two doubles have at most an end in common,
and then it belongs to one of them only.

## Main definitions

* `Double.Normal` — the form that rounding gives a double.
* `Double.magnitude` — the exact value of a double without its sign.
* `Double.Rounds` — a number lies in the rounding interval of a double.

## Main results

* `shiftRatio_div` — a shifted quotient is the quotient times a power of two.
* `Double.eq_of_rounds` — a number rounds to one double only.
-/

namespace AdmissionLedger

/-! ### Shifted quotients -/

theorem shiftRatio_snd_pos {num den : Nat} (hden : 0 < den) (e : Int) :
    0 < (shiftRatio num den e).2 := by
  unfold shiftRatio
  split
  · exact hden
  · exact Nat.mul_pos hden (Nat.pow_pos (by decide))

/-- A number times an integer power, by the sign of the exponent. -/
theorem zpow_eq_of_nonneg {e : Int} (h : 0 ≤ e) (b : ℚ) : b ^ e = b ^ e.toNat := by
  rw [← zpow_natCast, Int.toNat_of_nonneg h]

theorem zpow_eq_of_neg {e : Int} (h : ¬ 0 ≤ e) (b : ℚ) : b ^ e = (b ^ (-e).toNat)⁻¹ := by
  rw [← zpow_natCast, Int.toNat_of_nonneg (by omega), zpow_neg, inv_inv]

/-- A shifted quotient is the quotient times a power of two. -/
theorem shiftRatio_div (num den : Nat) (e : Int) :
    ((shiftRatio num den e).1 : ℚ) / (shiftRatio num den e).2 = num / den * 2 ^ e := by
  unfold shiftRatio
  split
  · next h =>
    simp only [Nat.pow_eq, Nat.cast_mul, Nat.cast_pow, Nat.cast_ofNat]
    rw [zpow_eq_of_nonneg h]
    ring
  · next h =>
    simp only [Nat.pow_eq, Nat.cast_mul, Nat.cast_pow, Nat.cast_ofNat]
    rw [zpow_eq_of_neg h, div_mul_eq_div_div]
    ring

namespace Double

/-! ### Normal form -/

/-- The form that rounding gives a double: a mantissa below 2⁵³, an exponent in its range, and a
mantissa of at least 2⁵² unless the exponent is the least. -/
def Normal : Double → Prop
  | .finite _ m e =>
    m < 2 ^ 53 ∧ minExponent ≤ e ∧ e ≤ maxExponent ∧ (2 ^ 52 ≤ m ∨ e = minExponent)
  | _ => True

/-- The exact value of a double without its sign. -/
def magnitude (m : Nat) (e : Int) : ℚ := m * 2 ^ e

/-! ### Rounding intervals -/

/-- A number lies in the rounding interval of a double. -/
def Rounds (m : Nat) (e : Int) (x : ℚ) : Prop :=
  if (interval m e).closed then
    (interval m e).low * 2 ^ (e - 2) ≤ x ∧ x ≤ (interval m e).high * 2 ^ (e - 2)
  else (interval m e).low * 2 ^ (e - 2) < x ∧ x < (interval m e).high * 2 ^ (e - 2)

theorem Rounds.le {m : Nat} {e : Int} {x : ℚ} (h : Rounds m e x) :
    (interval m e).low * 2 ^ (e - 2) ≤ x ∧ x ≤ (interval m e).high * 2 ^ (e - 2) := by
  unfold Rounds at h
  split at h
  · exact h
  · exact ⟨h.1.le, h.2.le⟩

/-- Only an interval with an even mantissa holds its ends. -/
theorem Rounds.lt_of_odd {m : Nat} {e : Int} {x : ℚ} (h : Rounds m e x) (hodd : m % 2 = 1) :
    (interval m e).low * 2 ^ (e - 2) < x ∧ x < (interval m e).high * 2 ^ (e - 2) := by
  have hopen : (interval m e).closed = false := by simp [interval, hodd]
  unfold Rounds at h
  rwa [hopen, if_neg (by decide)] at h

/-- The interval of a smaller double ends where that of a greater one begins, if not before; and if
they meet then one of them holds no ends. -/
theorem interval_high_le {m m' : Nat} {e : Int} {k : Nat} (hm : m < 2 ^ 53)
    (hm' : 2 ^ 52 ≤ m' ∨ e + k = minExponent) (he : minExponent ≤ e) (h : 0 < k ∨ m < m') :
    (interval m e).high < (interval m' (e + k)).low * 2 ^ k ∨
      (interval m e).high = (interval m' (e + k)).low * 2 ^ k ∧ (m % 2 = 1 ∨ m' % 2 = 1) := by
  rcases Nat.eq_zero_or_pos k with rfl | hk
  · -- two mantissas of one exponent
    have hlt : m < m' := by omega
    simp only [interval, Nat.pow_zero, Nat.mul_one]
    split <;> omega
  · -- the greater exponent is not the least, so that its mantissa has all its bits
    have hexp : minExponent < e + k := by omega
    have hbits : 2 ^ 52 ≤ m' := by omega
    have hlow : 2 ^ 54 - 1 ≤ (interval m' (e + k)).low := by
      simp only [interval]
      split
      · next h => omega
      · next h =>
        have hne : m' ≠ Nat.pow 2 52 := by
          intro heq
          exact h (by simp [heq, hexp])
        have : Nat.pow 2 52 = 2 ^ 52 := rfl
        omega
    have htwo : 2 ≤ 2 ^ k := Nat.le_self_pow (by omega) 2
    have hmul : (2 ^ 54 - 1) * 2 ≤ (interval m' (e + k)).low * 2 ^ k := Nat.mul_le_mul hlow htwo
    simp only [interval] at hmul ⊢
    omega

/-- A number that rounds to a double rounds to no greater one. -/
theorem not_rounds_of_rounds {m m' : Nat} {e : Int} {k : Nat} {x : ℚ} (hm : m < 2 ^ 53)
    (hm' : 2 ^ 52 ≤ m' ∨ e + k = minExponent) (he : minExponent ≤ e) (hlt : 0 < k ∨ m < m')
    (h : Rounds m e x) : ¬ Rounds m' (e + k) x := by
  intro h'
  have hunit : (0 : ℚ) < 2 ^ (e - 2) := zpow_pos (by norm_num) _
  have hshift : (2 : ℚ) ^ (e + k - 2) = 2 ^ (e - 2) * 2 ^ k := by
    rw [← zpow_natCast, ← zpow_add₀ (by norm_num)]
    congr 1
    ring
  have hscale : ((interval m' (e + k)).low : ℚ) * 2 ^ (e + k - 2)
      = ((interval m' (e + k)).low * 2 ^ k : Nat) * 2 ^ (e - 2) := by
    rw [hshift]
    push_cast
    ring
  rcases interval_high_le hm hm' he hlt with hbefore | ⟨hmeet, hodd⟩
  · have hcast : ((interval m e).high : ℚ) < ((interval m' (e + k)).low * 2 ^ k : Nat) :=
      Nat.cast_lt.mpr hbefore
    have hends := mul_lt_mul_of_pos_right hcast hunit
    have hx := h.le.2
    have hx' := h'.le.1
    rw [hscale] at hx'
    linarith
  · -- the end that they share belongs to one of them at most
    rw [← hmeet] at hscale
    rcases hodd with hodd | hodd
    · have hx := (h.lt_of_odd hodd).2
      have hx' := h'.le.1
      rw [hscale] at hx'
      linarith
    · have hx := h.le.2
      have hx' := (h'.lt_of_odd hodd).1
      rw [hscale] at hx'
      linarith

/-- A number rounds to one double only. -/
theorem eq_of_rounds {s s' : Bool} {m m' : Nat} {e e' : Int} {x : ℚ}
    (hn : Normal (.finite s m e)) (hn' : Normal (.finite s' m' e')) (h : Rounds m e x)
    (h' : Rounds m' e' x) : m = m' ∧ e = e' := by
  obtain ⟨hm, he, -, hbits⟩ := hn
  obtain ⟨hm', he', -, hbits'⟩ := hn'
  rcases lt_trichotomy e e' with hlt | rfl | hlt
  · obtain ⟨k, rfl⟩ : ∃ k : Nat, e' = e + k := ⟨(e' - e).toNat, by omega⟩
    exact absurd h' (not_rounds_of_rounds hm hbits' he (.inl (by omega)) h)
  · rcases lt_trichotomy m m' with hlt | rfl | hlt
    · have hnot := not_rounds_of_rounds (k := 0) hm (by simpa using hbits') he (.inr hlt) h
      exact absurd (by simpa using h') hnot
    · exact ⟨rfl, rfl⟩
    · have hnot := not_rounds_of_rounds (k := 0) hm' (by simpa using hbits) he' (.inr hlt) h'
      exact absurd (by simpa using h) hnot
  · obtain ⟨k, rfl⟩ : ∃ k : Nat, e = e' + k := ⟨(e - e').toNat, by omega⟩
    exact absurd h (not_rounds_of_rounds hm' hbits he' (.inl (by omega)) h')

end Double

end AdmissionLedger
