import AdmissionLedger.Event.Timestamp
import AdmissionLedger.Proofs.Number.Nearest

/-!
# The order and the precision of timestamps

A clock reading is rounded twice on its way to a timestamp: to a double of seconds, and
again to microseconds.  Both roundings keep the order, also where the second one carries
into the seconds, and negative readings are rounded like positive ones.  Up to 2³³ seconds
the first rounding moves a reading by less than half a microsecond, so that the two
together stay below one.

## Main definitions

* `Timestamp.totalMicros` — the microseconds of a nonnegative number of seconds.
* `Timestamp.readingMicros` — the microseconds of a clock reading of a given size.

## Main results

* `Timestamp.totalMicros_mono`, `Timestamp.abs_totalMicros_sub_lt` — the second rounding.
* `Timestamp.microseconds_eq` — both roundings of a clock reading.
* `Timestamp.ordered_and_precise` — later readings have no earlier timestamps, and a
  timestamp is less than a microsecond from its reading.
-/

namespace AdmissionLedger

namespace Timestamp

open Double

/-! ### Seconds to microseconds -/

/-- The microseconds of a nonnegative number of seconds.  The fraction is scaled as a double before
it is rounded, and may carry. -/
def totalMicros (x : ℚ) : ℕ :=
  ⌊x⌋₊ * 1000000 + roundEven (nearest (1000000 * nearest (Int.fract x)))

/-- The fraction of a number of seconds is rounded to at most a second. -/
theorem nearest_fract_le_one (x : ℚ) : nearest (Int.fract x) ≤ 1 := by
  calc nearest (Int.fract x) ≤ nearest (1 : ℕ) :=
        nearest_mono (Int.fract_nonneg x) (by exact_mod_cast (Int.fract_lt_one x).le)
    _ = 1 := by rw [nearest_natCast (by decide), Nat.cast_one]

/-- A double of seconds is split by its value. -/
theorem splitSeconds_eq (negative : Bool) (m : ℕ) (e : ℤ) :
    splitSeconds negative m e =
      if negative then -(totalMicros (magnitude m e) : ℤ) else totalMicros (magnitude m e) := by
  have hden : 0 < (shiftRatio m 1 e).2 := shiftRatio_snd_pos one_pos e
  have hfloor : (shiftRatio m 1 e).1 / (shiftRatio m 1 e).2 = ⌊magnitude m e⌋₊ := by
    rw [← shiftRatio_one_div, Nat.floor_div_eq_div]
  have hfract : (((shiftRatio m 1 e).1 % (shiftRatio m 1 e).2 : ℕ) : ℚ) / (shiftRatio m 1 e).2 =
      Int.fract (magnitude m e) := by
    rw [← shiftRatio_one_div, Int.fract_div_natCast_eq_div_natCast_mod]
  have hone : (((shiftRatio m 1 e).1 % (shiftRatio m 1 e).2 : ℕ) : ℚ) / (shiftRatio m 1 e).2 <
      2 ^ (0 : ℤ) := by
    rw [hfract, zpow_zero]
    exact Int.fract_lt_one _
  obtain ⟨m₁, e₁, hratio⟩ := exists_ofRatio_eq_finite negative hden hone (by decide)
  have hvalue := (eq_nearest_of_ofRatio hden hratio).2
  rw [hfract] at hvalue
  have hbelow : ((1000000 : ℕ) : ℚ) * magnitude m₁ e₁ < 2 ^ (20 : ℤ) := by
    have hone := nearest_fract_le_one (magnitude m e)
    rw [hvalue]
    norm_num
    linarith
  obtain ⟨m₂, e₂, hscale, hscaled⟩ := exists_scale_eq_finite negative hbelow (by decide)
  simp only [splitSeconds, hratio, hscale, hfloor,
    roundHalfEven_eq_roundEven _ (shiftRatio_snd_pos one_pos e₂), shiftRatio_one_div, hscaled,
    hvalue, totalMicros, Nat.cast_ofNat, Nat.cast_add, Nat.cast_mul]

/-- The fraction is rounded to at most a second. -/
theorem roundEven_fraction_le (x : ℚ) :
    roundEven (nearest (1000000 * nearest (Int.fract x))) ≤ 1000000 := by
  have hle : nearest (1000000 * nearest (Int.fract x)) ≤ (1000000 : ℕ) := by
    rw [← nearest_natCast (n := 1000000) (by decide)]
    refine nearest_mono (mul_nonneg (by norm_num) (nearest_nonneg _)) ?_
    have := nearest_fract_le_one x
    push_cast
    linarith
  exact (roundEven_mono (nearest_nonneg _) hle).trans (roundEven_natCast _).le

/-- More seconds have no fewer microseconds. -/
theorem totalMicros_mono {x y : ℚ} (hx : 0 ≤ x) (h : x ≤ y) : totalMicros x ≤ totalMicros y := by
  rcases (Nat.floor_mono h).lt_or_eq with hlt | heq
  · -- the carry of the smaller one reaches at most the next second
    have hcarry := roundEven_fraction_le x
    unfold totalMicros
    omega
  · have hfract : Int.fract x ≤ Int.fract y := fract_le_fract hx h heq
    unfold totalMicros
    rw [heq]
    refine Nat.add_le_add_left (roundEven_mono (nearest_nonneg _) (nearest_mono ?_ ?_)) _
    · exact mul_nonneg (by norm_num) (nearest_nonneg _)
    · exact mul_le_mul_of_nonneg_left (nearest_mono (Int.fract_nonneg x) hfract) (by norm_num)

/-- The microseconds of a number of seconds are off by little more than a half. -/
theorem abs_totalMicros_sub_lt {x : ℚ} (hx : 0 ≤ x) :
    |(totalMicros x : ℚ) - 1000000 * x| < 51 / 100 := by
  have hparts := floor_add_fract hx
  have hfract : |nearest (Int.fract x) - Int.fract x| ≤ 1 / 2 ^ 54 :=
    (abs_nearest_sub_le (k := 0) (Int.fract_nonneg x) (by simpa using Int.fract_lt_one x)
      (by decide)).trans_eq (by norm_num)
  have hone := nearest_fract_le_one x
  have hscaled :
      |nearest (1000000 * nearest (Int.fract x)) - 1000000 * nearest (Int.fract x)| ≤ 1 / 2 ^ 34 :=
    (abs_nearest_sub_le (k := 20) (mul_nonneg (by norm_num) (nearest_nonneg _))
      (by norm_num; linarith) (by decide)).trans_eq (by norm_num)
  have hround := abs_roundEven_sub_le (nearest_nonneg (1000000 * nearest (Int.fract x)))
  rw [abs_le] at hfract hscaled hround
  rw [abs_lt, totalMicros]
  push_cast
  constructor <;> linarith

/-! ### Clock readings -/

/-- The microseconds of a clock reading that is so many nanoseconds from the epoch. -/
def readingMicros (n : ℕ) : ℕ :=
  totalMicros (nearest (n / 1000000000))

theorem readingMicros_mono {a b : ℕ} (h : a ≤ b) : readingMicros a ≤ readingMicros b := by
  have hseconds : (a : ℚ) / 1000000000 ≤ b / 1000000000 :=
    div_le_div_of_nonneg_right (Nat.cast_le.mpr h) (by norm_num)
  exact totalMicros_mono (nearest_nonneg _)
    (nearest_mono (div_nonneg (Nat.cast_nonneg a) (by norm_num)) hseconds)

/-- Up to 2³³ seconds the microseconds of a reading are off by less than one. -/
theorem abs_readingMicros_sub_lt {n : ℕ} (hn : n < 2 ^ 33 * 1000000000) :
    |(readingMicros n : ℚ) - n / 1000| < 1 := by
  have hseconds : (n : ℚ) / 1000000000 < 2 ^ (33 : ℤ) := by
    rw [div_lt_iff₀ (by norm_num)]
    exact_mod_cast hn
  have hdouble : |nearest ((n : ℚ) / 1000000000) - n / 1000000000| ≤ 1 / 2 ^ 21 :=
    (abs_nearest_sub_le (div_nonneg (Nat.cast_nonneg n) (by norm_num)) hseconds
      (by decide)).trans_eq (by norm_num)
  have hmicros := abs_totalMicros_sub_lt (nearest_nonneg ((n : ℚ) / 1000000000))
  rw [abs_le] at hdouble
  rw [abs_lt] at hmicros ⊢
  unfold readingMicros
  constructor <;> linarith

theorem readingMicros_le {n : ℕ} (hn : n < 2 ^ 33 * 1000000000) :
    readingMicros n ≤ 2 ^ 33 * 1000000 := by
  have hclose := (abs_lt.mp (abs_readingMicros_sub_lt hn)).2
  have hreading : (n : ℚ) + 1 ≤ 2 ^ 33 * 1000000000 := by exact_mod_cast hn
  have hlt : (readingMicros n : ℚ) < (2 ^ 33 * 1000000 + 1 : ℕ) := by
    push_cast
    linarith
  exact Nat.le_of_lt_succ (Nat.cast_lt.mp hlt)

/-- A clock reading is split by its size, and takes its sign again. -/
theorem microseconds_eq {ns : ℤ} {t : Timestamp} (h : ofNanoseconds ns = .ok t) :
    t.microseconds =
      if ns < 0 then -(readingMicros ns.natAbs : ℤ) else readingMicros ns.natAbs := by
  unfold ofNanoseconds at h
  split at h
  · next s m e hratio =>
    obtain ⟨rfl, hvalue⟩ := eq_nearest_of_ofRatio (by decide) hratio
    simp only at h
    split_ifs at h
    cases h
    simp [splitSeconds_eq, hvalue, readingMicros]
  · cases h

/-- A later reading has no earlier timestamp. -/
theorem microseconds_le_of_le {a b : ℤ} {s t : Timestamp} (h : a ≤ b)
    (ha : ofNanoseconds a = .ok s) (hb : ofNanoseconds b = .ok t) :
    s.microseconds ≤ t.microseconds := by
  rw [microseconds_eq ha, microseconds_eq hb]
  split_ifs with hnega hnegb
  · have := readingMicros_mono (by omega : b.natAbs ≤ a.natAbs)
    omega
  · omega
  · omega
  · have := readingMicros_mono (by omega : a.natAbs ≤ b.natAbs)
    omega

/-- Up to 2³³ seconds the year has four digits. -/
theorem yearOfSecond_bounds {second : ℤ} (h : 0 ≤ second) (hlt : second ≤ 2 ^ 33) :
    1 ≤ yearOfSecond second ∧ yearOfSecond second ≤ 9999 := by
  have hdays : second.fdiv 86400 = second / 86400 := Int.fdiv_eq_ediv_of_nonneg _ (by decide)
  have hera : (second / 86400 + 719468).fdiv 146097 = (second / 86400 + 719468) / 146097 :=
    Int.fdiv_eq_ediv_of_nonneg _ (by decide)
  simp only [yearOfSecond, civilDate, hdays, hera]
  split <;> omega

theorem fitsWord_iff {bits : ℕ} {n : ℤ} :
    fitsWord bits n = true ↔ n < 2 ^ (bits - 1) ∧ -2 ^ (bits - 1) ≤ n := by
  simp [fitsWord]

/-- Up to 2³³ seconds a reading has a timestamp. -/
theorem exists_ofNanoseconds_eq_ok {ns : ℤ} (h : 0 ≤ ns) (hlt : ns < 2 ^ 33 * 1000000000) :
    ∃ t, ofNanoseconds ns = .ok t := by
  have hseconds : (ns.natAbs : ℚ) / (1000000000 : ℕ) < 2 ^ (33 : ℤ) := by
    rw [div_lt_iff₀ (by norm_num)]
    exact_mod_cast (by omega : ns.natAbs < 2 ^ 33 * 1000000000)
  obtain ⟨m, e, hratio⟩ := exists_ofRatio_eq_finite (ns < 0) (by decide) hseconds (by decide)
  have hsplit : splitSeconds (ns < 0) m e = readingMicros ns.natAbs := by
    rw [splitSeconds_eq, (eq_nearest_of_ofRatio (by decide) hratio).2, if_neg (by simpa using h)]
    rfl
  have hmicros : readingMicros ns.natAbs ≤ 2 ^ 33 * 1000000 := readingMicros_le (by omega)
  obtain ⟨second, hsecond⟩ : ∃ second, (readingMicros ns.natAbs : ℤ).fdiv 1000000 = second :=
    ⟨_, rfl⟩
  have hdiv := Int.fdiv_eq_ediv_of_nonneg (readingMicros ns.natAbs) (by decide : (0 : ℤ) ≤ 1000000)
  have hnonneg : 0 ≤ second := by omega
  obtain ⟨hlow, hhigh⟩ := yearOfSecond_bounds hnonneg (by omega)
  have h64 : fitsWord 64 second = true := fitsWord_iff.mpr ⟨by omega, by omega⟩
  have h32 : fitsWord 32 (yearOfSecond second - 1900) = true :=
    fitsWord_iff.mpr ⟨by omega, by omega⟩
  refine ⟨⟨readingMicros ns.natAbs⟩, ?_⟩
  simp only [ofNanoseconds, ofIntRatio, hratio, hsplit, hsecond, h64, h32, Bool.not_true,
    Bool.false_eq_true, if_false, Bool.or_eq_true, decide_eq_true_eq]
  exact if_neg (by omega)

/-- A later reading has no earlier timestamp; and up to 2³³ seconds after the epoch a reading has a
timestamp, which is less than a microsecond from it. -/
theorem ordered_and_precise :
    (∀ (a b : ℤ) (s t : Timestamp), a ≤ b → ofNanoseconds a = .ok s → ofNanoseconds b = .ok t →
      s.microseconds ≤ t.microseconds) ∧
    ∀ ns : ℤ, 0 ≤ ns → ns < 2 ^ 33 * 10 ^ 9 → ∃ t, ofNanoseconds ns = .ok t ∧
      |(t.microseconds : ℚ) / 10 ^ 6 - ns / 10 ^ 9| < 1 / 10 ^ 6 := by
  refine ⟨fun a b s t h ha hb => microseconds_le_of_le h ha hb, fun ns h hlt => ?_⟩
  obtain ⟨t, ht⟩ := exists_ofNanoseconds_eq_ok h (by simpa using hlt)
  have hclose := abs_readingMicros_sub_lt (n := ns.natAbs) (by omega)
  refine ⟨t, ht, ?_⟩
  rw [microseconds_eq ht, if_neg (not_lt.mpr h)]
  have hcast : (ns.natAbs : ℚ) = ns := by
    rw [← Int.cast_natCast, Int.natAbs_of_nonneg h]
  rw [hcast, abs_lt] at hclose
  rw [abs_lt]
  push_cast
  constructor <;> linarith

/-- A reading before the epoch and a later one. -/
theorem ordered_and_precise_readings :
    (-1500 : ℤ) ≤ 1771416000123456789 ∧ ofNanoseconds (-1500) = .ok ⟨-2⟩ ∧
      ofNanoseconds 1771416000123456789 = .ok ⟨1771416000123457⟩ ∧
      (⟨-2⟩ : Timestamp).microseconds ≤ (⟨1771416000123457⟩ : Timestamp).microseconds ∧
      (1771416000123456789 : ℤ) < 2 ^ 33 * 10 ^ 9 ∧
      ∃ t, ofNanoseconds 1771416000123456789 = .ok t ∧
        |(t.microseconds : ℚ) / 10 ^ 6 - (1771416000123456789 : ℤ) / 10 ^ 9| < 1 / 10 ^ 6 :=
  ⟨by decide, rfl, rfl, ordered_and_precise.1 (-1500) 1771416000123456789 _ _ (by decide) rfl rfl,
    by norm_num, ordered_and_precise.2 _ (by decide) (by norm_num)⟩

end Timestamp

end AdmissionLedger
