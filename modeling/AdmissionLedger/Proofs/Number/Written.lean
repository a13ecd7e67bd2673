import AdmissionLedger.Proofs.Number.Shortest

/-!
# Written doubles

The written form of a finite double is a sign and a decimal, in one of two layouts.
Whatever the layout, the decimal has the value of the shortest digits at their place, and
so it rounds to the double.  No two doubles are written alike, then.

## Main definitions

* `Text.ratio` — the value of a decimal with or without an exponent.
* `Double.unsignedText` — the written form without its sign.

## Main results

* `Double.ratio_positional`, `Double.ratio_scientific` — the value of digits in either layout.
* `Double.rounds_ratio` — what is written for a double rounds to it.
* `Double.toText_injective` — no two finite doubles are written alike.
-/

namespace AdmissionLedger

open Json

/-! ### Decimals -/

/-- The value of a decimal without a sign. -/
def Text.ratio (t : Text) : ℚ :=
  let whole := t.takeWhile CodePoint.isDigit
  let rest := t.dropWhile CodePoint.isDigit
  let places := (fraction? rest).getD []
  let rest := if places.isEmpty then rest else rest.drop (places.length + 1)
  let power := ((exponent? rest).map Prod.fst).getD 0
  digitsValue (whole ++ places) * 10 ^ (power - places.length)

/-- A text without digits at its start. -/
def Text.StopsDigits (t : Text) : Prop := ∀ c ∈ t.head?, c.isDigit = false

theorem Text.takeWhile_append_of_stops {digits rest : Text}
    (hdigits : ∀ c ∈ digits, c.isDigit = true) (hrest : rest.StopsDigits) :
    (digits ++ rest).takeWhile CodePoint.isDigit = digits := by
  rw [List.takeWhile_append_of_pos hdigits]
  cases rest with
  | nil => simp
  | cons c rest => simp [hrest c rfl]

theorem Text.dropWhile_append_of_stops {digits rest : Text}
    (hdigits : ∀ c ∈ digits, c.isDigit = true) (hrest : rest.StopsDigits) :
    (digits ++ rest).dropWhile CodePoint.isDigit = rest := by
  rw [List.dropWhile_append_of_pos hdigits]
  cases rest with
  | nil => simp
  | cons c rest => simp [hrest c rfl]

/-- A fraction as it is written, nothing if it has no digits. -/
def Text.fractionText (places : Text) : Text :=
  if places.isEmpty then [] else ↑ '.' :: places

/-- The value of a decimal, by its parts. -/
theorem Text.ratio_parts {whole places rest : Text} (hwhole : ∀ c ∈ whole, c.isDigit = true)
    (hplaces : ∀ c ∈ places, c.isDigit = true) (hrest : rest.StopsDigits)
    (hpoint : ∀ c ∈ rest.head?, c ≠ ↑ '.') :
    Text.ratio (whole ++ (fractionText places ++ rest)) =
      digitsValue (whole ++ places) *
        10 ^ (((exponent? rest).map Prod.fst).getD 0 - (places.length : Int)) := by
  have hstops : Text.StopsDigits (fractionText places ++ rest) := by
    unfold fractionText
    split
    · exact hrest
    · rintro c hc
      cases hc
      decide
  have hfraction : (fraction? (fractionText places ++ rest)).getD [] = places := by
    unfold fractionText
    split
    · next h =>
      rw [List.isEmpty_iff.mp h, List.nil_append]
      cases rest with
      | nil => rfl
      | cons c rest => simp [fraction?, hpoint c rfl]
    · next h =>
      rw [List.cons_append, fraction?, takeWhile_append_of_stops hplaces hrest]
      simp [h]
  have hdrop : (if places.isEmpty then fractionText places ++ rest
      else (fractionText places ++ rest).drop (places.length + 1)) = rest := by
    unfold fractionText
    split
    · rfl
    · rw [List.cons_append, List.drop_succ_cons, List.drop_left]
  simp only [Text.ratio, takeWhile_append_of_stops hwhole hstops,
    dropWhile_append_of_stops hwhole hstops, hfraction, hdrop]

/-- The value of a decimal without an exponent. -/
theorem Text.ratio_point {whole places : Text} (hwhole : ∀ c ∈ whole, c.isDigit = true)
    (hplaces : ∀ c ∈ places, c.isDigit = true) (hne : places ≠ []) :
    Text.ratio (whole ++ ↑ '.' :: places) =
      digitsValue (whole ++ places) * 10 ^ (-(places.length : Int)) := by
  have hstops : Text.StopsDigits [] := by
    intro c hc
    cases hc
  have hparts := Text.ratio_parts hwhole hplaces hstops (by intro c hc; cases hc)
  have hfraction : fractionText places = ↑ '.' :: places := by
    rw [fractionText, if_neg (by simpa using hne)]
  rw [List.append_nil, hfraction] at hparts
  rw [hparts]
  simp [exponent?]

/-- The exponent that is written behind its mark and sign. -/
theorem Json.exponent?_cons {digits : Text} (hdigits : ∀ c ∈ digits, c.isDigit = true)
    (hne : digits ≠ []) (negative : Bool) :
    (exponent? (↑ 'e' :: (if negative then ↑ '-' else ↑ '+') :: digits)).map Prod.fst =
      some (if negative then -(digitsValue digits : Int) else digitsValue digits) := by
  have htake : digits.takeWhile CodePoint.isDigit = digits := by
    simpa using @Text.takeWhile_append_of_stops digits [] hdigits (by intro c hc; cases hc)
  have hempty : digits.isEmpty = false := List.isEmpty_eq_false_iff.mpr hne
  have hsigns : CodePoint.ofChar '-' ≠ CodePoint.ofChar '+' := by decide
  cases negative <;>
    simp [exponent?, Text.startsWith, Text.ofString, htake, hempty, hsigns]

namespace Double

/-! ### The two layouts -/

/-- A run of zeros. -/
def zeros (n : Nat) : Text := List.replicate n (CodePoint.ofChar '0')

theorem isDigit_of_mem_zeros {n : Nat} : ∀ c ∈ zeros n, c.isDigit = true := by
  intro c hc
  rw [List.eq_of_mem_replicate hc]
  decide

theorem length_zeros (n : Nat) : (zeros n).length = n :=
  List.length_replicate

theorem digitsValue_zeros_append (n : Nat) (t : Text) :
    digitsValue (zeros n ++ t) = digitsValue t :=
  Text.digitsValue_replicate_append n t

theorem digitsValue_append_zeros (t : Text) (n : Nat) :
    digitsValue (t ++ zeros n) = digitsValue t * 10 ^ n := by
  rw [Text.digitsValue_append, length_zeros, zeros, Text.digitsValue_replicate_zero, Nat.add_zero]

theorem positional_of_nonpos {place : Int} (h : place ≤ 0) (digits : Text) :
    positional digits place = zeros 1 ++ ↑ '.' :: (zeros (-place).toNat ++ digits) := by
  simp only [positional, if_pos h]
  rfl

theorem positional_of_length_le {place : Int} (h : 0 < place) {digits : Text}
    (hlength : digits.length ≤ place.toNat) :
    positional digits place =
      (digits ++ zeros (place.toNat - digits.length)) ++ ↑ '.' :: zeros 1 := by
  simp only [positional, if_neg (not_le.mpr h), if_pos hlength]
  rfl

theorem positional_of_lt_length {place : Int} (h : 0 < place) {digits : Text}
    (hlength : place.toNat < digits.length) :
    positional digits place = digits.take place.toNat ++ ↑ '.' :: digits.drop place.toNat := by
  simp only [positional, if_neg (not_le.mpr h), if_neg (not_le.mpr hlength)]
  rw [List.append_assoc]
  rfl

section

variable {digits : Text}

/-- Digits that are laid out around a point have their value at that place. -/
theorem ratio_positional (hdigits : ∀ c ∈ digits, c.isDigit = true) (hne : digits ≠ [])
    (place : Int) : Text.ratio (positional digits place) =
      digitsValue digits * 10 ^ (place - digits.length) := by
  rcases le_or_gt place 0 with hplace | hplace
  · -- zeros stand between the point and the digits
    have hall : ∀ c ∈ zeros (-place).toNat ++ digits, c.isDigit = true :=
      List.forall_mem_append.mpr ⟨isDigit_of_mem_zeros, hdigits⟩
    rw [positional_of_nonpos hplace, Text.ratio_point isDigit_of_mem_zeros hall (by simp [hne]),
      digitsValue_zeros_append, digitsValue_zeros_append, List.length_append, length_zeros]
    congr 2
    omega
  rcases le_or_gt digits.length place.toNat with hlength | hlength
  · -- zeros stand between the digits and the point
    have hall : ∀ c ∈ digits ++ zeros (place.toNat - digits.length), c.isDigit = true :=
      List.forall_mem_append.mpr ⟨hdigits, isDigit_of_mem_zeros⟩
    rw [positional_of_length_le hplace hlength,
      Text.ratio_point hall isDigit_of_mem_zeros (by simp [zeros]), digitsValue_append_zeros,
      digitsValue_append_zeros, length_zeros, Nat.mul_assoc, ← Nat.pow_add, Nat.cast_mul, mul_assoc]
    congr 1
    push_cast
    rw [← zpow_natCast, ← zpow_add₀ (by norm_num)]
    congr 1
    omega
  · -- the point stands between the digits
    rw [positional_of_lt_length hplace hlength,
      Text.ratio_point (fun c hc => hdigits c (List.mem_of_mem_take hc))
        (fun c hc => hdigits c (List.mem_of_mem_drop hc)) (by simp [hlength]),
      List.take_append_drop, List.length_drop]
    congr 2
    omega

/-- The parts of the layout with an exponent. -/
theorem scientific_eq (digits : Text) (place : Int) :
    scientific digits place = digits.take 1 ++ (Text.fractionText (digits.drop 1) ++
      ↑ 'e' :: (if decide (place - 1 < 0) then ↑ '-' else ↑ '+') ::
        Text.paddedDecimal layout.exponentDigits (place - 1).natAbs) := by
  simp only [scientific, Text.fractionText, decide_eq_true_eq, List.append_assoc]
  congr 2
  split <;> rfl

/-- Digits that are laid out with an exponent have the same value at that place. -/
theorem ratio_scientific (hdigits : ∀ c ∈ digits, c.isDigit = true) (hne : digits ≠ [])
    (place : Int) : Text.ratio (scientific digits place) =
      digitsValue digits * 10 ^ (place - digits.length) := by
  have hpadded : Text.paddedDecimal layout.exponentDigits (place - 1).natAbs ≠ [] :=
    List.append_ne_nil_of_right_ne_nil _ (Text.decimal_ne_nil _)
  have hexponent := exponent?_cons (fun c hc => Text.isDigit_of_mem_paddedDecimal hc) hpadded
    (decide (place - 1 < 0))
  rw [scientific_eq, Text.ratio_parts (fun c hc => hdigits c (List.mem_of_mem_take hc))
    (fun c hc => hdigits c (List.mem_of_mem_drop hc)) ?_ ?_, hexponent, List.take_append_drop,
    Text.digitsValue_paddedDecimal, Option.getD_some, List.length_drop]
  · have hpos := List.length_pos_of_ne_nil hne
    congr 2
    simp only [decide_eq_true_eq]
    split <;> omega
  · rintro c hc
    cases hc
    decide
  · rintro c hc
    cases hc
    decide

end

/-! ### The written form -/

/-- The written form of a finite double without its sign. -/
def unsignedText (m : Nat) (e : Int) : Text :=
  if m = 0 then "0.0"
  else
    let (digits, place) := shortest m e
    if layout.positionalAbove < place && place ≤ layout.positionalUpTo then positional digits place
    else scientific digits place

theorem toText_finite (s : Bool) (m : Nat) (e : Int) :
    toText (.finite s m e) = (if s then ↑ "-" else ↑ "") ++ unsignedText m e := by
  simp only [toText, unsignedText]
  split
  · rfl
  · split <;> rfl

/-- What is written for a double other than zero rounds to it. -/
theorem rounds_ratio {s : Bool} {m : Nat} {e : Int} (hn : Normal (.finite s m e)) (hm : m ≠ 0) :
    Rounds m e (unsignedText m e).ratio := by
  obtain ⟨digits, place, hshortest, -, hrounds⟩ := shortest_spec hn hm
  have hdigits : ∀ c ∈ Text.decimal digits, c.isDigit = true :=
    fun c hc => Text.isDigit_of_mem_decimal hc
  have hne := Text.decimal_ne_nil digits
  simp only [unsignedText, if_neg hm, hshortest]
  split
  · rwa [ratio_positional hdigits hne, Text.digitsValue_decimal]
  · rwa [ratio_scientific hdigits hne, Text.digitsValue_decimal]

/-- Only zero has a written form without value. -/
theorem ratio_unsignedText_eq_zero_iff {s : Bool} {m : Nat} {e : Int}
    (hn : Normal (.finite s m e)) : (unsignedText m e).ratio = 0 ↔ m = 0 := by
  constructor
  · intro h
    by_contra hm
    have hlow : 0 < (interval m e).low := by
      simp only [interval]
      split <;> omega
    have hpos : (0 : ℚ) < (interval m e).low * 2 ^ (e - 2) :=
      mul_pos (Nat.cast_pos.mpr hlow) (zpow_pos (by norm_num) _)
    exact absurd (hpos.trans_le (rounds_ratio hn hm).le.1) (by rw [h]; exact lt_irrefl 0)
  · rintro rfl
    have hpoint : Text.ratio (zeros 1 ++ ↑ '.' :: zeros 1) = _ :=
      Text.ratio_point isDigit_of_mem_zeros isDigit_of_mem_zeros (by simp [zeros])
    have hvalue : digitsValue (zeros 1 ++ zeros 1) = 0 := by decide
    rw [hvalue, Nat.cast_zero, zero_mul] at hpoint
    exact hpoint

/-- What a double is written with beside digits. -/
def numericMarks : List CodePoint := [↑ '-', ↑ '+', ↑ '.', ↑ 'e']

/-- Digits, and behind them a point or an exponent. -/
def IsDecimal (t : Text) : Prop :=
  ∃ whole mark tail, t = whole ++ mark :: tail ∧ whole ≠ [] ∧
    (∀ c ∈ whole, c.isDigit = true) ∧ (mark = ↑ '.' ∨ mark = ↑ 'e') ∧
    ∀ c ∈ tail, c.isDigit = true ∨ c ∈ numericMarks

theorem isDecimal_positional {digits : Text} (hdigits : ∀ c ∈ digits, c.isDigit = true)
    (hne : digits ≠ []) (place : Int) : IsDecimal (positional digits place) := by
  rcases le_or_gt place 0 with hplace | hplace
  · refine ⟨_, _, _, positional_of_nonpos hplace digits, by simp [zeros], isDigit_of_mem_zeros,
      .inl rfl, ?_⟩
    exact fun c hc => .inl (List.forall_mem_append.mpr ⟨isDigit_of_mem_zeros, hdigits⟩ c hc)
  rcases le_or_gt digits.length place.toNat with hlength | hlength
  · refine ⟨_, _, _, positional_of_length_le hplace hlength, by simp [hne], ?_, .inl rfl,
      fun c hc => .inl (isDigit_of_mem_zeros c hc)⟩
    exact List.forall_mem_append.mpr ⟨hdigits, isDigit_of_mem_zeros⟩
  · refine ⟨_, _, _, positional_of_lt_length hplace hlength, ?_,
      fun c hc => hdigits c (List.mem_of_mem_take hc), .inl rfl,
      fun c hc => .inl (hdigits c (List.mem_of_mem_drop hc))⟩
    rw [Ne, List.take_eq_nil_iff, not_or]
    exact ⟨by omega, hne⟩

theorem isDecimal_scientific {digits : Text} (hdigits : ∀ c ∈ digits, c.isDigit = true)
    (hne : digits ≠ []) (place : Int) : IsDecimal (scientific digits place) := by
  have htake : digits.take 1 ≠ [] := by simp [hne]
  have hfirst : ∀ c ∈ digits.take 1, c.isDigit = true :=
    fun c hc => hdigits c (List.mem_of_mem_take hc)
  have hpower : ∀ c ∈ (if decide (place - 1 < 0) then ↑ '-' else ↑ '+') ::
      Text.paddedDecimal layout.exponentDigits (place - 1).natAbs,
      c.isDigit = true ∨ c ∈ numericMarks := by
    intro c hc
    rcases List.mem_cons.mp hc with rfl | hc
    · right
      split <;> decide
    · exact .inl (Text.isDigit_of_mem_paddedDecimal hc)
  rw [scientific_eq, Text.fractionText]
  split
  · exact ⟨_, _, _, rfl, htake, hfirst, .inr rfl, hpower⟩
  · refine ⟨_, _, _, rfl, htake, hfirst, .inl rfl, ?_⟩
    refine List.forall_mem_append.mpr
      ⟨fun c hc => .inl (hdigits c (List.mem_of_mem_drop hc)), fun c hc => ?_⟩
    rcases List.mem_cons.mp hc with rfl | hc
    · exact .inr (by decide)
    · exact hpower c hc

theorem isDecimal_unsignedText (m : Nat) (e : Int) : IsDecimal (unsignedText m e) := by
  unfold unsignedText
  split
  · exact ⟨zeros 1, ↑ '.', zeros 1, rfl, by simp [zeros], isDigit_of_mem_zeros, .inl rfl,
      fun c hc => .inl (isDigit_of_mem_zeros c hc)⟩
  · have hdigits : ∀ c ∈ (shortest m e).1, c.isDigit = true :=
      fun c hc => Text.isDigit_of_mem_decimal hc
    have hne : (shortest m e).1 ≠ [] := Text.decimal_ne_nil _
    dsimp only
    split
    · exact isDecimal_positional hdigits hne _
    · exact isDecimal_scientific hdigits hne _

/-- A minus stands before no decimal that has none. -/
theorem minus_cons_ne {t t' : Text} (h : IsDecimal t') : ↑ '-' :: t ≠ t' := by
  obtain ⟨whole, mark, tail, rfl, hne, hwhole, -, -⟩ := h
  obtain ⟨c, whole, rfl⟩ := List.exists_cons_of_ne_nil hne
  intro heq
  have hdigit := hwhole c List.mem_cons_self
  rw [← (List.cons.inj heq).1] at hdigit
  revert hdigit
  decide

/-- No two finite doubles are written alike. -/
theorem toText_injective {x y : Double} (hx : x.Normal) (hy : y.Normal) (hfx : x.isFinite = true)
    (hfy : y.isFinite = true) (h : x.toText = y.toText) : x = y := by
  cases x with
  | nan => cases hfx
  | infinite s => cases hfx
  | finite s m e =>
    cases y with
    | nan => cases hfy
    | infinite s => cases hfy
    | finite s' m' e' =>
      rw [toText_finite, toText_finite] at h
      have hsign : s = s' ∧ unsignedText m e = unsignedText m' e' := by
        cases s <;> cases s'
        · exact ⟨rfl, h⟩
        · exact absurd h.symm (minus_cons_ne (isDecimal_unsignedText m e))
        · exact absurd h (minus_cons_ne (isDecimal_unsignedText m' e'))
        · exact ⟨rfl, (List.cons.inj h).2⟩
      obtain ⟨rfl, htext⟩ := hsign
      have hzero := ratio_unsignedText_eq_zero_iff hx
      rw [htext, ratio_unsignedText_eq_zero_iff hy] at hzero
      by_cases hm : m = 0
      · -- zero has the least exponent
        have hm' := hzero.mpr hm
        obtain ⟨-, -, -, he⟩ := hx
        obtain ⟨-, -, -, he'⟩ := hy
        have hexp : e = e' := by omega
        rw [hm, hm', hexp]
      · have hrounds := rounds_ratio hx hm
        rw [htext] at hrounds
        obtain ⟨rfl, rfl⟩ := eq_of_rounds hx hy hrounds
          (rounds_ratio hy fun h => hm (hzero.mp h))
        rfl

end Double

end AdmissionLedger
