import AdmissionLedger.Json.Reader
import Mathlib.Tactic.Ring

/-!
# Numbers in digits

A number is written with its digits in base ten or sixteen, sometimes behind zeros up
to a width.  The value of the digits gives the number back, so that no two numbers are
written alike.

## Main results

* `Text.digitsValue_decimal`, `Text.digitsValue_paddedDecimal` — the value of written digits.
* `Text.decimal_injective`, `Text.ofInt_injective` — no two numbers are written alike.
* `Text.length_decimal_mul_pow` — a power of ten as factor adds as many digits.
* `Text.paddedHex_succ`, `Text.paddedHex_injective` — the digits of a number in base sixteen.
-/

namespace AdmissionLedger

open Json

namespace Text

/-! ### Base ten -/

theorem digitsValue_ofChars (cs : List Char) :
    digitsValue (ofChars cs) = Nat.ofDigitChars 10 cs 0 := by
  rw [digitsValue, ofChars, List.foldl_map, Nat.ofDigitChars_eq_foldl]
  congr 1
  funext n c
  rw [Nat.mul_comm]
  rfl

/-- The value of the digits of a number is the number. -/
@[simp] theorem digitsValue_decimal (n : Nat) : digitsValue (decimal n) = n := by
  rw [decimal, digitsValue_ofChars, Nat.ofDigitChars_ten_toDigits]

theorem digitsValue_append (s t : Text) :
    digitsValue (s ++ t) = digitsValue s * 10 ^ t.length + digitsValue t := by
  have hfrom : ∀ (t : Text) n, t.foldl (fun n c => n * 10 + (c.val - 0x30)) n
      = n * 10 ^ t.length + digitsValue t := by
    intro t
    induction t with
    | nil => intro n; simp [digitsValue]
    | cons c t ih =>
      intro n
      have hcons : digitsValue (c :: t)
          = (0 * 10 + (c.val - 0x30)) * 10 ^ t.length + digitsValue t :=
        ih _
      rw [List.foldl_cons, ih, hcons, List.length_cons]
      ring
  rw [digitsValue, List.foldl_append, hfrom]
  rfl

theorem digitsValue_replicate_zero (n : Nat) :
    digitsValue (List.replicate n (CodePoint.ofChar '0')) = 0 := by
  induction n with
  | zero => rfl
  | succ n ih =>
    rw [List.replicate_succ', digitsValue_append, ih]
    rfl

/-- Zeros in front do not change the value. -/
theorem digitsValue_replicate_append (n : Nat) (t : Text) :
    digitsValue (List.replicate n (CodePoint.ofChar '0') ++ t) = digitsValue t := by
  rw [digitsValue_append, digitsValue_replicate_zero, Nat.zero_mul, Nat.zero_add]

theorem digitsValue_paddedDecimal (width n : Nat) : digitsValue (paddedDecimal width n) = n := by
  rw [paddedDecimal, digitsValue_replicate_append, digitsValue_decimal]

theorem decimal_injective : Function.Injective decimal := by
  intro m n h
  rw [← digitsValue_decimal m, h, digitsValue_decimal]

theorem decimal_ne_nil (n : Nat) : decimal n ≠ [] := by
  rw [decimal, ofChars, Ne, List.map_eq_nil_iff]
  exact Nat.toDigits_ne_nil

theorem isDigit_of_mem_decimal {n : Nat} {c : CodePoint} (h : c ∈ decimal n) :
    c.isDigit = true := by
  obtain ⟨d, hd, rfl⟩ := List.mem_map.mp h
  have hdigit := Nat.isDigit_of_mem_toDigits (by decide) (by decide) hd
  simp only [Char.isDigit, Bool.and_eq_true, decide_eq_true_eq, UInt32.le_iff_toNat_le] at hdigit
  rw [CodePoint.isDigit, Bool.and_eq_true, decide_eq_true_eq, decide_eq_true_eq]
  exact hdigit

theorem isDigit_of_mem_paddedDecimal {width n : Nat} {c : CodePoint}
    (h : c ∈ paddedDecimal width n) : c.isDigit = true := by
  rcases List.mem_append.mp h with h | h
  · rw [List.eq_of_mem_replicate h]
    decide
  · exact isDigit_of_mem_decimal h

theorem length_decimal_le_iff {n k : Nat} (hk : 0 < k) :
    (decimal n).length ≤ k ↔ n < 10 ^ k := by
  rw [decimal, ofChars, List.length_map]
  exact Nat.length_toDigits_le_iff (by decide) hk

/-- A factor ten adds a zero. -/
theorem length_decimal_mul_ten {n : Nat} (hn : 0 < n) :
    (decimal (n * 10)).length = (decimal n).length + 1 := by
  have happend := Nat.toDigits_append_toDigits (b := 10) (by decide) hn (by decide : 0 < 10)
  rw [Nat.add_zero, Nat.mul_comm] at happend
  rw [decimal, ← happend, ofChars, List.length_map, List.length_append, decimal, ofChars,
    List.length_map]
  rfl

/-- A power of ten as factor adds as many zeros. -/
theorem length_decimal_mul_pow {n : Nat} (hn : 0 < n) (k : Nat) :
    (decimal (n * 10 ^ k)).length = (decimal n).length + k := by
  induction k with
  | zero => simp
  | succ k ih =>
    have hpos : 0 < n * 10 ^ k := Nat.mul_pos hn (Nat.pow_pos (by decide))
    rw [Nat.pow_succ, ← Nat.mul_assoc, length_decimal_mul_ten hpos, ih, Nat.add_assoc]

theorem minus_not_mem_decimal (n : Nat) : CodePoint.ofChar '-' ∉ decimal n := by
  intro h
  have := isDigit_of_mem_decimal h
  revert this
  decide

theorem minus_not_mem_ofInt {n : Int} (h : 0 ≤ n) : CodePoint.ofChar '-' ∉ ofInt n := by
  obtain ⟨m, rfl⟩ := Int.eq_ofNat_of_zero_le h
  exact minus_not_mem_decimal m

theorem ofInt_injective : Function.Injective ofInt := by
  intro m n h
  cases m with
  | ofNat m =>
    cases n with
    | ofNat n => exact congrArg Int.ofNat (decimal_injective h)
    | negSucc n =>
      have hmem : CodePoint.ofChar '-' ∈ decimal m := by
        rw [ofInt, ofInt] at h
        rw [h]
        exact List.mem_cons_self
      exact absurd hmem (minus_not_mem_decimal m)
  | negSucc m =>
    cases n with
    | ofNat n =>
      have hmem : CodePoint.ofChar '-' ∈ decimal n := by
        rw [ofInt, ofInt] at h
        rw [← h]
        exact List.mem_cons_self
      exact absurd hmem (minus_not_mem_decimal n)
    | negSucc n =>
      have htail : decimal (m + 1) = decimal (n + 1) := (List.cons.inj h).2
      exact congrArg Int.negSucc (Nat.succ.inj (decimal_injective htail))

/-! ### Base sixteen -/

/-- A digit in base sixteen. -/
def hexDigit (n : Nat) : CodePoint := CodePoint.ofChar (Nat.digitChar n)

theorem hexValue?_hexDigit {n : Nat} (h : n < 16) : hexValue? (hexDigit n) = some n := by
  have hall : ∀ n < 16, hexValue? (hexDigit n) = some n := by decide
  exact hall n h

theorem paddedHex_one {n : Nat} (h : n < 16) : paddedHex 1 n = [hexDigit n] := by
  rw [paddedHex, Nat.toDigits_of_lt_base h]
  rfl

/-- The last digit of a number and the digits before it. -/
theorem paddedHex_succ {width : Nat} (hwidth : 0 < width) (n : Nat) :
    paddedHex (width + 1) n = paddedHex width (n / 16) ++ [hexDigit (n % 16)] := by
  rcases Nat.lt_or_ge n 16 with hn | hn
  · have hzero : n / 16 = 0 := Nat.div_eq_of_lt hn
    obtain ⟨w, rfl⟩ : ∃ w, width = w + 1 := ⟨width - 1, by omega⟩
    rw [paddedHex, Nat.toDigits_of_lt_base hn, hzero, Nat.mod_eq_of_lt hn, paddedHex,
      Nat.toDigits_zero]
    simp [ofChars, List.replicate_succ', hexDigit]
  · rw [paddedHex, Nat.toDigits_of_base_le (by decide) hn, paddedHex]
    simp [ofChars, hexDigit]

theorem length_paddedHex {width n : Nat} (hwidth : 0 < width) (h : n < 16 ^ width) :
    (paddedHex width n).length = width := by
  have hdigits : (Nat.toDigits 16 n).length ≤ width :=
    (Nat.length_toDigits_le_iff (by decide) hwidth).mpr h
  simp only [paddedHex, ofChars, List.length_append, List.length_replicate, List.length_map]
  omega

/-- Two numbers of one width are written alike only if they are one. -/
theorem paddedHex_injective {width m n : Nat} (hwidth : 0 < width) (hm : m < 16 ^ width)
    (hn : n < 16 ^ width) (h : paddedHex width m = paddedHex width n) : m = n := by
  induction width, hwidth using Nat.le_induction generalizing m n with
  | base =>
    rw [pow_one] at hm hn
    rw [paddedHex_one hm, paddedHex_one hn] at h
    have hvalue := congrArg hexValue? (List.singleton_inj.mp h)
    rw [hexValue?_hexDigit hm, hexValue?_hexDigit hn] at hvalue
    exact Option.some.inj hvalue
  | succ width hwidth ih =>
    rw [paddedHex_succ hwidth, paddedHex_succ hwidth] at h
    obtain ⟨hinit, hlast⟩ := List.append_inj' h rfl
    have hvalue := congrArg hexValue? (List.singleton_inj.mp hlast)
    rw [hexValue?_hexDigit (Nat.mod_lt _ (by decide)),
      hexValue?_hexDigit (Nat.mod_lt _ (by decide))] at hvalue
    have hdiv : m / 16 = n / 16 :=
      ih (Nat.div_lt_of_lt_mul (by rwa [Nat.mul_comm, ← Nat.pow_succ]))
        (Nat.div_lt_of_lt_mul (by rwa [Nat.mul_comm, ← Nat.pow_succ])) hinit
    have hmod : m % 16 = n % 16 := Option.some.inj hvalue
    omega

end Text

end AdmissionLedger
