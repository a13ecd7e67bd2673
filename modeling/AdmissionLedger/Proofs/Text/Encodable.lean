import AdmissionLedger.Text.Utf8
import Mathlib.Data.List.TakeWhile

/-!
# Texts that have bytes

A text has UTF-8 bytes exactly if it holds no surrogate.  ASCII texts hold none, and
the parts of which messages are put together are ASCII: numbers in any base, escapes,
and the wording of the encoder's own failures.

## Main definitions

* `Text.IsAscii` — all code points are below 128.

## Main results

* `Text.encodeUtf8_of_hasSurrogate_eq_false`, `Text.encodeUtf8_of_hasSurrogate` — the encoder
  succeeds or fails by the presence of a surrogate alone.
* `Text.IsAscii.hasSurrogate` — an ASCII text has bytes.
* `EncodeError.isAscii_message` — the wording of an encoding failure can itself be encoded.
-/

namespace AdmissionLedger

namespace Text

/-! ### Surrogates -/

@[simp] theorem hasSurrogate_nil : hasSurrogate [] = false := rfl

@[simp] theorem hasSurrogate_cons (c : CodePoint) (t : Text) :
    hasSurrogate (c :: t) = (c.isSurrogate || hasSurrogate t) := rfl

@[simp] theorem hasSurrogate_append (s t : Text) :
    hasSurrogate (s ++ t) = (hasSurrogate s || hasSurrogate t) :=
  List.any_append

theorem hasSurrogate_reverse (t : Text) : hasSurrogate t.reverse = hasSurrogate t :=
  List.any_reverse

/-! ### Encoding -/

/-- Nothing is refused of a text that holds nothing to refuse. -/
theorem firstRefused_eq_none {codec : Codec} {refused passed : CodePoint → Bool} {t : Text}
    (h : t.any refused = false) : firstRefused codec refused passed t = none := by
  have hkept : ∀ c ∈ t, (!refused c || passed c) = true := by
    intro c hc
    rw [List.any_eq_false] at h
    simp [h c hc]
  have hdrop : t.dropWhile (fun c => !refused c || passed c) = [] := by
    rw [List.dropWhile_eq_nil_iff]
    exact hkept
  simp only [firstRefused, hdrop]

/-- Something is refused of a text that holds what is refused and not passed over. -/
theorem firstRefused_eq_some (codec : Codec) {refused : CodePoint → Bool} {t : Text}
    (h : t.any refused = true) : ∃ e, firstRefused codec refused (fun _ => false) t = some e := by
  have hdrop : t.dropWhile (fun c => !refused c || false) ≠ [] := by
    rw [Ne, List.dropWhile_eq_nil_iff]
    intro hall
    rw [List.any_eq_true] at h
    obtain ⟨c, hc, hr⟩ := h
    have := hall c hc
    simp [hr] at this
  obtain ⟨c, rest, hcr⟩ := List.exists_cons_of_ne_nil hdrop
  simp only [firstRefused, hcr]
  exact ⟨_, rfl⟩

theorem encodeUtf8_of_hasSurrogate_eq_false {t : Text} (h : t.hasSurrogate = false) :
    t.encodeUtf8 = .ok (t.flatMap CodePoint.utf8Bytes) := by
  rw [encodeUtf8, firstRefused_eq_none h]

theorem encodeUtf8_of_hasSurrogate {t : Text} (h : t.hasSurrogate = true) :
    ∃ e, t.encodeUtf8 = .error e := by
  obtain ⟨e, he⟩ := firstRefused_eq_some .utf8 h
  exact ⟨e, by rw [encodeUtf8, he]⟩

/-! ### ASCII -/

/-- All code points of the text are ASCII. -/
def IsAscii (t : Text) : Prop := ∀ c ∈ t, c.val < 0x80

instance : DecidablePred IsAscii := fun t => inferInstanceAs (Decidable (∀ c ∈ t, c.val < 0x80))

namespace IsAscii

theorem nil : IsAscii [] := by
  intro c hc
  cases hc

theorem cons {c : CodePoint} {t : Text} (hc : c.val < 0x80) (ht : IsAscii t) :
    IsAscii (c :: t) := by
  intro x hx
  rcases List.mem_cons.mp hx with rfl | hx
  · exact hc
  · exact ht x hx

theorem append {s t : Text} (hs : IsAscii s) (ht : IsAscii t) : IsAscii (s ++ t) := by
  intro c hc
  rcases List.mem_append.mp hc with h | h
  · exact hs c h
  · exact ht c h

theorem take {t : Text} (n : Nat) (h : IsAscii t) : IsAscii (t.take n) :=
  fun c hc => h c (List.mem_of_mem_take hc)

theorem drop {t : Text} (n : Nat) (h : IsAscii t) : IsAscii (t.drop n) :=
  fun c hc => h c (List.mem_of_mem_drop hc)

theorem replicate {c : CodePoint} (n : Nat) (hc : c.val < 0x80) :
    IsAscii (List.replicate n c) := by
  intro x hx
  rw [List.eq_of_mem_replicate hx]
  exact hc

theorem flatMap {α : Type} {f : α → Text} {l : List α} (h : ∀ a ∈ l, IsAscii (f a)) :
    IsAscii (l.flatMap f) := by
  intro c hc
  obtain ⟨a, ha, hca⟩ := List.mem_flatMap.mp hc
  exact h a ha c hca

/-- An ASCII text holds no surrogate. -/
theorem hasSurrogate {t : Text} (h : IsAscii t) : t.hasSurrogate = false := by
  rw [Text.hasSurrogate, List.any_eq_false]
  intro c hc
  have := h c hc
  simp [CodePoint.isSurrogate]
  omega

end IsAscii

/-! ### Numbers -/

theorem digitChar_lt (n : Nat) : (Nat.digitChar n).toNat < 0x80 := by
  have hsmall : ∀ m < 16, (Nat.digitChar m).toNat < 0x80 := by decide
  rcases Nat.lt_or_ge n 16 with h | h
  · exact hsmall n h
  · rw [Nat.digitChar_eq_star.mpr h]
    decide

theorem toDigitsCore_ascii (base : Nat) : ∀ (fuel n : Nat) (done : List Char),
    (∀ c ∈ done, c.toNat < 0x80) → ∀ c ∈ Nat.toDigitsCore base fuel n done, c.toNat < 0x80 := by
  intro fuel
  induction fuel with
  | zero => intro n done hdone; exact hdone
  | succ fuel ih =>
    intro n done hdone
    have hstep : ∀ c ∈ Nat.digitChar (n % base) :: done, c.toNat < 0x80 := by
      intro c hc
      rcases List.mem_cons.mp hc with rfl | hc
      · exact digitChar_lt _
      · exact hdone c hc
    rw [Nat.toDigitsCore]
    split
    · exact hstep
    · exact ih _ _ hstep

theorem isAscii_toDigits (base n : Nat) : IsAscii (ofChars (Nat.toDigits base n)) := by
  intro c hc
  obtain ⟨d, hd, rfl⟩ := List.mem_map.mp hc
  exact toDigitsCore_ascii base _ n [] (by simp) d hd

theorem isAscii_decimal (n : Nat) : IsAscii (decimal n) :=
  isAscii_toDigits 10 n

theorem isAscii_ofInt (n : Int) : IsAscii (ofInt n) := by
  cases n with
  | ofNat n => exact isAscii_decimal n
  | negSucc n => exact .cons (by decide) (isAscii_decimal (n + 1))

theorem isAscii_paddedDecimal (width n : Nat) : IsAscii (paddedDecimal width n) :=
  .append (.replicate _ (by decide)) (isAscii_decimal n)

theorem isAscii_paddedHex (width n : Nat) : IsAscii (paddedHex width n) :=
  .append (.replicate _ (by decide)) (isAscii_toDigits 16 n)

end Text

/-! ### Escapes and failures -/

open Text

theorem CodePoint.isAscii_escape (c : CodePoint) : IsAscii c.escape := by
  unfold CodePoint.escape
  split
  · exact .cons (by decide) (.cons (by decide) (isAscii_paddedHex 2 c.val))
  · split
    · exact .cons (by decide) (.cons (by decide) (isAscii_paddedHex 4 c.val))
    · exact .cons (by decide) (.cons (by decide) (isAscii_paddedHex 8 c.val))

theorem Codec.isAscii_name (codec : Codec) : IsAscii codec.name := by
  cases codec <;> decide

theorem Codec.isAscii_refusal (codec : Codec) : IsAscii codec.refusal := by
  cases codec <;> decide

/-- The wording of an encoding failure shows what was refused by its number, so it is ASCII. -/
theorem EncodeError.isAscii_message (e : EncodeError) : IsAscii e.message := by
  have hplace : IsAscii (if e.stop = e.start + 1 then
      Text.ofString "character '" ++ e.first.escape ++ "' in position " ++ Text.decimal e.start
    else
      Text.ofString "characters in position " ++ Text.decimal e.start ++ "-" ++
        Text.decimal (e.stop - 1)) := by
    split
    · exact .append (.append (.append (by decide) e.first.isAscii_escape) (by decide))
        (isAscii_decimal _)
    · exact .append (.append (.append (by decide) (isAscii_decimal _)) (by decide))
        (isAscii_decimal _)
  exact .append (.append (.append (.append (.append (by decide) e.codec.isAscii_name) (by decide))
    hplace) (by decide)) e.codec.isAscii_refusal

end AdmissionLedger
