import AdmissionLedger.Json.Writer
import AdmissionLedger.Proofs.Text.Numeral

/-!
# Strings written in ASCII

In ASCII a string is written by its 16-bit units: a code point beyond 16 bits is written
as the escapes of two surrogates.  So a text with two surrogates and a text with the code
point that they stand for are written alike, and no other texts are.

## Main definitions

* `CodePoint.units`, `Text.units` — a text with every code point beyond 16 bits split in two.
* `Json.readPoint` — the first unit of a written string, and the rest.

## Main results

* `Json.readPoint_writePoint` — a written unit is read as itself, whatever follows it.
* `Json.writeString_append_inj` — strings that are written alike have the same units.
-/

namespace AdmissionLedger

/-- The 16-bit units of a code point: two surrogates if it is beyond 16 bits, else itself. -/
def CodePoint.units (c : CodePoint) : Text :=
  if c.val < 0x10000 then [c]
  else [.ofNat (0xD800 + (c.val - 0x10000) / 0x400), .ofNat (0xDC00 + (c.val - 0x10000) % 0x400)]

/-- The 16-bit units of a text. -/
def Text.units (t : Text) : Text :=
  t.flatMap CodePoint.units

theorem CodePoint.val_ofNat {n : Nat} (h : n < 0x110000) : (CodePoint.ofNat n).val = n := by
  rw [CodePoint.ofNat, dif_pos h]

theorem CodePoint.ofNat_val (c : CodePoint) : CodePoint.ofNat c.val = c := by
  rw [CodePoint.ofNat, dif_pos c.isLt]

theorem CodePoint.lt_of_mem_units {c u : CodePoint} (h : u ∈ c.units) : u.val < 0x10000 := by
  have hc := c.isLt
  unfold units at h
  split at h
  · next hlt => rwa [List.mem_singleton.mp h]
  · rcases List.mem_cons.mp h with rfl | h
    · rw [val_ofNat (by omega)]
      omega
    · rw [List.mem_singleton.mp h, val_ofNat (by omega)]
      omega

namespace Json

/-! ### Units -/

theorem unitEscape_eq {n : Nat} (h : n < 0x10000) :
    unitEscape n = [.backslash, ↑ 'u', Text.hexDigit (n / 4096), Text.hexDigit (n / 256 % 16),
      Text.hexDigit (n / 16 % 16), Text.hexDigit (n % 16)] := by
  rw [unitEscape, Text.paddedHex_succ (by decide), Text.paddedHex_succ (by decide),
    Text.paddedHex_succ (by decide), Text.paddedHex_one (by omega), Nat.div_div_eq_div_mul n 16 16,
    Nat.div_div_eq_div_mul]
  rfl

/-- The escape of a code point that has no short one is that of its number. -/
theorem pointEscape_of_ge {c : CodePoint} (h : 0x20 ≤ c.val) : pointEscape c =
    if c.val < 0x10000 then unitEscape c.val
    else unitEscape (0xD800 + (c.val - 0x10000) / 0x400) ++
      unitEscape (0xDC00 + (c.val - 0x10000) % 0x400) := by
  unfold pointEscape
  split <;> first | omega | rfl

theorem writePoint_of_ge {c : CodePoint} (h : 0x7F ≤ c.val) :
    writePoint .ascii c = pointEscape c := by
  have hquote : c ≠ .doubleQuote := by
    rintro rfl
    exact absurd h (by decide)
  have hslash : c ≠ .backslash := by
    rintro rfl
    exact absurd h (by decide)
  simp [writePoint, hquote, hslash, h]

/-- A code point is written by its units. -/
theorem writePoint_eq_flatMap (c : CodePoint) :
    writePoint .ascii c = c.units.flatMap (writePoint .ascii) := by
  have hc := c.isLt
  unfold CodePoint.units
  split
  · simp
  · next h =>
    have hhigh : (CodePoint.ofNat (0xD800 + (c.val - 0x10000) / 0x400)).val
        = 0xD800 + (c.val - 0x10000) / 0x400 := CodePoint.val_ofNat (by omega)
    have hlow : (CodePoint.ofNat (0xDC00 + (c.val - 0x10000) % 0x400)).val
        = 0xDC00 + (c.val - 0x10000) % 0x400 := CodePoint.val_ofNat (by omega)
    rw [writePoint_of_ge (by omega), pointEscape_of_ge (by omega), if_neg h, List.flatMap_cons,
      List.flatMap_singleton, writePoint_of_ge (by omega), writePoint_of_ge (by omega),
      pointEscape_of_ge (by omega), pointEscape_of_ge (by omega), if_pos (by omega),
      if_pos (by omega), hhigh, hlow]

theorem flatMap_writePoint_units (t : Text) :
    t.flatMap (writePoint .ascii) = t.units.flatMap (writePoint .ascii) := by
  rw [Text.units, List.flatMap_assoc]
  exact congrArg t.flatMap (funext writePoint_eq_flatMap)

/-! ### Reading units back -/

/-- The first unit of a written string, and the rest of it. -/
def readPoint : Text → Option (CodePoint × Text)
  | [] => none
  | c :: rest =>
    if c = .backslash then
      match rest with
      | [] => none
      | e :: rest =>
        if e = ↑ 'u' then
          match rest with
          | a :: b :: c :: d :: rest => (hexPoint? a b c d).map fun point => (point, rest)
          | _ => none
        else (escaped? e).map fun point => (point, rest)
    else some (c, rest)

theorem readPoint_unitEscape {c : CodePoint} (h : c.val < 0x10000) (rest : Text) :
    readPoint (unitEscape c.val ++ rest) = some (c, rest) := by
  have hpoint : hexPoint? (Text.hexDigit (c.val / 4096)) (Text.hexDigit (c.val / 256 % 16))
      (Text.hexDigit (c.val / 16 % 16)) (Text.hexDigit (c.val % 16)) = some c := by
    rw [hexPoint?, Text.hexValue?_hexDigit (by omega), Text.hexValue?_hexDigit (by omega),
      Text.hexValue?_hexDigit (by omega), Text.hexValue?_hexDigit (by omega)]
    have hvalue : ((c.val / 4096 * 16 + c.val / 256 % 16) * 16 + c.val / 16 % 16) * 16 + c.val % 16
        = c.val := by omega
    simp only [Option.bind_eq_bind, Option.bind_some, hvalue, CodePoint.ofNat_val]
    rfl
  rw [unitEscape_eq h]
  simp only [List.cons_append, List.nil_append, readPoint, if_true, hpoint, Option.map_some]

theorem readPoint_backslash {e c : CodePoint} (hne : e ≠ ↑ 'u') (h : escaped? e = some c)
    (rest : Text) : readPoint ([.backslash, e] ++ rest) = some (c, rest) := by
  simp only [List.cons_append, List.nil_append, readPoint, if_true, if_neg hne, h, Option.map_some]

/-- A code point of 16 bits that is written as an escape is read as itself. -/
theorem readPoint_pointEscape {c : CodePoint} (h : c.val < 0x10000) (rest : Text) :
    readPoint (pointEscape c ++ rest) = some (c, rest) := by
  have hshort : ∀ n : Nat, ∀ e : CodePoint, c.val = n → e ≠ ↑ 'u' →
      escaped? e = some (.ofNat n) → readPoint ([.backslash, e] ++ rest) = some (c, rest) := by
    rintro _ e rfl hne he
    rw [CodePoint.ofNat_val] at he
    exact readPoint_backslash hne he rest
  unfold pointEscape
  split
  · next heq => exact hshort 0x08 _ heq (by decide) (by decide)
  · next heq => exact hshort 0x09 _ heq (by decide) (by decide)
  · next heq => exact hshort 0x0A _ heq (by decide) (by decide)
  · next heq => exact hshort 0x0C _ heq (by decide) (by decide)
  · next heq => exact hshort 0x0D _ heq (by decide) (by decide)
  · rw [if_pos h]
    exact readPoint_unitEscape h rest

/-- A written unit is read as itself, whatever follows it. -/
theorem readPoint_writePoint {c : CodePoint} (h : c.val < 0x10000) (rest : Text) :
    readPoint (writePoint .ascii c ++ rest) = some (c, rest) := by
  unfold writePoint
  split
  · next hescaped =>
    simp only [Bool.or_eq_true, decide_eq_true_eq] at hescaped
    rcases hescaped with rfl | rfl
    · exact readPoint_backslash (by decide) (by decide) rest
    · exact readPoint_backslash (by decide) (by decide) rest
  · next hplain =>
    split
    · exact readPoint_pointEscape h rest
    · split
      · exact readPoint_pointEscape h rest
      · have hne : c ≠ .backslash := by
          rintro rfl
          exact hplain (by decide)
        simp only [List.cons_append, List.nil_append, readPoint, if_neg hne]

/-- A quote inside of a string is written behind a backslash. -/
theorem writePoint_append_ne_quote (c : CodePoint) (rest rest' : Text) :
    writePoint .ascii c ++ rest ≠ .doubleQuote :: rest' := by
  have hescape : ∀ t : Text, t.head? = some .backslash → t ++ rest ≠ .doubleQuote :: rest' := by
    intro t ht heq
    cases t with
    | nil => cases ht
    | cons e t =>
      cases ht
      exact absurd (List.cons.inj heq).1 (by decide)
  have hpoint : (pointEscape c).head? = some .backslash := by
    unfold pointEscape
    split
    · rfl
    · rfl
    · rfl
    · rfl
    · rfl
    · split <;> rfl
  unfold writePoint
  split
  · exact hescape _ rfl
  · next hplain =>
    split
    · exact hescape _ hpoint
    · split
      · exact hescape _ hpoint
      · intro heq
        rw [(List.cons.inj heq).1] at hplain
        exact hplain (by decide)

/-- Units that are written alike up to the closing quote are the same, and so is what follows. -/
theorem flatMap_writePoint_inj {t t' : Text} (ht : ∀ c ∈ t, c.val < 0x10000)
    (ht' : ∀ c ∈ t', c.val < 0x10000) {rest rest' : Text}
    (h : t.flatMap (writePoint .ascii) ++ .doubleQuote :: rest =
      t'.flatMap (writePoint .ascii) ++ .doubleQuote :: rest') : t = t' ∧ rest = rest' := by
  induction t generalizing t' with
  | nil =>
    cases t' with
    | nil => exact ⟨rfl, (List.cons.inj h).2⟩
    | cons c' t' =>
      rw [List.flatMap_cons, List.append_assoc] at h
      exact absurd h.symm (writePoint_append_ne_quote c' _ _)
  | cons c t ih =>
    rw [List.forall_mem_cons] at ht
    rw [List.flatMap_cons, List.append_assoc] at h
    cases t' with
    | nil => exact absurd h (writePoint_append_ne_quote c _ _)
    | cons c' t' =>
      rw [List.forall_mem_cons] at ht'
      rw [List.flatMap_cons, List.append_assoc] at h
      have hread := congrArg readPoint h
      rw [readPoint_writePoint ht.1, readPoint_writePoint ht'.1] at hread
      obtain ⟨rfl, hnext⟩ := Prod.mk.inj (Option.some.inj hread)
      obtain ⟨rfl, hrest⟩ := ih ht.2 ht'.2 hnext
      exact ⟨rfl, hrest⟩

/-- Strings that are written alike have the same units. -/
theorem writeString_append_inj {t t' : Text} {rest rest' : Text}
    (h : writeString .ascii t ++ rest = writeString .ascii t' ++ rest') :
    t.units = t'.units ∧ rest = rest' := by
  have hunits : ∀ t : Text, ∀ c ∈ t.units, c.val < 0x10000 := by
    intro t c hc
    obtain ⟨d, -, hd⟩ := List.mem_flatMap.mp hc
    exact CodePoint.lt_of_mem_units hd
  simp only [writeString, List.cons_append, List.append_assoc, List.nil_append] at h
  rw [flatMap_writePoint_units t, flatMap_writePoint_units t'] at h
  exact flatMap_writePoint_inj (hunits t) (hunits t') (List.cons.inj h).2

/-- A string is written by its units. -/
theorem writeString_units (t : Text) : writeString .ascii t.units = writeString .ascii t := by
  rw [writeString, writeString, flatMap_writePoint_units t]

end Json

end AdmissionLedger
