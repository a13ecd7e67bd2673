import AdmissionLedger.Proofs.Text.Encodable

/-!
# No two texts have the same bytes

The first of the bytes of a code point tells how many there are, and all of them tell
the code point.  So the bytes of a text give the text back.

## Main results

* `CodePoint.utf8Bytes_append_inj` — a code point is told by its bytes, whatever follows them.
* `Text.encodeUtf8_injective` — two texts that have the same bytes are the same.
-/

namespace AdmissionLedger

/-- Parts that can be told from what follows them can be told from each other. -/
theorem flatMap_injective {α β : Type} {part : α → List β} (hne : ∀ a, part a ≠ [])
    (hpart : ∀ a b rest rest', part a ++ rest = part b ++ rest' → a = b ∧ rest = rest') :
    Function.Injective fun l : List α => l.flatMap part := by
  intro l
  induction l with
  | nil =>
    intro l' h
    cases l' with
    | nil => rfl
    | cons b l' => exact absurd (List.append_eq_nil_iff.mp h.symm).1 (hne b)
  | cons a l ih =>
    intro l' h
    cases l' with
    | nil => exact absurd (List.append_eq_nil_iff.mp h).1 (hne a)
    | cons b l' =>
      obtain ⟨rfl, hrest⟩ := hpart a b _ _ h
      rw [ih hrest]

namespace CodePoint

theorem utf8Bytes_ne_nil (c : CodePoint) : c.utf8Bytes ≠ [] := by
  unfold utf8Bytes
  split
  · exact List.cons_ne_nil _ _
  · split
    · exact List.cons_ne_nil _ _
    · split <;> exact List.cons_ne_nil _ _

/-- A code point is told by its bytes, whatever follows them. -/
theorem utf8Bytes_append_inj (c d : CodePoint) (rest rest' : Bytes)
    (h : c.utf8Bytes ++ rest = d.utf8Bytes ++ rest') : c = d ∧ rest = rest' := by
  have hc := c.isLt
  have hd := d.isLt
  have hsame : c.val = d.val ∧ rest = rest' := by
    unfold utf8Bytes at h
    split_ifs at h <;>
      simp only [List.cons_append, List.nil_append, List.cons.injEq, ← UInt8.toNat_inj,
        UInt8.toNat_ofNat'] at h <;>
      -- the first bytes of shorter and of longer runs lie in different ranges
      first
      | exact absurd h.1 (by omega)
      | exact ⟨by omega, by simp only [h]⟩
  cases c
  cases d
  cases hsame.1
  exact ⟨rfl, hsame.2⟩

end CodePoint

namespace Text

theorem flatMap_utf8Bytes_injective :
    Function.Injective fun t : Text => t.flatMap CodePoint.utf8Bytes :=
  flatMap_injective CodePoint.utf8Bytes_ne_nil CodePoint.utf8Bytes_append_inj

/-- Two texts that have the same bytes are the same. -/
theorem encodeUtf8_injective {s t : Text} {bytes : Bytes} (hs : s.encodeUtf8 = .ok bytes)
    (ht : t.encodeUtf8 = .ok bytes) : s = t := by
  have hbytes : ∀ {t : Text}, t.encodeUtf8 = .ok bytes → t.flatMap CodePoint.utf8Bytes = bytes := by
    intro t ht
    rw [encodeUtf8] at ht
    split at ht
    · cases ht
    · exact Except.ok.inj ht
  exact flatMap_utf8Bytes_injective ((hbytes hs).trans (hbytes ht).symm)

end Text

end AdmissionLedger
