import AdmissionLedger.Alert.Address
import AdmissionLedger.Proofs.Json.Written
import AdmissionLedger.Proofs.Text.Split

/-!
# Addresses without surrogates

Taking an address apart can fail at a surrogate, which has no bytes to be
percent-encoded.  Its parts are made of its own code points, so one without surrogates
does not fail there.

## Main definitions

* `Address.isControl` — the code points that no address may hold.

## Main results

* `Address.hasSurrogate_splitAt`, `Address.hasSurrogate_resolveDots` — the parts hold no surrogate.
* `Address.exists_percentEncode`, `Address.exists_encodeOptional` — so they can be encoded.
-/

namespace AdmissionLedger

namespace Address

/-- Whether a code point may not stand in an address. -/
def isControl (c : CodePoint) : Bool := c.val < 0x20 || c.val = 0x7F

/-- A part of a text without surrogates holds none either. -/
theorem hasSurrogate_of_subset {s t : Text} (hsub : s ⊆ t) (h : t.hasSurrogate = false) :
    s.hasSurrogate = false := by
  rw [Text.hasSurrogate, List.any_eq_false] at h ⊢
  exact fun c hc => h c (hsub hc)

/-- A text without surrogates can be percent-encoded. -/
theorem exists_percentEncode {t : Text} (h : t.hasSurrogate = false) (excluded : List Char) :
    ∃ t', percentEncode excluded t = .ok t' := by
  induction t with
  | nil => exact ⟨[], rfl⟩
  | cons c rest ih =>
    rw [Text.hasSurrogate_cons, Bool.or_eq_false_iff] at h
    obtain ⟨rest', hrest⟩ := ih h.2
    have hc : Text.hasSurrogate [c] = false := by simp [h.1]
    rw [percentEncode, hrest, Text.encodeUtf8_of_hasSurrogate_eq_false hc]
    split <;> exact ⟨_, rfl⟩

/-- So can a part after its mark. -/
theorem exists_encodeOptional {t : Text} (h : t.hasSurrogate = false) (mark : String)
    (excluded : List Char) : ∃ t', encodeOptional excluded (after? mark t) = .ok t' := by
  unfold after?
  split
  · obtain ⟨t', ht'⟩ := exists_percentEncode
      (hasSurrogate_of_subset (List.drop_subset 1 t) h) excluded
    exact ⟨some t', by rw [encodeOptional, ht']; rfl⟩
  · exact ⟨none, rfl⟩

/-- Dots are resolved by leaving segments out. -/
theorem mem_of_mem_resolveSegments {done segments : List Text} {segment : Text}
    (h : segment ∈ resolveSegments done segments) : segment ∈ done ∨ segment ∈ segments := by
  fun_induction resolveSegments done segments with
  | case1 done => exact .inl (List.mem_reverse.mp h)
  | case2 done rest ih => exact (ih h).imp_right (List.mem_cons_of_mem _)
  | case3 done rest hdot ih =>
    refine (ih h).imp ?_ (List.mem_cons_of_mem _)
    split
    · exact id
    · exact List.mem_of_mem_drop
  | case4 done segment' rest hdot hdots ih =>
    rcases ih h with h | h
    · rcases List.mem_cons.mp h with rfl | h
      · exact .inr List.mem_cons_self
      · exact .inl h
    · exact .inr (List.mem_cons_of_mem _ h)

theorem hasSurrogate_resolveDots {path : Text} (h : path.hasSurrogate = false) :
    (resolveDots path).hasSurrogate = false := by
  have hslash : (Text.ofString "/").hasSurrogate = false := by decide
  simp only [resolveDots]
  split
  · rw [Text.hasSurrogate_join_iff hslash]
    intro segment hsegment
    rcases mem_of_mem_resolveSegments hsegment with hmem | hmem
    · cases hmem
    · exact hasSurrogate_of_subset (Text.subset_of_mem_splitOn hmem) h
  · exact h

/-- Nor do the two parts of a text that is cut at a mark. -/
theorem hasSurrogate_splitAt (marks : List Char) {t : Text} (h : t.hasSurrogate = false) :
    (splitAt marks t).1.hasSurrogate = false ∧ (splitAt marks t).2.hasSurrogate = false :=
  ⟨hasSurrogate_of_subset (List.takeWhile_sublist _).subset h,
    hasSurrogate_of_subset (List.drop_subset _ _) h⟩

end Address

end AdmissionLedger
