import AdmissionLedger.Text.Case

/-!
# Case and ASCII

The case mappings change ASCII letters to ASCII letters and leave the rest of ASCII as it
is.  A few letters beyond ASCII have images made of ASCII letters, such as the long s, the
sign of the kelvin and the ligatures of f, but in each of them is an f, an i, a k or an s.
So a word without these four is the upper case of a text, or its folded form, exactly if
the text is that word up to the case of ASCII letters.

## Main definitions

* `CaseTable.KeepsOut` — beyond ASCII no image consists of certain ASCII characters only.
* `CodePoint.IsPlain` — ASCII without the four letters.

## Main results

* `CaseTable.exists_mem_images` — what is in the images beyond ASCII, from a check of the tables.
* `Text.flatMap_eq_iff` — words that are recognized through a mapping.
* `Text.upper_eq_iff`, `Text.fold_eq_iff` — the same for the two mappings.
* `Text.fold_eq_fold_iff` — for plain words both mappings recognize the same texts.
-/

namespace AdmissionLedger

/-! ### Tables -/

namespace CaseTable

/-- If only the first row of a mapping is about ASCII, that row decides what ASCII is mapped to. -/
theorem images_of_lt {ranges : List CaseRange} {expansions : List CaseExpansion} {r : CaseRange}
    (hfirst : ranges.head? = some r) (hranges : ∀ r ∈ ranges.tail, 0x80 ≤ r.first)
    (hexpansions : ∀ row ∈ expansions, 0x80 ≤ row.source) {n : Nat} (hn : n < 0x80) :
    images ranges expansions n = [(r.image? n).getD n] := by
  have hfind : expansions.find? (·.source == n) = none := by
    refine List.find?_eq_none.mpr fun row hrow heq => ?_
    have hsource := hexpansions row hrow
    rw [beq_iff_eq] at heq
    omega
  have htail : ranges.tail.findSome? (·.image? n) = none := by
    refine List.findSome?_eq_none_iff.mpr fun row hrow => ?_
    have hrange := hranges row hrow
    rw [CaseRange.image?, if_neg]
    simp
    omega
  obtain ⟨rest, rfl⟩ := List.head?_eq_some_iff.mp hfirst
  rw [images, hfind, List.findSome?_cons]
  rw [List.tail_cons] at htail
  cases himage : r.image? n with
  | some image => rfl
  | none => simp only [htail]

/-- Every image that a mapping gives beyond ASCII holds something without a property that only ASCII
characters have.  This is asked row by row, so that it can be found out by going through the
tables. -/
structure KeepsOut (ranges : List CaseRange) (expansions : List CaseExpansion)
    (P : CodePoint → Prop) : Prop where
  ascii : ∀ c, P c → c.val < 0x80
  expansions : ∀ row ∈ expansions, ∃ n ∈ row.images, ¬ P (.ofNat n)
  /-- A row is about ASCII, or about one code point, or its images are beyond ASCII too. -/
  ranges : ∀ r ∈ ranges, r.last < 0x80 ∨ r.first = r.last ∧ ¬ P (.ofNat r.image) ∨
    0x80 ≤ r.image ∧ r.image + (r.last - r.first) < 0x110000

variable {ranges : List CaseRange} {expansions : List CaseExpansion} {P : CodePoint → Prop}

theorem KeepsOut.not_ofNat (h : KeepsOut ranges expansions P) {n : Nat} (hlow : 0x80 ≤ n)
    (hhigh : n < 0x110000) : ¬ P (.ofNat n) := by
  intro hp
  have hascii := h.ascii _ hp
  rw [CodePoint.ofNat, dif_pos hhigh] at hascii
  exact absurd hascii (Nat.not_lt.mpr hlow)

/-- Beyond ASCII every image holds something without the property. -/
theorem exists_mem_images (h : KeepsOut ranges expansions P) {c : CodePoint} (hc : 0x80 ≤ c.val) :
    ∃ d ∈ (images ranges expansions c.val).map CodePoint.ofNat, ¬ P d := by
  unfold images
  split
  · next row hrow =>
    obtain ⟨n, hn, hnot⟩ := h.expansions row (List.mem_of_find?_eq_some hrow)
    exact ⟨.ofNat n, List.mem_map_of_mem hn, hnot⟩
  · refine ⟨_, List.mem_map_of_mem List.mem_cons_self, ?_⟩
    cases hrange : ranges.findSome? (·.image? c.val) with
    | none => exact h.not_ofNat hc c.isLt
    | some n =>
      obtain ⟨r, hr, himage⟩ := List.exists_of_findSome?_eq_some hrange
      rw [CaseRange.image?, Option.ite_none_right_eq_some] at himage
      obtain ⟨hin, heq⟩ := himage
      cases heq
      simp only [Bool.and_eq_true, decide_eq_true_eq] at hin
      obtain ⟨⟨hfirst, hlast⟩, -⟩ := hin
      rw [Option.getD_some]
      rcases h.ranges r hr with hlt | ⟨hone, hnot⟩ | ⟨hlow, hhigh⟩
      · omega
      · rwa [Nat.sub_eq_zero_of_le (by omega)]
      · exact h.not_ofNat (by omega) (by omega)

end CaseTable

/-! ### Single code points -/

namespace CodePoint

/-- An ASCII character other than the letters f, i, k and s. -/
def IsPlain (c : CodePoint) : Prop :=
  c.val < 0x80 ∧ c.val ∉ [0x46, 0x49, 0x4B, 0x53, 0x66, 0x69, 0x6B, 0x73]

instance (c : CodePoint) : Decidable c.IsPlain :=
  inferInstanceAs (Decidable (_ ∧ _))

theorem upperAscii_of_le {c : CodePoint} (h : 0x80 ≤ c.val) : c.upperAscii = c :=
  if_neg (by simp; omega)

theorem lowerAscii_of_le {c : CodePoint} (h : 0x80 ≤ c.val) : c.lowerAscii = c :=
  if_neg (by simp; omega)

/-- What is so of all ASCII characters, number by number, is so of one of them. -/
theorem of_forall_lt {P : CodePoint → Prop} (h : ∀ n < 0x80, P (ofNat n)) {c : CodePoint}
    (hc : c.val < 0x80) : P c := by
  have hself : ofNat c.val = c := dif_pos c.isLt
  rw [← hself]
  exact h c.val hc

/-- A row about the small letters of ASCII gives their upper case. -/
theorem ofNat_image_small {c : CodePoint} (h : c.val < 0x80) :
    ofNat (((⟨0x61, 0x7A, 1, 0x41⟩ : CaseRange).image? c.val).getD c.val) = c.upperAscii :=
  of_forall_lt (P := fun c => ofNat (((⟨0x61, 0x7A, 1, 0x41⟩ : CaseRange).image? c.val).getD c.val)
    = c.upperAscii) (by decide +kernel) h

/-- A row about the capitals of ASCII gives their lower case. -/
theorem ofNat_image_capital {c : CodePoint} (h : c.val < 0x80) :
    ofNat (((⟨0x41, 0x5A, 1, 0x61⟩ : CaseRange).image? c.val).getD c.val) = c.lowerAscii :=
  of_forall_lt (P := fun c => ofNat (((⟨0x41, 0x5A, 1, 0x61⟩ : CaseRange).image? c.val).getD c.val)
    = c.lowerAscii) (by decide +kernel) h

/-- On ASCII the full upper case is the one for ASCII. -/
theorem upper_of_lt {c : CodePoint} (h : c.val < 0x80) : c.upper = [c.upperAscii] := by
  rw [upper, CaseTable.images_of_lt rfl (by decide +kernel) (by decide +kernel) h,
    List.map_singleton, ofNat_image_small h]

/-- On ASCII case folding gives the lower case of ASCII letters. -/
theorem fold_of_lt {c : CodePoint} (h : c.val < 0x80) : c.fold = [c.lowerAscii] := by
  rw [fold, CaseTable.images_of_lt rfl (by decide +kernel) (by decide +kernel) h,
    List.map_singleton, ofNat_image_capital h]

/-- Beyond ASCII no upper case is plain. -/
theorem exists_mem_upper {c : CodePoint} (h : 0x80 ≤ c.val) : ∃ d ∈ c.upper, ¬ d.IsPlain :=
  CaseTable.exists_mem_images ⟨fun _ => And.left, by decide +kernel, by decide +kernel⟩ h

/-- Beyond ASCII nothing folds to a plain text. -/
theorem exists_mem_fold {c : CodePoint} (h : 0x80 ≤ c.val) : ∃ d ∈ c.fold, ¬ d.IsPlain :=
  CaseTable.exists_mem_images ⟨fun _ => And.left, by decide +kernel, by decide +kernel⟩ h

theorem lowerAscii_upperAscii (c : CodePoint) : c.upperAscii.lowerAscii = c.lowerAscii := by
  by_cases hc : c.val < 0x80
  · exact of_forall_lt (P := fun c => c.upperAscii.lowerAscii = c.lowerAscii)
      (by decide +kernel) hc
  · rw [upperAscii_of_le (Nat.not_lt.mp hc)]

theorem upperAscii_lowerAscii (c : CodePoint) : c.lowerAscii.upperAscii = c.upperAscii := by
  by_cases hc : c.val < 0x80
  · exact of_forall_lt (P := fun c => c.lowerAscii.upperAscii = c.upperAscii)
      (by decide +kernel) hc
  · rw [lowerAscii_of_le (Nat.not_lt.mp hc)]

theorem IsPlain.lowerAscii {c : CodePoint} (h : c.IsPlain) : c.lowerAscii.IsPlain :=
  of_forall_lt (P := fun c => c.IsPlain → c.lowerAscii.IsPlain) (by decide +kernel) h.1 h

end CodePoint

/-! ### Words -/

namespace Text

/-- A mapping that is point by point on ASCII, and beyond it gives no images in which all is as in
the words, recognizes the words that its ASCII part recognizes. -/
theorem flatMap_eq_iff {image : CodePoint → Text} {single : CodePoint → CodePoint}
    {P : CodePoint → Prop} (hascii : ∀ c, c.val < 0x80 → image c = [single c])
    (himage : ∀ c, 0x80 ≤ c.val → ∃ d ∈ image c, ¬ P d)
    (hsingle : ∀ c, 0x80 ≤ c.val → ¬ P (single c)) {word : Text} (hword : ∀ c ∈ word, P c)
    {t : Text} : t.flatMap image = word ↔ t.map single = word := by
  induction t generalizing word with
  | nil => rfl
  | cons c t ih =>
    rw [List.flatMap_cons, List.map_cons]
    by_cases hc : c.val < 0x80
    · rw [hascii c hc, List.singleton_append]
      cases word with
      | nil => simp
      | cons d word =>
        rw [List.forall_mem_cons] at hword
        rw [List.cons.injEq, List.cons.injEq, ih hword.2]
    · -- neither side begins like a word
      have hbeyond := Nat.not_lt.mp hc
      refine iff_of_false ?_ ?_
      · rintro rfl
        obtain ⟨d, hd, hnot⟩ := himage c hbeyond
        exact hnot (hword d (List.mem_append_left _ hd))
      · rintro rfl
        exact hsingle c hbeyond (hword _ List.mem_cons_self)

variable {s t word : Text}

/-- A plain word is the upper case of a text exactly if it is so for ASCII letters alone. -/
theorem upper_eq_iff (hword : ∀ c ∈ word, c.IsPlain) : t.upper = word ↔ t.upperAscii = word :=
  flatMap_eq_iff (fun _ => CodePoint.upper_of_lt) (fun _ => CodePoint.exists_mem_upper)
    (fun c hc hplain => by
      rw [CodePoint.upperAscii_of_le hc] at hplain
      exact Nat.not_lt.mpr hc hplain.1) hword

/-- A text folds to a plain word exactly if it does so with ASCII letters alone folded. -/
theorem fold_eq_iff (hword : ∀ c ∈ word, c.IsPlain) : t.fold = word ↔ t.lowerAscii = word :=
  flatMap_eq_iff (fun _ => CodePoint.fold_of_lt) (fun _ => CodePoint.exists_mem_fold)
    (fun c hc hplain => by
      rw [CodePoint.lowerAscii_of_le hc] at hplain
      exact Nat.not_lt.mpr hc hplain.1) hword

/-- Texts are the same up to the case of ASCII letters whichever case is taken. -/
theorem lowerAscii_eq_iff : s.lowerAscii = t.lowerAscii ↔ s.upperAscii = t.upperAscii := by
  have hlower (t : Text) : t.upperAscii.lowerAscii = t.lowerAscii := by
    rw [lowerAscii, upperAscii, List.map_map]
    exact List.map_congr_left fun c _ => c.lowerAscii_upperAscii
  have hupper (t : Text) : t.lowerAscii.upperAscii = t.upperAscii := by
    rw [upperAscii, lowerAscii, List.map_map]
    exact List.map_congr_left fun c _ => c.upperAscii_lowerAscii
  constructor
  · intro h
    rw [← hupper s, h, hupper]
  · intro h
    rw [← hlower s, h, hlower]

theorem isPlain_lowerAscii (hword : ∀ c ∈ word, c.IsPlain) : ∀ c ∈ word.lowerAscii, c.IsPlain :=
  List.forall_mem_map.mpr fun c hc => (hword c hc).lowerAscii

/-- A text and a plain word fold alike exactly if they are the same up to the case of ASCII
letters. -/
theorem fold_eq_fold_iff (hword : ∀ c ∈ word, c.IsPlain) :
    t.fold = word.fold ↔ t.upperAscii = word.upperAscii := by
  have hfold : word.fold = word.lowerAscii := (fold_eq_iff (isPlain_lowerAscii hword)).mpr rfl
  rw [hfold, fold_eq_iff (isPlain_lowerAscii hword), lowerAscii_eq_iff]

end Text

end AdmissionLedger
