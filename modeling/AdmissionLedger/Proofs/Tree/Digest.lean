import AdmissionLedger.Proofs.Json.Sorted
import AdmissionLedger.Proofs.Text.Utf8
import AdmissionLedger.Proofs.Tree.Redaction

/-!
# What a digest tells of a value

Unless SHA-256 collides, two values have one digest exactly if one text is hashed for
them.  That text does not tell all values apart that differ: what a text spells out may
be another value, all values with a number that is not finite share a marker, and in
ASCII two surrogates are the code point that they stand for.  And it tells apart some
values that are equal, for a number is hashed as it is written.

## Main definitions

* `Tree.hashText` — the text that is hashed for a value.
* `Tree.HashedApart` — SHA-256 does not collide on two values.
* `Tree.Mistaken` — two values differ, and one text is hashed for them.
* `Tree.Respelled` — two values are equal, and two texts are hashed for them.

## Main results

* `Tree.digest_eq_iff` — two values have one digest exactly if one text is hashed for them.
* `Tree.mistaken_iff`, `Tree.respelled_iff` — these are all values that digests tell wrongly.
* `Tree.digest_eq_iff_mistaken_or` — when two values have one digest, said of the values.
-/

namespace AdmissionLedger

/-! ### Digests of bytes -/

namespace Sha256

/-- A byte is told by its two digits, whatever follows them. -/
theorem paddedHex_append_inj (b c : UInt8) (rest rest' : Text)
    (h : Text.paddedHex 2 b.toNat ++ rest = Text.paddedHex 2 c.toNat ++ rest') :
    b = c ∧ rest = rest' := by
  have hlength : ∀ b : UInt8, (Text.paddedHex 2 b.toNat).length = 2 :=
    fun b => Text.length_paddedHex (by decide) b.toNat_lt
  obtain ⟨hdigits, hrest⟩ := List.append_inj h ((hlength b).trans (hlength c).symm)
  have hvalue := Text.paddedHex_injective (by decide) b.toNat_lt c.toNat_lt hdigits
  exact ⟨UInt8.toNat_inj.mp hvalue, hrest⟩

theorem paddedHex_byte_ne_nil (b : UInt8) : Text.paddedHex 2 b.toNat ≠ [] := by
  rw [Text.paddedHex_succ (by decide)]
  exact List.append_ne_nil_of_right_ne_nil _ (List.cons_ne_nil _ _)

theorem hex_eq_hex_iff {bytes bytes' : Bytes} :
    hex bytes = hex bytes' ↔ hash bytes = hash bytes' :=
  (flatMap_injective paddedHex_byte_ne_nil paddedHex_append_inj).eq_iff

end Sha256

theorem Payload.digestBytes_eq_digestBytes_iff {bytes bytes' : Bytes} :
    digestBytes bytes = digestBytes bytes' ↔ Sha256.hash bytes = Sha256.hash bytes' := by
  rw [digestBytes, digestBytes, List.append_cancel_left_eq, Sha256.hex_eq_hex_iff]

namespace Tree

/-! ### The text that is hashed -/

/-- Whether a tree is a text. -/
def isText : Tree → Bool
  | .str _ => true
  | _ => false

/-- The text that is hashed for a value: a text itself, the canonical text of any other value, or
the marker in its place. -/
def hashText : Tree → Text
  | .str t => t
  | t => if t.isFinite then t.canonicalText else Payload.errorMarker notFiniteMessage

theorem hashText_of_not_isText {t : Tree} (h : t.isText = false) : t.hashText =
    if t.isFinite then t.canonicalText else Payload.errorMarker notFiniteMessage := by
  cases t with
  | str t => cases h
  | _ => rfl

theorem exists_str_of_isText {t : Tree} (h : t.isText = true) : ∃ s, t = .str s := by
  cases t with
  | str s => exact ⟨s, rfl⟩
  | _ => cases h

/-- What is hashed for a value are the bytes of its text. -/
theorem hashInput_eq_encodeUtf8 (t : Tree) :
    (Payload.tree t).hashInput = t.hashText.encodeUtf8 := by
  cases htext : t.isText with
  | true =>
    obtain ⟨s, rfl⟩ := exists_str_of_isText htext
    rfl
  | false =>
    rw [hashText_of_not_isText htext]
    cases hfinite : t.isFinite with
    | true =>
      simp only [Payload.hashInput, Payload.unencodable?, hfinite, if_true]
      cases t with
      | str s => cases htext
      | _ => rfl
    | false => simp only [Payload.hashInput, Payload.unencodable?, hfinite, Bool.false_eq_true,
        if_false]

/-- SHA-256 gives two values different digests unless the same bytes are hashed for them. -/
def HashedApart (p q : Tree) : Prop :=
  ∀ bytes bytes', (Payload.tree p).hashInput = .ok bytes → (Payload.tree q).hashInput = .ok bytes' →
    Sha256.hash bytes = Sha256.hash bytes' → bytes = bytes'

theorem HashedApart.refl (p : Tree) : HashedApart p p :=
  fun _ _ h h' _ => Except.ok.inj (h.symm.trans h')

/-- Two values have one digest exactly if one text is hashed for them. -/
theorem digest_eq_iff {p q : Tree} (hp : p.isHashable = true) (hq : q.isHashable = true)
    (hapart : HashedApart p q) : p.digest = q.digest ↔ p.hashText = q.hashText := by
  obtain ⟨d, hd⟩ := (exists_digest_iff p).mpr hp
  obtain ⟨d', hd'⟩ := (exists_digest_iff q).mpr hq
  obtain ⟨bytes, hbytes, rfl⟩ := Except.map_eq_ok_iff.mp hd
  obtain ⟨bytes', hbytes', rfl⟩ := Except.map_eq_ok_iff.mp hd'
  have hsame : bytes = bytes' ↔ p.hashText = q.hashText := by
    rw [hashInput_eq_encodeUtf8] at hbytes hbytes'
    constructor
    · rintro rfl
      exact Text.encodeUtf8_injective hbytes hbytes'
    · intro h
      rw [h, hbytes'] at hbytes
      exact (Except.ok.inj hbytes).symm
  rw [hd, hd', Except.ok.injEq, Payload.digestBytes_eq_digestBytes_iff, ← hsame]
  exact ⟨hapart bytes bytes' hbytes hbytes', congrArg Sha256.hash⟩

/-! ### Values that digests tell wrongly -/

/-- Two values differ, and one text is hashed for them. -/
inductive Mistaken (p q : Tree) : Prop
  /-- One of them is a text, and just what is hashed for the other. -/
  | spelled (htext : p.isText ≠ q.isText) (h : p.hashText = q.hashText)
  /-- Both are hashed by the marker. -/
  | marked (hp : p.isFinite = false) (hq : q.isFinite = false) (h : deepEqual p q = false)
  /-- Where one has two surrogates the other has the code point that they stand for. -/
  | joined (htext : p.isText = false) (hp : p.isFinite = true) (hq : q.isFinite = true)
      (hunits : p.sortKeys.units = q.sortKeys.units) (h : deepEqual p q = false)

/-- Two values are equal, but not the same up to the order of keys: they hold numbers of equal value
that are not the same, as an integer and a double are, or the two zeros. -/
structure Respelled (p q : Tree) : Prop where
  finite : p.isFinite = true
  equal : deepEqual p q = true
  differ : p.sortKeys ≠ q.sortKeys

section

variable {p q : Tree}

theorem isText_eq_of_units (h : p.sortKeys.units = q.sortKeys.units) : p.isText = q.isText := by
  have hunits : ∀ t : Tree, t.sortKeys.units.isText = t.isText := by
    intro t
    cases t <;> rfl
  rw [← hunits p, h, hunits]

theorem isText_of_isFinite_eq_false (h : p.isFinite = false) : p.isText = false := by
  cases p with
  | str t => cases h
  | _ => rfl

theorem isText_eq_of_deepEqual (h : deepEqual p q = true) : p.isText = q.isText := by
  cases p <;> cases q <;> first | rfl | cases h

/-- Texts are equal exactly if the same is hashed for them. -/
theorem deepEqual_iff_hashText_eq (hp : p.isText = true) (hq : q.isText = true) :
    deepEqual p q = true ↔ p.hashText = q.hashText := by
  obtain ⟨s, rfl⟩ := exists_str_of_isText hp
  obtain ⟨t, rfl⟩ := exists_str_of_isText hq
  rw [deepEqual, scalarEqual, beq_iff_eq]
  rfl

/-- A canonical text does not begin like the marker. -/
theorem canonicalText_ne_errorMarker (hp : p.isFinite = true) :
    p.canonicalText ≠ Payload.errorMarker notFiniteMessage := by
  intro h
  have hopen : formOf? (↑ '<') = none := by decide
  have hne := write_append_ne_cons ((isFinite_sortKeys p).trans hp) hopen []
    (Text.ofString "hash-error:" ++ notFiniteMessage ++ ">")
  rw [List.append_nil] at hne
  exact hne h

variable (hp : p.AsRead) (hq : q.AsRead)

include hp hq

/-- For two values that are no texts, one text is hashed if neither is finite, or if both are and
have the same units. -/
theorem hashText_eq_iff (htext : p.isText = false) (htext' : q.isText = false) :
    p.hashText = q.hashText ↔ p.isFinite = q.isFinite ∧
      (p.isFinite = true → p.sortKeys.units = q.sortKeys.units) := by
  rw [hashText_of_not_isText htext, hashText_of_not_isText htext']
  cases hfinite : p.isFinite with
  | true =>
    cases hfinite' : q.isFinite with
    | true =>
      simp only [if_true, true_and, forall_const]
      exact write_eq_write_iff ((isFinite_sortKeys p).trans hfinite)
        ((isFinite_sortKeys q).trans hfinite') (normalNumbers_sortKeys hp.normal)
        (normalNumbers_sortKeys hq.normal)
    | false => simp [canonicalText_ne_errorMarker hfinite]
  | false =>
    cases hfinite' : q.isFinite with
    | true => simp [(canonicalText_ne_errorMarker hfinite').symm]
    | false => simp

/-- For two equal values, one text is hashed if they have the same units or are not finite. -/
theorem hashText_eq_iff_of_deepEqual (h : deepEqual p q = true) : p.hashText = q.hashText ↔
    (p.isFinite = true → p.sortKeys.units = q.sortKeys.units) := by
  have htext := isText_eq_of_deepEqual h
  cases hp' : p.isText with
  | true =>
    obtain ⟨s, rfl⟩ := exists_str_of_isText hp'
    obtain ⟨t, rfl⟩ := exists_str_of_isText (htext.symm.trans hp')
    rw [deepEqual, scalarEqual, beq_iff_eq] at h
    simp [h]
  | false =>
    rw [hashText_eq_iff hp hq hp' (htext.symm.trans hp'),
      and_iff_right (isFinite_eq_of_deepEqual hp.distinct hq.distinct h)]

/-- Two values are mistaken exactly if one text is hashed for them though they differ. -/
theorem mistaken_iff : Mistaken p q ↔ p.hashText = q.hashText ∧ deepEqual p q = false := by
  constructor
  · intro h
    cases h with
    | spelled htext h =>
      exact ⟨h, Bool.eq_false_iff.mpr fun he => htext (isText_eq_of_deepEqual he)⟩
    | marked hfinite hfinite' h =>
      refine ⟨(hashText_eq_iff hp hq (isText_of_isFinite_eq_false hfinite)
        (isText_of_isFinite_eq_false hfinite')).mpr ⟨hfinite.trans hfinite'.symm, ?_⟩, h⟩
      rw [hfinite]
      exact nofun
    | joined htext hfinite hfinite' hunits h =>
      exact ⟨(hashText_eq_iff hp hq htext ((isText_eq_of_units hunits).symm.trans htext)).mpr
        ⟨hfinite.trans hfinite'.symm, fun _ => hunits⟩, h⟩
  · rintro ⟨h, hne⟩
    by_cases htext : p.isText = q.isText
    · cases hp' : p.isText with
      | true =>
        rw [(deepEqual_iff_hashText_eq hp' (htext.symm.trans hp')).mpr h] at hne
        cases hne
      | false =>
        obtain ⟨hfinite, hunits⟩ := (hashText_eq_iff hp hq hp' (htext.symm.trans hp')).mp h
        cases hfinite' : p.isFinite with
        | true => exact .joined hp' hfinite' (hfinite.symm.trans hfinite') (hunits hfinite') hne
        | false => exact .marked hfinite' (hfinite.symm.trans hfinite') hne
    · exact .spelled htext h

/-- A text is mistaken for the number that it spells. -/
example : Mistaken (.str "1") (.int 1) := .spelled (by decide) (by decide)

/-- Two values are respelled exactly if two texts are hashed for them though they are equal. -/
theorem respelled_iff : Respelled p q ↔ p.hashText ≠ q.hashText ∧ deepEqual p q = true := by
  constructor
  · rintro ⟨hfinite, hequal, hdiffer⟩
    refine ⟨fun h => hdiffer ?_, hequal⟩
    have hunits := (hashText_eq_iff_of_deepEqual hp hq hequal).mp h hfinite
    exact sortKeys_eq_of_deepEqual hp.distinct hq.distinct hequal hunits
  · rintro ⟨hne, hequal⟩
    rw [ne_eq, hashText_eq_iff_of_deepEqual hp hq hequal, Classical.not_imp] at hne
    exact ⟨hne.1, hequal, fun h => hne.2 (congrArg units h)⟩

/-- One as an integer is respelled as a double. -/
example : Respelled (.int 1) (.float (.finite false (2 ^ 52) (-52))) :=
  ⟨rfl, by decide, nofun⟩

/-- Two values have one digest exactly if they are mistaken, or equal and not respelled. -/
theorem digest_eq_iff_mistaken_or (hhash : p.isHashable = true) (hhash' : q.isHashable = true)
    (hapart : HashedApart p q) :
    p.digest = q.digest ↔ Mistaken p q ∨ deepEqual p q = true ∧ ¬ Respelled p q := by
  rw [digest_eq_iff hhash hhash' hapart, mistaken_iff hp hq, respelled_iff hp hq]
  cases deepEqual p q <;> simp

end

end Tree

end AdmissionLedger
