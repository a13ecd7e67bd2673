import AdmissionLedger.Rules.Glob
import Mathlib.Data.List.Forall2

/-!
# What a pattern matches

A pattern matches a value if the value falls into consecutive pieces, one for each code
point of the pattern: any piece for a star, and for any other code point that code point
alone.  The search finds such pieces whenever there are some, though of stars in a row it
gives a piece to the last alone, and to a star at the end whatever is left.

## Main definitions

* `Glob.Stands` — what a code point of a pattern may stand for.

## Main results

* `Glob.matches_iff_exists_pieces` — the rules of matching are about pieces.
* `Glob.search_iff_matches` — the search decides whether a pattern matches.
* `Glob.accepts_iff_exists_pieces` — and so does the comparison of a pattern without stars.
-/

namespace AdmissionLedger.Glob

variable {pattern value : Text} {c : CodePoint}

/-! ### Matching, by the first code point of the pattern -/

theorem matches_nil_iff : Matches [] value ↔ value = [] := by
  constructor
  · rintro ⟨⟩
    rfl
  · rintro rfl
    exact .nil

theorem matches_star_iff : Matches (star :: pattern) value ↔
    ∃ piece rest, piece ++ rest = value ∧ Matches pattern rest := by
  constructor
  · intro h
    cases h with
    | star piece hrest => exact ⟨piece, _, rfl, hrest⟩
    | literal _ hc => exact absurd rfl hc
  · rintro ⟨piece, rest, rfl, hrest⟩
    exact .star piece hrest

theorem matches_literal_iff (hc : c ≠ star) :
    Matches (c :: pattern) value ↔ ∃ rest, c :: rest = value ∧ Matches pattern rest := by
  constructor
  · intro h
    cases h with
    | star => exact absurd rfl hc
    | literal _ _ hrest => exact ⟨_, rfl, hrest⟩
  · rintro ⟨rest, rfl, hrest⟩
    exact .literal c hc hrest

/-- A star at the end takes all that is left. -/
theorem matches_lone_star (value : Text) : Matches [star] value :=
  matches_star_iff.mpr ⟨value, [], List.append_nil value, .nil⟩

/-- Of two stars in a row the second may have the pieces of both. -/
theorem matches_star_star_iff :
    Matches (star :: star :: pattern) value ↔ Matches (star :: pattern) value := by
  constructor
  · intro h
    obtain ⟨first, middle, rfl, hmiddle⟩ := matches_star_iff.mp h
    obtain ⟨second, rest, rfl, hrest⟩ := matches_star_iff.mp hmiddle
    exact matches_star_iff.mpr ⟨first ++ second, rest, List.append_assoc first second rest, hrest⟩
  · intro h
    exact matches_star_iff.mpr ⟨[], value, rfl, h⟩

/-! ### Pieces -/

/-- What a code point of a pattern may stand for: a star for any piece, another for itself. -/
def Stands (c : CodePoint) (piece : Text) : Prop :=
  c = star ∨ piece = [c]

/-- A pattern matches the values that fall into pieces for its code points. -/
theorem matches_iff_exists_pieces : Matches pattern value ↔
    ∃ pieces, List.Forall₂ Stands pattern pieces ∧ pieces.flatten = value := by
  constructor
  · intro h
    induction h with
    | nil => exact ⟨[], .nil, rfl⟩
    | star piece _ ih =>
      obtain ⟨pieces, hpieces, rfl⟩ := ih
      exact ⟨piece :: pieces, .cons (.inl rfl) hpieces, rfl⟩
    | literal c hc _ ih =>
      obtain ⟨pieces, hpieces, rfl⟩ := ih
      exact ⟨[c] :: pieces, .cons (.inr rfl) hpieces, rfl⟩
  · rintro ⟨pieces, hpieces, rfl⟩
    induction hpieces with
    | nil => exact .nil
    | @cons c piece pattern pieces hstands _ ih =>
      by_cases hc : c = star
      · rw [hc]
        exact .star piece ih
      · rw [hstands.resolve_left hc]
        exact .literal c hc ih

/-- A pattern without stars matches itself alone. -/
theorem matches_iff_eq_of_not_mem (h : star ∉ pattern) :
    Matches pattern value ↔ value = pattern := by
  induction pattern generalizing value with
  | nil => exact matches_nil_iff
  | cons c pattern ih =>
    rw [List.mem_cons, not_or] at h
    rw [matches_literal_iff fun hc => h.1 hc.symm]
    constructor
    · rintro ⟨rest, rfl, hrest⟩
      rw [(ih h.2).mp hrest]
    · rintro rfl
      exact ⟨pattern, rfl, (ih h.2).mpr rfl⟩

/-! ### The search -/

theorem anySuffix_iff {test : Text → Bool} :
    anySuffix test value = true ↔ ∃ piece rest, piece ++ rest = value ∧ test rest = true := by
  induction value with
  | nil =>
    rw [anySuffix]
    constructor
    · intro h
      exact ⟨[], [], rfl, h⟩
    · rintro ⟨piece, rest, hnil, h⟩
      rwa [(List.append_eq_nil_iff.mp hnil).2] at h
  | cons c value ih =>
    rw [anySuffix, Bool.or_eq_true, ih]
    constructor
    · rintro (h | ⟨piece, rest, rfl, h⟩)
      · exact ⟨[], c :: value, rfl, h⟩
      · exact ⟨c :: piece, rest, rfl, h⟩
    · rintro ⟨piece, rest, hcons, h⟩
      -- the rest is the whole, or it begins behind the first code point
      cases piece with
      | nil =>
        rw [List.nil_append] at hcons
        exact .inl (hcons ▸ h)
      | cons d piece =>
        rw [List.cons_append, List.cons.injEq] at hcons
        exact .inr ⟨piece, rest, hcons.2, h⟩

/-- The search decides whether a pattern matches. -/
theorem search_iff_matches : search pattern value = true ↔ Matches pattern value := by
  induction pattern generalizing value with
  | nil => rw [search, List.isEmpty_iff, matches_nil_iff]
  | cons c pattern ih =>
    rw [search.eq_def]
    by_cases hc : c = star
    · rw [hc]
      simp only [if_true]
      -- a star at the end, a star before another one, and a star before something else
      cases pattern with
      | nil => simp [matches_lone_star]
      | cons d pattern =>
        dsimp only
        split
        · next hd => rw [ih, hd, matches_star_star_iff]
        · rw [anySuffix_iff, matches_star_iff]
          simp only [ih]
    · rw [matches_literal_iff hc]
      simp only [if_neg hc]
      cases value with
      | nil => simp
      | cons d value =>
        simp only [Bool.and_eq_true, decide_eq_true_eq, ih, List.cons.injEq]
        constructor
        · rintro ⟨rfl, h⟩
          exact ⟨value, ⟨rfl, rfl⟩, h⟩
        · rintro ⟨rest, ⟨rfl, rfl⟩, h⟩
          exact ⟨rfl, h⟩

/-- A pattern accepts exactly the values that fall into pieces, one for each of its code points: any
piece for a star, the code point itself for another.  The search finds out the same with or without
stars, and so does the comparison with a pattern without. -/
theorem accepts_iff_exists_pieces (pattern value : Text) :
    (accepts pattern value = true ↔
      ∃ pieces, List.Forall₂ Stands pattern pieces ∧ pieces.flatten = value) ∧
    (search pattern value = true ↔
      ∃ pieces, List.Forall₂ Stands pattern pieces ∧ pieces.flatten = value) ∧
    (star ∉ pattern → ((value == pattern) = true ↔
      ∃ pieces, List.Forall₂ Stands pattern pieces ∧ pieces.flatten = value)) := by
  have hsearch : search pattern value = true ↔
      ∃ pieces, List.Forall₂ Stands pattern pieces ∧ pieces.flatten = value :=
    search_iff_matches.trans matches_iff_exists_pieces
  have hcompare : star ∉ pattern → ((value == pattern) = true ↔
      ∃ pieces, List.Forall₂ Stands pattern pieces ∧ pieces.flatten = value) := fun hstar =>
    beq_iff_eq.trans ((matches_iff_eq_of_not_mem hstar).symm.trans matches_iff_exists_pieces)
  refine ⟨?_, hsearch, hcompare⟩
  unfold accepts
  split
  · exact hsearch
  · next hstar => exact hcompare fun hmem => hstar (List.contains_iff_mem.mpr hmem)

/-- Stars take anything, also nothing, while a question mark takes only itself. -/
theorem accepts_iff_exists_pieces_questionMark :
    (∃ pieces, List.Forall₂ Stands "*a?**" pieces ∧ pieces.flatten = Text.ofString "a?\n") ∧
      (¬ ∃ pieces, List.Forall₂ Stands "*a?**" pieces ∧ pieces.flatten = Text.ofString "abc") ∧
      star ∉ Text.ofString "a?" ∧
      ¬ ∃ pieces, List.Forall₂ Stands "a?" pieces ∧ pieces.flatten = Text.ofString "ab" := by
  have hstar : star ∉ Text.ofString "a?" := by decide
  rw [← (accepts_iff_exists_pieces "*a?**" "a?\n").1, ← (accepts_iff_exists_pieces "*a?**" "abc").1,
    ← (accepts_iff_exists_pieces "a?" "ab").2.2 hstar]
  exact ⟨by decide, by decide, hstar, by decide⟩

end AdmissionLedger.Glob
