import AdmissionLedger.Text.CodePoint

/-!
# Pieces of a text

A text is taken apart at a separator in one way only: into pieces without separators that
give the text when they are joined again.

## Main definitions

* `Text.Parted` — the pieces of a text between its separators.

## Main results

* `Text.splitOn_append_separator` — pieces on two sides of a separator.
* `Text.parted_iff` — taking apart finds these pieces and no others.
-/

namespace AdmissionLedger.Text

variable {separator : CodePoint} {t : Text}

/-- Pieces without separators that give a text when they are joined. -/
structure Parted (separator : CodePoint) (t : Text) (pieces : List Text) : Prop where
  nonempty : pieces ≠ []
  plain : ∀ piece ∈ pieces, separator ∉ piece
  joined : join [separator] pieces = t

/-- A text without separators is one piece. -/
theorem splitOn_of_not_mem (h : separator ∉ t) : splitOn separator t = [t] := by
  induction t with
  | nil => rfl
  | cons c rest ih =>
    rw [List.mem_cons, not_or] at h
    rw [splitOn, if_neg fun heq => h.1 heq.symm, ih h.2]

theorem splitOn_ne_nil (separator : CodePoint) (t : Text) : splitOn separator t ≠ [] := by
  cases t with
  | nil => exact List.cons_ne_nil _ _
  | cons c rest =>
    rw [splitOn]
    split
    · exact List.cons_ne_nil _ _
    · split <;> exact List.cons_ne_nil _ _

/-- A text that does not begin with a separator goes into the first of its pieces. -/
theorem splitOn_cons_of_ne {c : CodePoint} (hc : c ≠ separator) (t : Text) :
    ∃ piece pieces, splitOn separator t = piece :: pieces ∧
      splitOn separator (c :: t) = (c :: piece) :: pieces := by
  obtain ⟨piece, pieces, hsplit⟩ := List.exists_cons_of_ne_nil (splitOn_ne_nil separator t)
  refine ⟨piece, pieces, hsplit, ?_⟩
  rw [splitOn, if_neg hc, hsplit]

/-- A separator parts the pieces on its left from those on its right. -/
theorem splitOn_append_separator (separator : CodePoint) (t rest : Text) :
    splitOn separator (t ++ separator :: rest) = splitOn separator t ++ splitOn separator rest := by
  induction t with
  | nil =>
    rw [List.nil_append, splitOn, splitOn, if_pos rfl]
    rfl
  | cons c t ih =>
    obtain ⟨piece, pieces, hsplit⟩ := List.exists_cons_of_ne_nil (splitOn_ne_nil separator t)
    rw [List.cons_append, splitOn, splitOn, ih, hsplit]
    split <;> rfl

theorem subset_of_mem_splitOn {piece : Text} (h : piece ∈ splitOn separator t) : piece ⊆ t := by
  induction t generalizing piece with
  | nil =>
    rw [splitOn, List.mem_singleton] at h
    rw [h]
    exact List.nil_subset _
  | cons c rest ih =>
    by_cases hc : c = separator
    · rw [splitOn, if_pos hc] at h
      rcases List.mem_cons.mp h with rfl | h
      · exact List.nil_subset _
      · exact List.subset_cons_of_subset c (ih h)
    · obtain ⟨first, pieces, hsplit, hcons⟩ := splitOn_cons_of_ne hc rest
      rw [hcons] at h
      rw [hsplit] at ih
      rcases List.mem_cons.mp h with rfl | h
      · exact List.cons_subset_cons c (ih List.mem_cons_self)
      · exact List.subset_cons_of_subset c (ih (List.mem_cons_of_mem _ h))

theorem not_mem_of_mem_splitOn {piece : Text} (h : piece ∈ splitOn separator t) :
    separator ∉ piece := by
  induction t generalizing piece with
  | nil =>
    rw [splitOn, List.mem_singleton] at h
    rw [h]
    exact List.not_mem_nil
  | cons c rest ih =>
    by_cases hc : c = separator
    · rw [splitOn, if_pos hc] at h
      rcases List.mem_cons.mp h with rfl | h
      · exact List.not_mem_nil
      · exact ih h
    · obtain ⟨first, pieces, hsplit, hcons⟩ := splitOn_cons_of_ne hc rest
      rw [hcons] at h
      rw [hsplit] at ih
      rcases List.mem_cons.mp h with rfl | h
      · exact List.not_mem_cons_of_ne_of_not_mem (Ne.symm hc) (ih List.mem_cons_self)
      · exact ih (List.mem_cons_of_mem _ h)

theorem join_cons_of_ne_nil (separator part : Text) {parts : List Text} (h : parts ≠ []) :
    join separator (part :: parts) = part ++ separator ++ join separator parts := by
  obtain ⟨next, rest, rfl⟩ := List.exists_cons_of_ne_nil h
  rfl

theorem join_cons_cons (separator : Text) (c : CodePoint) (part : Text) (parts : List Text) :
    join separator ((c :: part) :: parts) = c :: join separator (part :: parts) := by
  cases parts <;> rfl

/-- Joining the pieces undoes the taking apart. -/
theorem join_splitOn (separator : CodePoint) (t : Text) :
    join [separator] (splitOn separator t) = t := by
  induction t with
  | nil => rfl
  | cons c rest ih =>
    by_cases hc : c = separator
    · rw [splitOn, if_pos hc, join_cons_of_ne_nil _ _ (splitOn_ne_nil separator rest), ih, hc]
      rfl
    · obtain ⟨piece, pieces, hsplit, hcons⟩ := splitOn_cons_of_ne hc rest
      rw [hcons, join_cons_cons, ← hsplit, ih]

/-- Taking apart undoes the joining of pieces without separators. -/
theorem splitOn_join {pieces : List Text} (hne : pieces ≠ [])
    (hplain : ∀ piece ∈ pieces, separator ∉ piece) :
    splitOn separator (join [separator] pieces) = pieces := by
  induction pieces with
  | nil => exact absurd rfl hne
  | cons piece pieces ih =>
    rw [List.forall_mem_cons] at hplain
    cases pieces with
    | nil => exact splitOn_of_not_mem hplain.1
    | cons next rest =>
      have hrest := ih (List.cons_ne_nil next rest) hplain.2
      rw [join_cons_of_ne_nil _ _ (List.cons_ne_nil next rest), List.append_assoc,
        List.singleton_append, splitOn_append_separator, splitOn_of_not_mem hplain.1, hrest]
      rfl

theorem parted_iff {pieces : List Text} :
    Parted separator t pieces ↔ splitOn separator t = pieces := by
  constructor
  · intro h
    rw [← h.joined]
    exact splitOn_join h.nonempty h.plain
  · rintro rfl
    exact ⟨splitOn_ne_nil separator t, fun _ => not_mem_of_mem_splitOn, join_splitOn separator t⟩

end AdmissionLedger.Text
