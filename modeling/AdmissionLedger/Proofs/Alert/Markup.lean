import AdmissionLedger.Alert.Page
import Mathlib.Data.List.Basic

/-!
# Markup and displayed texts

A displayed text is escaped code point by code point: the five code points that mean
something between markup become entities.  So an escaped text holds none of them but
the ampersands with which entities begin, and reading the entities back gives the text
that was displayed.

A page is a frame of markup with holes, filled with escaped texts.  If every hole stands
outside of tags, a reader who looks for tags finds those of the frame, whatever the holes
are filled with.

## Main definitions

* `Page.unescape` — a text with its entities read back.
* `Page.Inert` — a text that is no markup.
* `Page.Scan`, `Page.tags` — the tags of a page, each with its attributes.
* `Page.Frame`, `Page.fill` — markup with holes, and the page that it makes with some texts.

## Main results

* `Page.inert_escape`, `Page.unescape_escape` — what is right about an escaped text.
* `Page.write_eq_fill` — a page is its frame, filled with the escaped displayed texts.
* `Page.tags_fill` — the tags of a filled frame are those of the frame.
-/

namespace AdmissionLedger

theorem CodePoint.eq_of_toChar {c : CodePoint} {x : Char} (hx : x ≠ '\x00')
    (h : c.toChar = x) : c = ↑ x := by
  by_cases hvalid : c.val.isValidChar
  · have hval : (Char.ofNat c.val).toNat = c.val := by
      rw [Char.ofNat, dif_pos hvalid]
      rfl
    cases c
    rw [← h]
    simp only [toChar, ofChar, mk.injEq] at hval ⊢
    exact hval.symm
  · rw [toChar, Char.ofNat, dif_neg hvalid] at h
    exact absurd h.symm hx

namespace Page

/-! ### Entities -/

/-- The entities, with the code points that they stand for. -/
def entities : List (Text × CodePoint) :=
  [("&amp;", ↑ '&'), ("&lt;", ↑ '<'), ("&gt;", ↑ '>'), ("&quot;", .doubleQuote),
    ("&#x27;", .apostrophe)]

/-- A code point becomes its entity, if it has one, and stays as it is otherwise. -/
theorem escapePoint_cases (c : CodePoint) :
    (escapePoint c, c) ∈ entities ∨ escapePoint c = [c] ∧ ∀ entity ∈ entities, entity.2 ≠ c := by
  by_cases hmem : c ∈ entities.map Prod.snd
  · left
    revert hmem
    simp only [entities, List.map_cons, List.map_nil, List.mem_cons, List.not_mem_nil, or_false]
    rintro (rfl | rfl | rfl | rfl | rfl) <;> decide
  · right
    simp only [entities, List.map_cons, List.map_nil, List.mem_cons, List.not_mem_nil, or_false,
      not_or] at hmem
    obtain ⟨hamp, hless, hgreater, hquote, hapostrophe⟩ := hmem
    constructor
    · unfold escapePoint
      split
      · next h => exact absurd (CodePoint.eq_of_toChar (by decide) h) hamp
      · next h => exact absurd (CodePoint.eq_of_toChar (by decide) h) hless
      · next h => exact absurd (CodePoint.eq_of_toChar (by decide) h) hgreater
      · rw [if_neg hquote, if_neg hapostrophe]
    · simp only [entities, List.forall_mem_cons]
      exact ⟨Ne.symm hamp, Ne.symm hless, Ne.symm hgreater, Ne.symm hquote, Ne.symm hapostrophe,
        List.forall_mem_nil _⟩

theorem escape_cons (c : CodePoint) (t : Text) : escape (c :: t) = escapePoint c ++ escape t :=
  List.flatMap_cons

/-! ### Reading entities back -/

/-- The entity with which a text begins, if it begins with one. -/
def entityAt? (t : Text) : Option (Text × CodePoint) :=
  entities.find? fun entity => t.startsWith entity.1

/-- Reads entities back; `passed` code points belong to the one that was read last. -/
def unescapeFrom : (passed : Nat) → Text → Text
  | _, [] => []
  | passed + 1, _ :: rest => unescapeFrom passed rest
  | 0, c :: rest =>
    match entityAt? (c :: rest) with
    | some (entity, shown) => shown :: unescapeFrom (entity.length - 1) rest
    | none => c :: unescapeFrom 0 rest

/-- A text with its entities read back. -/
def unescape (t : Text) : Text :=
  unescapeFrom 0 t

/-- Only an ampersand begins an entity. -/
theorem entityAt?_eq_none {c : CodePoint} (h : c ≠ ↑ '&') (rest : Text) :
    entityAt? (c :: rest) = none := by
  have hstarts : ∀ tail : Text, Text.startsWith (c :: rest) (↑ '&' :: tail) = false := by
    intro tail
    rw [Text.startsWith, List.isPrefixOf_cons_cons, beq_eq_false_iff_ne.mpr (Ne.symm h),
      Bool.false_and]
  refine List.find?_eq_none.mpr ?_
  simp only [entities, List.forall_mem_cons, Bool.not_eq_true]
  exact ⟨hstarts _, hstarts _, hstarts _, hstarts _, hstarts _, List.forall_mem_nil _⟩

/-- An escaped code point is read back, whatever follows it. -/
theorem unescapeFrom_escapePoint (c : CodePoint) (rest : Text) :
    unescapeFrom 0 (escapePoint c ++ rest) = c :: unescapeFrom 0 rest := by
  rcases escapePoint_cases c with h | ⟨h, hne⟩
  · simp only [entities, List.mem_cons, Prod.mk.injEq, List.not_mem_nil, or_false] at h
    rcases h with ⟨h, rfl⟩ | ⟨h, rfl⟩ | ⟨h, rfl⟩ | ⟨h, rfl⟩ | ⟨h, rfl⟩ <;>
      · rw [h]
        rfl
  · have hamp : c ≠ ↑ '&' := fun heq => hne _ (List.mem_cons_self) heq.symm
    rw [h, List.singleton_append, unescapeFrom, entityAt?_eq_none hamp]

/-- Reading the entities of an escaped text back gives the text. -/
theorem unescape_escape (t : Text) : unescape (escape t) = t := by
  rw [unescape]
  induction t with
  | nil => rfl
  | cons c t ih => rw [escape_cons, unescapeFrom_escapePoint, ih]

/-! ### What is left in an escaped text -/

/-- A text that is no markup: no mark of a tag, no quotation mark, and no ampersand but those with
which entities begin. -/
structure Inert (t : Text) : Prop where
  marks : ∀ c ∈ t, c ≠ ↑ '<' ∧ c ≠ ↑ '>' ∧ c ≠ .doubleQuote ∧ c ≠ .apostrophe
  ampersands : ∀ rest : Text, ↑ '&' :: rest <:+ t → ∃ entity ∈ entities, entity.1 <+: ↑ '&' :: rest

theorem suffix_of_suffix_append {tail rest : Text} (htail : ↑ '&' ∉ tail) {t : Text}
    (h : ↑ '&' :: rest <:+ tail ++ t) : ↑ '&' :: rest <:+ t := by
  induction tail with
  | nil => exact h
  | cons c tail ih =>
    rw [List.mem_cons, not_or] at htail
    rcases List.suffix_cons_iff.mp h with h | h
    · exact absurd (List.cons.inj h).1 htail.1
    · exact ih htail.2 h

/-- An entity is no markup, and neither is a code point that has none. -/
theorem Inert.escapePoint_append {t : Text} (h : Inert t) (c : CodePoint) :
    Inert (escapePoint c ++ t) := by
  rcases escapePoint_cases c with hentity | ⟨hplain, hne⟩
  · -- An entity begins with the only ampersand that it holds.
    have hparts : ∀ entity ∈ entities, ∃ tail, entity.1 = ↑ '&' :: tail ∧ ↑ '&' ∉ tail ∧
        ∀ c ∈ entity.1, c ≠ ↑ '<' ∧ c ≠ ↑ '>' ∧ c ≠ .doubleQuote ∧ c ≠ .apostrophe := by
      simp only [entities, List.forall_mem_cons]
      exact ⟨⟨_, rfl, by decide⟩, ⟨_, rfl, by decide⟩, ⟨_, rfl, by decide⟩, ⟨_, rfl, by decide⟩,
        ⟨_, rfl, by decide⟩, List.forall_mem_nil _⟩
    obtain ⟨tail, htext, htail, hmarks⟩ := hparts _ hentity
    change escapePoint c = _ at htext
    refine ⟨List.forall_mem_append.mpr ⟨hmarks, h.marks⟩, fun rest hrest => ?_⟩
    rw [htext] at hrest
    rcases List.suffix_cons_iff.mp hrest with heq | hrest
    · exact ⟨_, hentity, by rw [heq, htext]; exact List.prefix_append _ _⟩
    · exact h.ampersands rest (suffix_of_suffix_append htail hrest)
  · rw [hplain]
    refine ⟨List.forall_mem_cons.mpr ⟨?_, h.marks⟩, fun rest hrest => ?_⟩
    · simp only [entities, List.forall_mem_cons] at hne
      exact ⟨Ne.symm hne.2.1, Ne.symm hne.2.2.1, Ne.symm hne.2.2.2.1, Ne.symm hne.2.2.2.2.1⟩
    · refine h.ampersands rest (suffix_of_suffix_append ?_ hrest)
      rw [List.mem_singleton]
      exact hne _ List.mem_cons_self

/-- An escaped text is no markup. -/
theorem inert_escape (t : Text) : Inert (escape t) := by
  induction t with
  | nil => exact ⟨List.forall_mem_nil _, fun rest h => by cases List.suffix_nil.mp h⟩
  | cons c t ih =>
    rw [escape_cons]
    exact ih.escapePoint_append c

/-! ### Tags -/

/-- Where a reader of a page is: in a text, in a tag, or in a quoted value in a tag; of a tag, what
has been read of it, last first. -/
inductive Scan
  | text
  | tag (done : Text)
  | quoted (mark : CodePoint) (done : Text)
  deriving DecidableEq, Repr

namespace Scan

/-- One code point is read, which may end a tag. -/
def step : Scan → CodePoint → Scan × List Text
  | text, c => if c = ↑ '<' then (tag [c], []) else (text, [])
  | tag done, c =>
    if c = ↑ '>' then (text, [(c :: done).reverse])
    else if c = .doubleQuote || c = .apostrophe then (quoted c (c :: done), [])
    else (tag (c :: done), [])
  | quoted mark done, c => (if c = mark then tag (c :: done) else quoted mark (c :: done), [])

/-- A text is read; the tags that end in it. -/
def run : Scan → Text → Scan × List Text
  | s, [] => (s, [])
  | s, c :: rest =>
    let (s', ended) := s.step c
    let (s'', later) := s'.run rest
    (s'', ended ++ later)

theorem run_append (s : Scan) (t u : Text) :
    s.run (t ++ u) = (((s.run t).1.run u).1, (s.run t).2 ++ ((s.run t).1.run u).2) := by
  induction t generalizing s with
  | nil => rfl
  | cons c t ih => simp only [List.cons_append, run, ih, List.append_assoc]

/-- What is no markup begins no tag. -/
theorem run_text_of_inert {t : Text} (h : Inert t) : text.run t = (text, []) := by
  have hless : ↑ '<' ∉ t := fun hmem => (h.marks _ hmem).1 rfl
  clear h
  induction t with
  | nil => rfl
  | cons c t ih =>
    rw [List.mem_cons, not_or] at hless
    rw [run, step, if_neg (Ne.symm hless.1)]
    simp only [ih hless.2, List.append_nil]

end Scan

/-- The tags of a page, each with its attributes. -/
def tags (t : Text) : List Text :=
  (Scan.text.run t).2

/-! ### Frames -/

/-- Markup with holes. -/
abbrev Frame := List (Option Text)

/-- A part of a page as a part of a frame: a displayed text leaves a hole. -/
def Piece.frame : Piece → Option Text
  | markup t => some t
  | shown _ => none

/-- The text that a part of a page displays. -/
def Piece.shown? : Piece → Option Text
  | markup _ => none
  | shown t => some t

/-- The page that some texts make in the holes of a frame, in order. -/
def fill : Frame → List Text → Text
  | [], _ => []
  | some markup :: rest, texts => markup ++ fill rest texts
  | none :: rest, [] => fill rest []
  | none :: rest, t :: texts => t ++ fill rest texts

/-- A page is its frame, filled with the escaped texts that it displays. -/
theorem write_eq_fill (page : List Piece) :
    write page = fill (page.map Piece.frame) ((page.filterMap Piece.shown?).map escape) := by
  induction page with
  | nil => rfl
  | cons piece page ih =>
    rw [write, List.flatMap_cons, ← write, ih]
    cases piece <;> rfl

/-- There is one hole for each displayed text. -/
theorem count_holes (page : List Piece) :
    (page.map Piece.frame).count none = (page.filterMap Piece.shown?).length := by
  induction page with
  | nil => rfl
  | cons piece page ih =>
    cases piece with
    | markup t =>
      rw [List.map_cons, Piece.frame, List.count_cons_of_ne (by simp), ih]
      rfl
    | shown t =>
      rw [List.map_cons, Piece.frame, List.count_cons_self, ih]
      rfl

namespace Frame

/-- Where a reader is behind a frame, unless there is a hole in a tag. -/
def ending : Scan → Frame → Option Scan
  | s, [] => some s
  | s, some markup :: rest => ending (s.run markup).1 rest
  | s, none :: rest => if s = .text then ending s rest else none

/-- The tags in the markup of a frame. -/
def tagsFrom : Scan → Frame → List Text
  | _, [] => []
  | s, some markup :: rest => (s.run markup).2 ++ tagsFrom (s.run markup).1 rest
  | s, none :: rest => tagsFrom s rest

/-- The frame leads from text to text, and all its holes are there. -/
def Closed (f : Frame) : Prop := f.ending .text = some .text

instance (f : Frame) : Decidable f.Closed :=
  inferInstanceAs (Decidable (f.ending .text = some .text))

theorem ending_append (s : Scan) (f g : Frame) :
    ending s (f ++ g) = (ending s f).bind (ending · g) := by
  induction f generalizing s with
  | nil => rfl
  | cons part f ih =>
    cases part with
    | some markup => exact ih _
    | none =>
      rw [List.cons_append, ending, ending]
      split
      · exact ih s
      · rfl

theorem Closed.append {f g : Frame} (hf : Closed f) (hg : Closed g) : Closed (f ++ g) := by
  rw [Closed, ending_append, hf]
  exact hg

/-- A reader of a filled frame finds the tags of the frame, and ends where the frame ends. -/
theorem run_fill {f : Frame} {s s' : Scan} (h : f.ending s = some s') {texts : List Text}
    (htexts : ∀ t ∈ texts, Inert t) : s.run (fill f texts) = (s', tagsFrom s f) := by
  induction f generalizing s texts with
  | nil =>
    cases h
    rfl
  | cons part f ih =>
    cases part with
    | some markup =>
      rw [fill, Scan.run_append, ih h htexts]
      rfl
    | none =>
      rw [ending, Option.ite_none_right_eq_some] at h
      obtain ⟨rfl, h⟩ := h
      cases texts with
      | nil => exact ih h htexts
      | cons t texts =>
        rw [List.forall_mem_cons] at htexts
        rw [fill, Scan.run_append, Scan.run_text_of_inert htexts.1, ih h htexts.2]
        rfl

end Frame

/-- The tags of a filled frame are those of the frame. -/
theorem tags_fill {f : Frame} (h : f.Closed) {texts : List Text} (htexts : ∀ t ∈ texts, Inert t) :
    tags (fill f texts) = f.tagsFrom .text := by
  rw [tags, Frame.run_fill h htexts]

end Page

end AdmissionLedger
