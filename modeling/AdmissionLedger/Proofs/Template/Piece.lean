import AdmissionLedger.Template.Piece
import Mathlib.Data.List.Basic

/-!
# The parts of a template

A template is read from the left, one part after the other, and every part takes at least
one code point.  What is written as literal text with its braces twice, and as names in
braces, is read as that.

## Main definitions

* `Template.firstPiece` — the part with which a template begins, and what is behind it.
* `Template.Part`, `Template.write` — literal texts and fields, and the template that says them.
* `Template.Field.IsFlat` — a field without looks and without fields in it.

## Main results

* `Template.pieces_cons` — the parts of a template are its first one and those of the rest.
* `Template.pieces_write` — the parts of a written template.
-/

namespace AdmissionLedger.Template

/-! ### Reading -/

theorem length_of_scanName {inBrackets : Bool} {done t name rest : Text} {last : CodePoint}
    (h : scanName inBrackets done t = some (name, last, rest)) : rest.length < t.length := by
  induction t generalizing inBrackets done with
  | nil => cases inBrackets <;> cases h
  | cons c t ih =>
    rw [List.length_cons]
    cases inBrackets with
    | true => exact Nat.lt_succ_of_lt (ih h)
    | false =>
      rw [scanName] at h
      split at h
      · cases h
      · split at h
        · cases h
          exact Nat.lt_succ_self _
        · exact Nat.lt_succ_of_lt (ih h)

theorem length_of_scanSpec {nested : Nat} {done t spec rest : Text}
    (h : scanSpec nested done t = some (spec, rest)) : rest.length < t.length := by
  induction t generalizing nested done with
  | nil => cases h
  | cons c t ih =>
    rw [List.length_cons]
    rw [scanSpec.eq_def] at h
    dsimp only at h
    split at h
    · exact Nat.lt_succ_of_lt (ih h)
    · split at h
      · cases nested with
        | zero =>
          cases h
          exact Nat.lt_succ_self _
        | succ nested => exact Nat.lt_succ_of_lt (ih h)
      · exact Nat.lt_succ_of_lt (ih h)

theorem length_of_scanField {t rest : Text} {field : Field}
    (h : scanField t = some (field, rest)) : rest.length < t.length := by
  have hspec : ∀ {t : Text} {f : Text × Text → Field × Text}, (∀ found, (f found).2 = found.2) →
      (scanSpec 0 [] t).map f = some (field, rest) → rest.length < t.length := by
    intro t f hf h
    obtain ⟨found, hscan, hfound⟩ := Option.map_eq_some_iff.mp h
    have hrest : found.2 = rest := by rw [← hf, hfound]
    rw [← hrest]
    exact length_of_scanSpec hscan
  rw [scanField] at h
  cases hname : scanName false [] t with
  | none =>
    rw [hname] at h
    cases h
  | some found =>
    obtain ⟨name, last, behind⟩ := found
    have hbehind := length_of_scanName hname
    rw [hname] at h
    simp only at h
    split at h
    · cases h
      exact hbehind
    · split at h
      · exact Nat.lt_trans (hspec (fun _ => rfl) h) hbehind
      · cases behind with
        | nil => cases h
        | cons conversion behind =>
          cases behind with
          | nil => cases h
          | cons c behind =>
            simp only [List.length_cons] at h hbehind
            split at h
            · cases h
              omega
            · split at h
              · have := hspec (fun _ => rfl) h
                omega
              · cases h

/-- The part with which a template begins, and what is behind it. -/
def firstPiece (c : CodePoint) (rest : Text) : Piece × Text :=
  if c = .openBrace || c = .closeBrace then
    match rest with
    | [] => (.malformed, [])
    | d :: after =>
      if d = c then (.literal [c], after)
      else if c = .closeBrace then (.malformed, [])
      else match scanField rest with
        | none => (.malformed, [])
        | some (field, after) => (.field field, after)
  else (.literal [c], rest)

theorem length_firstPiece (c : CodePoint) (rest : Text) :
    (firstPiece c rest).2.length ≤ rest.length := by
  unfold firstPiece
  split
  · split
    · exact Nat.zero_le _
    · split
      · exact Nat.le_succ _
      · split
        · exact Nat.zero_le _
        · split
          · exact Nat.zero_le _
          · next h => exact Nat.le_of_lt (length_of_scanField h)
  · exact Nat.le_refl _

theorem piecesFrom_cons (fuel : Nat) (c : CodePoint) (rest : Text) :
    piecesFrom (fuel + 1) (c :: rest) =
      (firstPiece c rest).1 :: piecesFrom fuel (firstPiece c rest).2 := by
  have hnil : piecesFrom fuel [] = [] := by cases fuel <;> rfl
  rw [piecesFrom.eq_def, firstPiece.eq_def]
  dsimp only
  split
  · cases rest with
    | nil => simp only [hnil]
    | cons d after =>
      dsimp only
      split
      · rfl
      · split
        · simp only [hnil]
        · cases scanField (d :: after) with
          | none => simp only [hnil]
          | some found => rfl
  · rfl

/-- More fuel than code points changes nothing. -/
theorem piecesFrom_of_length_le {fuel : Nat} {t : Text} (h : t.length ≤ fuel) :
    piecesFrom fuel t = pieces t := by
  -- One unit more than enough changes nothing, because the first part takes a code point.
  have hmore : ∀ {fuel : Nat} {t : Text}, t.length ≤ fuel →
      piecesFrom (fuel + 1) t = piecesFrom fuel t := by
    intro fuel
    induction fuel with
    | zero =>
      intro t h
      rw [List.length_eq_zero_iff.mp (Nat.le_zero.mp h)]
      rfl
    | succ fuel ih =>
      intro t h
      cases t with
      | nil => rfl
      | cons c rest =>
        rw [piecesFrom_cons, piecesFrom_cons, ih]
        exact Nat.le_trans (length_firstPiece c rest) (Nat.le_of_succ_le_succ h)
  induction h with
  | refl => rfl
  | step h ih => rw [hmore h, ih]

theorem pieces_cons (c : CodePoint) (rest : Text) :
    pieces (c :: rest) = (firstPiece c rest).1 :: pieces (firstPiece c rest).2 := by
  rw [pieces, List.length_cons, piecesFrom_cons, piecesFrom_of_length_le (length_firstPiece c rest)]

/-! ### Writing -/

/-- A literal text or a field. -/
inductive Part
  | literal (text : Text)
  | field (field : Field)
  deriving DecidableEq, Repr

/-- A code point as it is written in literal text: a brace is written twice. -/
def writePoint (c : CodePoint) : Text :=
  if c = .openBrace || c = .closeBrace then [c, c] else [c]

/-- A field as it is written behind its opening brace. -/
def Field.body (f : Field) : Text :=
  f.name ++ f.conversion.elim [] (fun c => [↑ '!', c]) ++
    (if f.spec = [] then [] else ↑ ':' :: f.spec) ++ [.closeBrace]

/-- A literal text or a field as it is written in a template. -/
def Part.write : Part → Text
  | literal t => t.flatMap writePoint
  | field f => .openBrace :: f.body

/-- The template that says some parts. -/
def write (parts : List Part) : Text :=
  parts.flatMap Part.write

/-- A code point that may stand in a name: none that ends a name or begins a look into its value. -/
def IsPlain (c : CodePoint) : Prop :=
  c ≠ .openBrace ∧ c ≠ .closeBrace ∧ c ≠ ↑ ':' ∧ c ≠ ↑ '!' ∧ c ≠ ↑ '.' ∧ c ≠ ↑ '['

instance (c : CodePoint) : Decidable (IsPlain c) :=
  inferInstanceAs (Decidable (_ ∧ _ ∧ _ ∧ _ ∧ _ ∧ _))

/-- A field that looks into nothing, and in whose specification there is no other. -/
def Field.IsFlat (f : Field) : Prop :=
  (∀ c ∈ f.name, IsPlain c) ∧ ∀ c ∈ f.spec, c ≠ .openBrace ∧ c ≠ .closeBrace

instance (f : Field) : Decidable f.IsFlat :=
  inferInstanceAs (Decidable (_ ∧ _))

/-- A flat field, and any literal text. -/
def Part.WellFormed : Part → Prop
  | literal _ => True
  | field f => f.IsFlat

instance : (part : Part) → Decidable part.WellFormed
  | .literal _ => inferInstanceAs (Decidable True)
  | .field f => inferInstanceAs (Decidable f.IsFlat)

/-- How a part is read. -/
def Part.pieces : Part → List Piece
  | literal t => t.map fun c => .literal [c]
  | field f => [.field f]

theorem pieces_writePoint (c : CodePoint) (rest : Text) :
    Template.pieces (writePoint c ++ rest) = .literal [c] :: Template.pieces rest := by
  unfold writePoint
  split
  · next hbrace =>
    rw [List.cons_append, pieces_cons, firstPiece.eq_def, if_pos hbrace]
    simp only [List.singleton_append, if_true]
  · next hbrace => rw [List.singleton_append, pieces_cons, firstPiece.eq_def, if_neg hbrace]

/-- A name is read up to what ends it. -/
theorem scanName_append {name : Text} (h : ∀ c ∈ name, IsPlain c) {last : CodePoint}
    (hlast : last = .closeBrace ∨ last = ↑ ':' ∨ last = ↑ '!') (done rest : Text) :
    scanName false done (name ++ last :: rest) = some (done.reverse ++ name, last, rest) := by
  induction name generalizing done with
  | nil =>
    have hopen : last ≠ .openBrace := by
      rcases hlast with rfl | rfl | rfl <;> decide
    rw [List.nil_append, scanName, if_neg hopen, if_pos (by simpa [or_assoc] using hlast),
      List.append_nil]
  | cons c name ih =>
    rw [List.forall_mem_cons] at h
    obtain ⟨⟨hopen, hclose, hcolon, hmark, -, hbracket⟩, hname⟩ := h
    rw [List.cons_append, scanName, if_neg hopen, if_neg (by simp [hclose, hcolon, hmark]),
      decide_eq_false hbracket, ih hname, List.reverse_cons, List.append_assoc,
      List.singleton_append]

/-- A specification without braces is read up to the brace that ends it. -/
theorem scanSpec_append {spec : Text} (h : ∀ c ∈ spec, c ≠ .openBrace ∧ c ≠ .closeBrace)
    (done rest : Text) :
    scanSpec 0 done (spec ++ .closeBrace :: rest) = some (done.reverse ++ spec, rest) := by
  induction spec generalizing done with
  | nil => rw [List.nil_append, scanSpec, if_neg (by decide), if_pos rfl, List.append_nil]
  | cons c spec ih =>
    rw [List.forall_mem_cons] at h
    obtain ⟨⟨hopen, hclose⟩, hspec⟩ := h
    rw [List.cons_append, scanSpec, if_neg hopen, if_neg hclose, ih hspec, List.reverse_cons,
      List.append_assoc, List.singleton_append]

theorem scanField_body {f : Field} (h : f.IsFlat) (rest : Text) :
    scanField (f.body ++ rest) = some (f, rest) := by
  obtain ⟨name, conversion, spec⟩ := f
  obtain ⟨hname, hspec⟩ := h
  have hscan := scanSpec_append hspec [] rest
  rw [List.reverse_nil, List.nil_append] at hscan
  -- What ends the name says whether there are a conversion and a specification.
  cases conversion with
  | none =>
    by_cases hempty : spec = []
    · have hbody : Field.body ⟨name, none, spec⟩ ++ rest = name ++ .closeBrace :: rest := by
        simp [Field.body, hempty]
      rw [hbody, scanField, scanName_append hname (.inl rfl), hempty]
      rfl
    · have hbody : Field.body ⟨name, none, spec⟩ ++ rest =
          name ++ ↑ ':' :: (spec ++ .closeBrace :: rest) := by
        simp [Field.body, hempty]
      rw [hbody, scanField, scanName_append hname (.inr (.inl rfl))]
      simp only [hscan]
      rfl
  | some c =>
    by_cases hempty : spec = []
    · have hbody : Field.body ⟨name, some c, spec⟩ ++ rest =
          name ++ ↑ '!' :: c :: .closeBrace :: rest := by
        simp [Field.body, hempty]
      rw [hbody, scanField, scanName_append hname (.inr (.inr rfl)), hempty]
      rfl
    · have hbody : Field.body ⟨name, some c, spec⟩ ++ rest =
          name ++ ↑ '!' :: c :: ↑ ':' :: (spec ++ .closeBrace :: rest) := by
        simp [Field.body, hempty]
      rw [hbody, scanField, scanName_append hname (.inr (.inr rfl))]
      simp only [hscan]
      rfl

/-- What is behind the opening brace of a field is no other one, so the brace is not doubled. -/
theorem body_eq_cons {f : Field} (h : ∀ c ∈ f.name, IsPlain c) :
    ∃ c t, f.body = c :: t ∧ c ≠ .openBrace := by
  obtain ⟨name, conversion, spec⟩ := f
  cases name with
  | cons c name => exact ⟨c, _, rfl, (h c List.mem_cons_self).1⟩
  | nil =>
    cases conversion with
    | some c => exact ⟨↑ '!', _, rfl, by decide⟩
    | none =>
      by_cases hempty : spec = []
      · exact ⟨.closeBrace, [], by simp [Field.body, hempty], by decide⟩
      · exact ⟨↑ ':', spec ++ [.closeBrace], by simp [Field.body, hempty], by decide⟩

theorem pieces_field {f : Field} (h : f.IsFlat) (rest : Text) :
    Template.pieces (Part.write (.field f) ++ rest) = .field f :: Template.pieces rest := by
  have hscan := scanField_body h rest
  obtain ⟨c, t, hbody, hc⟩ := body_eq_cons h.1
  rw [hbody, List.cons_append] at hscan
  have hfirst : firstPiece .openBrace (c :: (t ++ rest)) = (.field f, rest) := by
    rw [firstPiece.eq_def, if_pos (by decide)]
    simp only [hscan, if_neg hc]
    rw [if_neg (by decide)]
  rw [Part.write, hbody, List.cons_append, List.cons_append, pieces_cons, hfirst]

/-- A written template is read as what it says. -/
theorem pieces_write {parts : List Part} (h : ∀ part ∈ parts, part.WellFormed) :
    Template.pieces (write parts) = parts.flatMap Part.pieces := by
  induction parts with
  | nil => rfl
  | cons part parts ih =>
    rw [List.forall_mem_cons] at h
    rw [write, List.flatMap_cons, List.flatMap_cons, ← write, ← ih h.2]
    cases part with
    | literal t =>
      clear h ih
      rw [Part.write, Part.pieces]
      induction t with
      | nil => rfl
      | cons c t ih =>
        rw [List.flatMap_cons, List.append_assoc, pieces_writePoint, ih]
        rfl
    | field f => exact pieces_field h.1 _

end AdmissionLedger.Template
