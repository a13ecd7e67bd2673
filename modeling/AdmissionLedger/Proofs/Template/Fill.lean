import AdmissionLedger.Proofs.Template.Piece
import AdmissionLedger.Proofs.Template.Spec
import AdmissionLedger.Template.Fill
import Mathlib.Data.List.TakeWhile

/-!
# Filled templates

A template is filled in piece by piece.  It has a text if each of its pieces shows one;
otherwise the first piece that does not decides what is wrong.  Where no field looks into
its value, each shows the value of its name, quoted, cut and filled up as it says.  All this
holds on any machine.

## Main definitions

* `Template.Piece.shown` — what a piece shows, or what is wrong with it.
* `Template.Converts`, `Template.Part.Shows` — what a conversion and a part make of a text.

## Main results

* `Template.fill_eq_ok_iff`, `Template.fill_eq_error_iff` — what a template is filled in to.
* `Template.shown_flat_iff` — what a field without looks shows.
* `Template.fill_write_eq_ok_iff` — literal texts stay, and fields are replaced.
-/

namespace AdmissionLedger.Template

variable {r : Reflection} {values : Values}

/-! ### Piece by piece -/

/-- What a piece shows, or what is wrong with it.  `expand` replaces the fields of
specifications. -/
def Piece.shownBy (r : Reflection) (values : Values) (expand : Text → Except Fault Text) :
    Piece → Except Fault Text
  | .literal t => .ok t
  | .malformed => .error .unusable
  | .field f => do
    let value ← f.value r values
    let value ← r.convert value f.conversion
    let spec ← expand f.spec
    r.display spec value

/-- What a piece of a template shows, or what is wrong with it. -/
def Piece.shown (r : Reflection) (values : Values) : Piece → Except Fault Text :=
  Piece.shownBy r values (expandSpec r values maxDepth)

theorem fillPieces_cons (r : Reflection) (values : Values) (expand : Text → Except Fault Text)
    (p : Piece) (rest : List Piece) :
    fillPieces r values expand (p :: rest) = (do
      let t ← p.shownBy r values expand
      let u ← fillPieces r values expand rest
      return t ++ u) := by
  cases p with
  | literal t =>
    rw [fillPieces]
    cases fillPieces r values expand rest <;> rfl
  | malformed => rfl
  | field f => simp only [fillPieces, Piece.shownBy, bind_assoc]

/-- Pieces have a text exactly if each of them shows one. -/
theorem fillPieces_eq_ok_iff {expand : Text → Except Fault Text} {ps : List Piece} {t : Text} :
    fillPieces r values expand ps = .ok t ↔
      ∃ texts, List.Forall₂ (fun p u => p.shownBy r values expand = .ok u) ps texts ∧
        t = texts.flatten := by
  induction ps generalizing t with
  | nil =>
    rw [fillPieces, Except.ok.injEq]
    constructor
    · rintro rfl
      exact ⟨[], .nil, rfl⟩
    · rintro ⟨texts, htexts, rfl⟩
      cases htexts
      rfl
  | cons p ps ih =>
    rw [fillPieces_cons, Except.bind_eq_ok_iff]
    constructor
    · rintro ⟨u, hu, h⟩
      obtain ⟨v, hv, h⟩ := Except.bind_eq_ok_iff.mp h
      obtain ⟨texts, htexts, rfl⟩ := ih.mp hv
      cases h
      exact ⟨u :: texts, .cons hu htexts, rfl⟩
    · rintro ⟨texts, htexts, rfl⟩
      cases htexts with
      | cons hu htexts =>
        exact ⟨_, hu, Except.bind_eq_ok_iff.mpr ⟨_, ih.mpr ⟨_, htexts, rfl⟩, rfl⟩⟩

/-- What is wrong with some pieces is what is wrong with the first that shows nothing. -/
theorem fillPieces_eq_error_iff {expand : Text → Except Fault Text} {ps : List Piece}
    {fault : Fault} :
    fillPieces r values expand ps = .error fault ↔
      ∃ before p after, ps = before ++ p :: after ∧
        (∀ q ∈ before, ∃ u, q.shownBy r values expand = .ok u) ∧
        p.shownBy r values expand = .error fault := by
  induction ps with
  | nil =>
    constructor
    · intro h
      cases h
    · rintro ⟨before, p, after, h, -⟩
      simp at h
  | cons p ps ih =>
    rw [fillPieces_cons, Except.bind_eq_error_iff]
    constructor
    · rintro (hp | ⟨u, hu, h⟩)
      · exact ⟨[], p, ps, rfl, List.forall_mem_nil _, hp⟩
      · rcases Except.bind_eq_error_iff.mp h with h | ⟨v, -, h⟩
        · obtain ⟨before, q, after, rfl, hbefore, hq⟩ := ih.mp h
          exact ⟨p :: before, q, after, rfl, List.forall_mem_cons.mpr ⟨⟨u, hu⟩, hbefore⟩, hq⟩
        · cases h
    · rintro ⟨before, q, after, h, hbefore, hq⟩
      cases before with
      | nil =>
        cases h
        exact .inl hq
      | cons r before =>
        cases h
        obtain ⟨⟨u, hu⟩, hbefore⟩ := List.forall_mem_cons.mp hbefore
        have hrest := ih.mpr ⟨before, q, after, rfl, hbefore, hq⟩
        exact .inr ⟨u, hu, Except.bind_eq_error_iff.mpr (.inl hrest)⟩

/-- A template has a text exactly if each of its pieces shows one. -/
theorem fill_eq_ok_iff {template t : Text} :
    fill r values template = .ok t ↔
      ∃ texts, List.Forall₂ (fun p u => p.shown r values = .ok u) (pieces template) texts ∧
        t = texts.flatten :=
  fillPieces_eq_ok_iff

/-- What is wrong with a template is what is wrong with its first piece that shows nothing. -/
theorem fill_eq_error_iff {template : Text} {fault : Fault} :
    fill r values template = .error fault ↔
      ∃ before p after, pieces template = before ++ p :: after ∧
        (∀ q ∈ before, ∃ u, q.shown r values = .ok u) ∧ p.shown r values = .error fault :=
  fillPieces_eq_error_iff

/-! ### Names -/

/-- All values have names that are no numbers. -/
def Values.Named (values : Values) : Prop :=
  ∀ entry ∈ values, key? entry.1 = some (.name entry.1)

theorem Values.Named.key? (h : values.Named) {name value : Text}
    (hlookup : values.lookup name = some value) : key? name = some (.name name) := by
  obtain ⟨before, after, rfl, -⟩ := List.lookup_eq_some_iff.mp hlookup
  exact h (name, value) (by simp)

theorem eq_of_keyFrom {whole name : Text} {n : Nat} {t : Text}
    (h : keyFrom whole n t = some (.name name)) : name = whole := by
  induction t generalizing n with
  | nil => cases h
  | cons c t ih =>
    rw [keyFrom] at h
    split at h
    · cases h
      rfl
    · split at h
      · cases h
      · exact ih h

/-- What looks up its own name has the looks to take from there. -/
theorem Field.value_of_lookup (hnamed : values.Named) {f : Field} {value : Text}
    (h : values.lookup f.first = some value) :
    f.value r values = f.steps.foldlM r.look (.text value) := by
  rw [Field.value, hnamed.key? h]
  simp only [h]

/-- A name that no value has names nothing. -/
theorem Field.value_of_lookup_eq_none {f : Field} (h : values.lookup f.first = none) :
    f.value r values = .error .unusable := by
  rw [Field.value]
  split
  · next name hkey =>
    rw [Template.key?, Option.ite_none_left_eq_some] at hkey
    rw [eq_of_keyFrom hkey.2, h]
  · rfl

theorem Field.first_of_isFlat {f : Field} (h : f.IsFlat) : f.first = f.name := by
  rw [Field.first, List.takeWhile_eq_self_iff]
  intro c hc
  obtain ⟨-, -, -, -, hpoint, hbracket⟩ := h.1 c hc
  simp [hpoint, hbracket]

theorem Field.steps_of_isFlat {f : Field} (h : f.IsFlat) : f.steps = [] := by
  rw [Field.steps, Field.first_of_isFlat h, List.drop_length]
  rfl

theorem expandSpec_of_isFlat (r : Reflection) (values : Values) {f : Field} (h : f.IsFlat)
    (depth : Nat) : expandSpec r values depth f.spec = .ok f.spec := by
  have hopen : ¬ f.spec.contains .openBrace = true := by
    rw [List.contains_iff_mem]
    exact fun hmem => (h.2 _ hmem).1 rfl
  cases depth with
  | zero => rw [expandSpec, if_neg hopen]
  | succ depth => rw [expandSpec, if_neg hopen]

/-! ### Written templates -/

/-- How a text is quoted as a conversion says; the null character says nothing. -/
inductive Converts : Option CodePoint → Text → Text → Prop
  | nothing (t : Text) : Converts none t t
  | null (t : Text) {c : CodePoint} (h : c.val = 0) : Converts (some c) t t
  | plain (t : Text) : Converts (some ↑ 's') t t
  | quoted (t : Text) : Converts (some ↑ 'r') t t.quoted
  | quotedAscii (t : Text) : Converts (some ↑ 'a') t t.quotedAscii

/-- What a field without looks makes of its value: it is quoted, cut and filled up. -/
def Field.Shows (f : Field) (limit : Nat) (value u : Text) : Prop :=
  ∃ t s, Converts f.conversion value t ∧ Spec.ofText f.spec = some s ∧ s.width ≤ limit ∧ s.Shows t u

/-- What a part says. -/
inductive Part.Shows (limit : Nat) (values : Values) : Part → Text → Prop
  | literal (t : Text) : Shows limit values (.literal t) t
  | field {f : Field} {value u : Text} (hvalue : values.lookup f.name = some value)
      (h : f.Shows limit value u) : Shows limit values (.field f) u

theorem Reflection.convert_text_eq_ok_iff {t : Text} {conversion : Option CodePoint}
    {v : Value r.Object} : r.convert (.text t) conversion = .ok v ↔
      ∃ u, Converts conversion t u ∧ v = .text u := by
  constructor
  · intro h
    cases conversion with
    | none =>
      cases h
      exact ⟨t, .nothing t, rfl⟩
    | some c =>
      rw [convert] at h
      split_ifs at h with hnull hs hr ha
      · cases h
        exact ⟨t, .null t hnull, rfl⟩
      · cases h
        exact ⟨t, hs ▸ .plain t, rfl⟩
      · cases h
        exact ⟨t.quoted, hr ▸ .quoted t, rfl⟩
      · cases h
        exact ⟨t.quotedAscii, ha ▸ .quotedAscii t, rfl⟩
  · rintro ⟨u, hconverts, rfl⟩
    cases hconverts with
    | null _ hnull => rw [convert, if_pos hnull]
    | _ => rfl

/-- A flat field shows the value of its name. -/
theorem shown_flat_iff (hnamed : values.Named) {f : Field} (h : f.IsFlat) {u : Text} :
    (Piece.field f).shown r values = .ok u ↔ Part.Shows r.widthLimit values (.field f) u := by
  have hfirst := Field.first_of_isFlat h
  rw [Piece.shown, Piece.shownBy]
  cases hlookup : values.lookup f.name with
  | none =>
    rw [Field.value_of_lookup_eq_none (hfirst ▸ hlookup)]
    refine iff_of_false nofun fun hshows => ?_
    cases hshows with
    | field hvalue => cases hlookup.symm.trans hvalue
  | some value =>
    rw [Field.value_of_lookup hnamed (hfirst ▸ hlookup), Field.steps_of_isFlat h,
      expandSpec_of_isFlat r values h]
    change (r.convert (.text value) f.conversion >>= fun v => r.display f.spec v) = _ ↔ _
    rw [Except.bind_eq_ok_iff]
    constructor
    · rintro ⟨v, hv, hdisplay⟩
      obtain ⟨t, ht, rfl⟩ := Reflection.convert_text_eq_ok_iff.mp hv
      obtain ⟨s, hs, hwidth, hshows⟩ := showTextBy_eq_ok_iff.mp hdisplay
      exact .field hlookup ⟨t, s, ht, hs, hwidth, hshows⟩
    · rintro (_ | ⟨hvalue, t, s, ht, hs, hwidth, hshows⟩)
      cases hlookup.symm.trans hvalue
      exact ⟨.text t, Reflection.convert_text_eq_ok_iff.mpr ⟨t, ht, rfl⟩,
        showTextBy_eq_ok_iff.mpr ⟨s, hs, hwidth, hshows⟩⟩

theorem fillPieces_literals (r : Reflection) (values : Values) (expand : Text → Except Fault Text)
    (t : Text) (rest : List Piece) :
    fillPieces r values expand (t.map (fun c => .literal [c]) ++ rest) =
      (fillPieces r values expand rest).map (t ++ ·) := by
  induction t with
  | nil => cases h : fillPieces r values expand rest <;> simp [h, Except.map]
  | cons c t ih =>
    rw [List.map_cons, List.cons_append, fillPieces, ih]
    cases fillPieces r values expand rest <;> rfl

/-- A part says a text and leaves the rest to the pieces behind it. -/
theorem fillPieces_part_eq_ok_iff (hnamed : values.Named) {part : Part} (h : part.WellFormed)
    {rest : List Piece} {t : Text} :
    fillPieces r values (expandSpec r values maxDepth) (part.pieces ++ rest) = .ok t ↔
      ∃ u, Part.Shows r.widthLimit values part u ∧
        ∃ v, fillPieces r values (expandSpec r values maxDepth) rest = .ok v ∧ u ++ v = t := by
  cases part with
  | literal text =>
    rw [Part.pieces, fillPieces_literals, Except.map_eq_ok_iff]
    constructor
    · exact fun hrest => ⟨text, .literal text, hrest⟩
    · rintro ⟨_, ⟨⟩, hrest⟩
      exact hrest
  | field f =>
    rw [Part.pieces, List.singleton_append, fillPieces_cons, Except.bind_eq_ok_iff]
    refine exists_congr fun u => and_congr (shown_flat_iff hnamed h) ?_
    rw [Except.bind_eq_ok_iff]
    refine exists_congr fun v => and_congr_right fun _ => ?_
    exact ⟨Except.ok.inj, congrArg Except.ok⟩

/-- A written template has a text exactly if each of its parts says one. -/
theorem fill_write_eq_ok_iff (hnamed : values.Named) {parts : List Part}
    (h : ∀ part ∈ parts, part.WellFormed) {t : Text} :
    fill r values (write parts) = .ok t ↔
      ∃ texts, List.Forall₂ (Part.Shows r.widthLimit values) parts texts ∧ t = texts.flatten := by
  rw [fill, pieces_write h]
  induction parts generalizing t with
  | nil =>
    rw [List.flatMap_nil, fillPieces, Except.ok.injEq]
    constructor
    · rintro rfl
      exact ⟨[], .nil, rfl⟩
    · rintro ⟨texts, htexts, rfl⟩
      cases htexts
      rfl
  | cons part parts ih =>
    rw [List.forall_mem_cons] at h
    rw [List.flatMap_cons, fillPieces_part_eq_ok_iff hnamed h.1]
    constructor
    · rintro ⟨u, hu, rest, hrest, rfl⟩
      obtain ⟨texts, htexts, rfl⟩ := (ih h.2).mp hrest
      exact ⟨u :: texts, .cons hu htexts, rfl⟩
    · rintro ⟨_, ⟨⟩ | ⟨hu, htexts⟩, rfl⟩
      exact ⟨_, hu, _, (ih h.2).mpr ⟨_, htexts, rfl⟩, rfl⟩

end AdmissionLedger.Template
