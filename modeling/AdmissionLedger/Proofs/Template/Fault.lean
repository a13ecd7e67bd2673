import AdmissionLedger.Proofs.Template.Fill
import AdmissionLedger.Template.Object

/-!
# Templates that cannot be filled in

As long as no field looks into its value, hardly anything can be wrong but the template as a
whole: only a text that is to be shown too wide is a fault of its own.  A look that fails
brings the fault of the machine; what is asked for and not there is such a fault.

## Main definitions

* `Template.fieldsTo` — the fields of a template, with those of their specifications.
* `Template.Field.TooWide` — a field asks for more code points than the machine can show.

## Main results

* `Template.fault_of_fill_write`, `Template.faults_of_fill` — which faults there are without looks.
* `Template.shown_of_look_eq_error` — a look that fails.
* `Template.look_named_item`, `Template.look_missing_member` — items and members that texts do not
  have.
-/

namespace AdmissionLedger.Template

variable {r : Reflection} {values : Values}

/-! ### Without looks -/

/-- The field that a piece is. -/
def Piece.field? : Piece → Option Field
  | .field f => some f
  | _ => none

/-- The fields of a template, with those of their specifications, down to `depth`. -/
def fieldsTo : (depth : Nat) → Text → List Field
  | 0, _ => []
  | depth + 1, t =>
    ((pieces t).filterMap Piece.field?).flatMap fun f => f :: fieldsTo depth f.spec

/-- A field asks for more code points than the machine can show. -/
def Field.TooWide (r : Reflection) (values : Values) (f : Field) : Prop :=
  ∃ depth spec s, expandSpec r values depth f.spec = .ok spec ∧ Spec.ofText spec = some s ∧
    r.widthLimit < s.width

theorem Field.value_of_steps_eq_nil (r : Reflection) (values : Values) {f : Field}
    (h : f.steps = []) :
    f.value r values = .error .unusable ∨ ∃ t, f.value r values = .ok (.text t) := by
  rw [Field.value]
  split
  · split
    · exact .inl rfl
    · next value _ =>
      rw [h]
      exact .inr ⟨value, rfl⟩
  · exact .inl rfl

theorem Reflection.convert_text (r : Reflection) (t : Text) (conversion : Option CodePoint) :
    r.convert (.text t) conversion = .error .unusable ∨
      ∃ u, r.convert (.text t) conversion = .ok (.text u) := by
  cases conversion with
  | none => exact .inr ⟨t, rfl⟩
  | some c =>
    rw [convert]
    split_ifs
    · exact .inr ⟨_, rfl⟩
    · exact .inr ⟨_, rfl⟩
    · exact .inr ⟨_, rfl⟩
    · exact .inr ⟨_, rfl⟩
    · exact .inl rfl

/-- A field that looks into nothing is wrong as a whole, or has a wrong specification, or asks for
too many code points. -/
theorem fault_of_shownBy {expand : Text → Except Fault Text} {f : Field} {fault : Fault}
    (hsteps : f.steps = []) (h : (Piece.field f).shownBy r values expand = .error fault) :
    fault = .unusable ∨ expand f.spec = .error fault ∨
      fault = .tooWide ∧ ∃ spec s, expand f.spec = .ok spec ∧ Spec.ofText spec = some s ∧
        r.widthLimit < s.width := by
  rw [Piece.shownBy] at h
  -- Each step on the way can be at fault: the value, its conversion, the specification, the width.
  rcases Field.value_of_steps_eq_nil r values hsteps with hvalue | ⟨t, hvalue⟩
  · rw [hvalue] at h
    cases h
    exact .inl rfl
  rw [hvalue] at h
  change (r.convert (.text t) f.conversion >>= _) = _ at h
  rcases r.convert_text t f.conversion with hconvert | ⟨u, hconvert⟩
  · rw [hconvert] at h
    cases h
    exact .inl rfl
  rw [hconvert] at h
  change (expand f.spec >>= _) = _ at h
  rcases Except.bind_eq_error_iff.mp h with hspec | ⟨spec, hspec, h⟩
  · exact .inr (.inl hspec)
  · rcases fault_of_showTextBy h with rfl | ⟨rfl, s, hs, hwide⟩
    · exact .inl rfl
    · exact .inr (.inr ⟨rfl, spec, s, hspec, hs, hwide⟩)

/-- A written template is wrong as a whole, or one of its fields asks for too many code points. -/
theorem fault_of_fill_write {parts : List Part} (h : ∀ part ∈ parts, part.WellFormed)
    {fault : Fault} (hfill : fill r values (write parts) = .error fault) :
    fault = .unusable ∨ fault = .tooWide ∧
      ∃ f s, Part.field f ∈ parts ∧ Spec.ofText f.spec = some s ∧ r.widthLimit < s.width := by
  obtain ⟨before, p, after, hpieces, -, hp⟩ := fill_eq_error_iff.mp hfill
  have hmem : p ∈ parts.flatMap Part.pieces := by
    rw [← pieces_write h, hpieces]
    exact List.mem_append_right _ List.mem_cons_self
  obtain ⟨part, hpart, hp'⟩ := List.mem_flatMap.mp hmem
  cases part with
  | literal t =>
    obtain ⟨c, -, rfl⟩ := List.mem_map.mp hp'
    cases hp
  | field f =>
    cases List.mem_singleton.mp hp'
    have hflat : f.IsFlat := h _ hpart
    have hexpand := expandSpec_of_isFlat r values hflat maxDepth
    rcases fault_of_shownBy (Field.steps_of_isFlat hflat) hp with
      rfl | hspec | ⟨rfl, spec, s, hspec, hs, hwide⟩
    · exact .inl rfl
    · cases hexpand.symm.trans hspec
    · cases hexpand.symm.trans hspec
      exact .inr ⟨rfl, f, s, hpart, hs, hwide⟩

/-- Without looks some pieces are wrong as a whole, or a field asks for too many code points. -/
theorem faults_of_fillPieces {depth : Nat}
    (hexpand : ∀ {spec : Text} {fault : Fault}, (∀ f ∈ fieldsTo depth spec, f.steps = []) →
      expandSpec r values depth spec = .error fault →
        fault = .unusable ∨ fault = .tooWide ∧ ∃ f ∈ fieldsTo depth spec, f.TooWide r values)
    {t : Text} {fault : Fault} (hsteps : ∀ f ∈ fieldsTo (depth + 1) t, f.steps = [])
    (h : fillPieces r values (expandSpec r values depth) (pieces t) = .error fault) :
    fault = .unusable ∨ fault = .tooWide ∧ ∃ f ∈ fieldsTo (depth + 1) t, f.TooWide r values := by
  obtain ⟨before, p, after, hpieces, -, hp⟩ := fillPieces_eq_error_iff.mp h
  cases p with
  | literal t => cases hp
  | malformed =>
    cases hp
    exact .inl rfl
  | field f =>
    -- The fields of a specification are fields of the template, one level deeper.
    have hmem : ∀ g ∈ f :: fieldsTo depth f.spec, g ∈ fieldsTo (depth + 1) t := by
      intro g hg
      refine List.mem_flatMap.mpr ⟨f, List.mem_filterMap.mpr ⟨.field f, ?_, rfl⟩, hg⟩
      rw [hpieces]
      exact List.mem_append_right _ List.mem_cons_self
    rcases fault_of_shownBy (hsteps f (hmem f List.mem_cons_self)) hp with
      rfl | hspec | ⟨rfl, spec, s, hspec, hs, hwide⟩
    · exact .inl rfl
    · have hnested : ∀ g ∈ fieldsTo depth f.spec, g.steps = [] :=
        fun g hg => hsteps g (hmem g (List.mem_cons_of_mem _ hg))
      rcases hexpand hnested hspec with rfl | ⟨rfl, g, hg, hwide⟩
      · exact .inl rfl
      · exact .inr ⟨rfl, g, hmem g (List.mem_cons_of_mem _ hg), hwide⟩
    · exact .inr ⟨rfl, f, hmem f List.mem_cons_self, depth, spec, s, hspec, hs, hwide⟩

theorem faults_of_expandSpec {depth : Nat} {spec : Text} {fault : Fault}
    (hsteps : ∀ f ∈ fieldsTo depth spec, f.steps = [])
    (h : expandSpec r values depth spec = .error fault) :
    fault = .unusable ∨ fault = .tooWide ∧ ∃ f ∈ fieldsTo depth spec, f.TooWide r values := by
  induction depth generalizing spec fault with
  | zero =>
    rw [expandSpec] at h
    split at h
    · cases h
      exact .inl rfl
    · cases h
  | succ depth ih =>
    rw [expandSpec] at h
    split at h
    · exact faults_of_fillPieces ih hsteps h
    · cases h

/-- Without looks a template is wrong as a whole, or a field asks for too many code points. -/
theorem faults_of_fill {template : Text} {fault : Fault}
    (hsteps : ∀ f ∈ fieldsTo (maxDepth + 1) template, f.steps = [])
    (h : fill r values template = .error fault) :
    fault = .unusable ∨
      fault = .tooWide ∧ ∃ f ∈ fieldsTo (maxDepth + 1) template, f.TooWide r values :=
  faults_of_fillPieces faults_of_expandSpec hsteps h

/-! ### Looks that fail -/

/-- A field whose first look fails shows nothing. -/
theorem shown_of_look_eq_error (hnamed : values.Named) {f : Field} {value : Text} {step : Step}
    {rest : List Step} {fault : Fault} (h : values.lookup f.first = some value)
    (hsteps : f.steps = step :: rest) (hlook : r.look (.text value) step = .error fault) :
    (Piece.field f).shown r values = .error fault := by
  rw [Piece.shown, Piece.shownBy, Field.value_of_lookup hnamed h, hsteps, List.foldlM_cons, hlook]
  rfl

/-- The items of a text have no names. -/
theorem look_named_item (r : Reflection) (value key : Text) :
    r.look (.text value) (.item (.name key)) =
      .error (.wrongKind "string indices must be integers, not 'str'") :=
  rfl

/-- On a standard machine a text has only the members that all texts have. -/
theorem look_missing_member (place : Object → Text) (limit : Nat) (value : Text) {member : Text}
    (h : Kind.text.find? member = none) :
    (Reflection.standard place limit).look (.text value) (.member member) =
      .error ((Object.text value).noMember member) := by
  have hmember : (Object.text value).member member =
      .error ((Object.text value).noMember member) := by
    rw [Object.member]
    · rw [Object.declaredMember, Object.kindOf, h]
    · intro k hk
      cases hk
    · intro k argument hk
      cases hk
  change ((Object.text value).member member).map Value.ofObject = _
  rw [hmember]
  rfl

end AdmissionLedger.Template
