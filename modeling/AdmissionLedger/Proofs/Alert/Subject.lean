import AdmissionLedger.Alert.Email
import AdmissionLedger.Proofs.Template.Fault

/-!
# Subjects of mails

The subject of a mail is its template with the fields replaced, or the template as it is if
it cannot be used.  There is one exception: a look into a value that is not possible is
nothing to fall back from, and neither is a text that is asked to be too wide.  Then there
is no subject, no mail, and the host is not asked for anything.  This is so on any machine,
whatever its texts have for members.

## Main definitions

* `Template.StopsAt` — a piece up to which a template can be filled in.

## Main results

* `Event.subject_write`, `Event.subject_write_of_not_shows` — the subject of a written template.
* `Event.subject_cases` — the subject of any template.
* `Event.mail_eq_subject_error_iff` — when a mail fails for want of a subject.
* `Event.subject_of_template` — the subject that any template gives, and when it gives none.
-/

namespace AdmissionLedger

namespace Template

/-- All pieces before this one show something. -/
def StopsAt (r : Reflection) (values : Values) (template : Text) (p : Piece) : Prop :=
  ∃ before after, pieces template = before ++ p :: after ∧
    ∀ q ∈ before, ∃ u, q.shown r values = .ok u

theorem StopsAt.fill_eq {r : Reflection} {values : Values} {template : Text} {p : Piece}
    {fault : Fault} (h : StopsAt r values template p) (hp : p.shown r values = .error fault) :
    fill r values template = .error fault := by
  obtain ⟨before, after, hpieces, hbefore⟩ := h
  exact fill_eq_error_iff.mpr ⟨before, p, after, hpieces, hbefore, hp⟩

end Template

open Template

namespace Event

variable {r : Reflection} {e : Event}

theorem subjectValues_named (e : Event) : e.subjectValues.Named := by
  rw [subjectValues]
  simp only [Values.Named, List.forall_mem_cons]
  exact ⟨by decide, by decide, by decide, by decide, List.forall_mem_nil _⟩

/-- Only a template that cannot be used is its own subject. -/
theorem subject_of_fault {template : Text} {fault : Fault}
    (h : fill r e.subjectValues template = .error fault) :
    e.subject r template = if fault = .unusable then .ok template else .error fault := by
  rw [subject, h]
  cases fault <;> rfl

theorem subject_eq_error_iff {template : Text} {fault : Fault} :
    e.subject r template = .error fault ↔
      fault ≠ .unusable ∧ fill r e.subjectValues template = .error fault := by
  cases hfill : fill r e.subjectValues template with
  | ok t => simp [subject, hfill]
  | error fault' =>
    rw [subject_of_fault hfill]
    by_cases hunusable : fault' = .unusable
    · simp [hunusable, eq_comm]
    · rw [if_neg hunusable, Except.error.injEq]
      constructor
      · rintro rfl
        exact ⟨hunusable, rfl⟩
      · exact And.right

/-- Parts that all say something give their subject. -/
theorem subject_write {parts : List Part} (h : ∀ part ∈ parts, part.WellFormed)
    {texts : List Text}
    (htexts : List.Forall₂ (Part.Shows r.widthLimit e.subjectValues) parts texts) :
    e.subject r (Template.write parts) = .ok texts.flatten := by
  rw [subject, (fill_write_eq_ok_iff e.subjectValues_named h).mpr ⟨texts, htexts, rfl⟩]

/-- Parts of which one says nothing, and none asks for too much, are their own subject. -/
theorem subject_write_of_not_shows {parts : List Part} (h : ∀ part ∈ parts, part.WellFormed)
    (hwidth : ∀ f s, .field f ∈ parts → Spec.ofText f.spec = some s → s.width ≤ r.widthLimit)
    (hnot : ¬ ∃ texts, List.Forall₂ (Part.Shows r.widthLimit e.subjectValues) parts texts) :
    e.subject r (Template.write parts) = .ok (Template.write parts) := by
  cases hfill : fill r e.subjectValues (Template.write parts) with
  | ok t =>
    obtain ⟨texts, htexts, -⟩ := (fill_write_eq_ok_iff e.subjectValues_named h).mp hfill
    exact absurd ⟨texts, htexts⟩ hnot
  | error fault =>
    rcases fault_of_fill_write h hfill with rfl | ⟨-, f, s, hf, hs, hwide⟩
    · exact subject_of_fault hfill
    · exact absurd (hwidth f s hf hs) (Nat.not_le_of_lt hwide)

/-- A subject is what all pieces show, or the first piece that shows nothing decides. -/
theorem subject_cases (r : Reflection) (e : Event) (template : Text) :
    (∃ texts, List.Forall₂ (fun p u => p.shown r e.subjectValues = .ok u) (pieces template) texts ∧
      e.subject r template = .ok texts.flatten) ∨
    ∃ p fault, StopsAt r e.subjectValues template p ∧ p.shown r e.subjectValues = .error fault ∧
      e.subject r template = if fault = .unusable then .ok template else .error fault := by
  cases hfill : fill r e.subjectValues template with
  | ok t =>
    obtain ⟨texts, htexts, rfl⟩ := fill_eq_ok_iff.mp hfill
    refine .inl ⟨texts, htexts, ?_⟩
    rw [subject, hfill]
  | error fault =>
    obtain ⟨before, p, after, hpieces, hbefore, hp⟩ := fill_eq_error_iff.mp hfill
    exact .inr ⟨p, fault, ⟨before, after, hpieces, hbefore⟩, hp, subject_of_fault hfill⟩

/-- There is no mail without a subject; whatever else may be wrong with a mail, it is not that. -/
theorem mail_eq_subject_error_iff {template sender : Text} {recipients : List Text}
    {fault : Fault} :
    e.mail r template sender recipients = .error (.subject fault) ↔
      e.subject r template = .error fault := by
  rw [mail, Except.bind_eq_error_iff]
  constructor
  · rintro (h | ⟨subject, -, h⟩)
    · obtain ⟨fault', h, heq⟩ := Except.mapError_eq_error_iff.mp h
      cases heq
      exact h
    · -- What follows fails only for want of bytes.
      obtain h | ⟨_, -, h⟩ := Except.bind_eq_error_iff.mp h
      · obtain ⟨_, -, heq⟩ := Except.mapError_eq_error_iff.mp h
        cases heq
      · obtain h | ⟨_, -, h⟩ := Except.bind_eq_error_iff.mp h
        · obtain ⟨_, -, heq⟩ := Except.mapError_eq_error_iff.mp h
          cases heq
        · cases h
  · intro h
    exact .inl (Except.mapError_eq_error_iff.mpr ⟨fault, h, rfl⟩)

end Event

/-- Without a subject nothing is sent, nothing is said, and the host stays as it is. -/
theorem EmailChannel.deliver_of_subject_error {r : Reflection} {c : EmailChannel} {e : Event}
    {fault : Fault} (h : e.subject r c.template = .error fault) (host : MailHost) :
    c.deliver r e host = Logged.quiet (.error (.mail (.subject fault)), host) := by
  have hmail : c.mail r e = .error (.subject fault) := Event.mail_eq_subject_error_iff.mpr h
  rw [deliver, hmail]
  rfl

namespace Event

/-- The first look that fails leaves the template as it is, or there is no subject. -/
theorem subject_of_look_eq_error {r : Reflection} {e : Event} {template value : Text} {f : Field}
    {step : Step} {rest : List Step} {fault : Fault}
    (hstops : StopsAt r e.subjectValues template (.field f))
    (hvalue : e.subjectValues.lookup f.first = some value) (hsteps : f.steps = step :: rest)
    (hlook : r.look (.text value) step = .error fault) :
    e.subject r template = if fault = .unusable then .ok template else .error fault :=
  subject_of_fault
    (hstops.fill_eq (shown_of_look_eq_error e.subjectValues_named hvalue hsteps hlook))

/-- What a template makes of an event, whatever the machine knows of its values.

Literal texts and fields without looks give their subject: a field shows the value of its name,
quoted, cut and filled up as it says.  If one of them says nothing, and none asks for more code
points than the machine can show, the template is its own subject.  Any template gives what its
pieces show; the first piece that shows nothing decides whether the template is its own subject or
there is none.  There is none only if a field looks into its value or asks for too many code points.
A first look that fails is decided by its fault.  So there is no subject if it asks for an item of a
text by name, or, on a standard machine, for a member that texts do not have.  If there is none,
there is no mail and nothing is delivered; otherwise the subject never stands in the way of a
mail. -/
theorem subject_of_template (r : Reflection) (e : Event) (template : Text) :
    (∀ parts : List Part, (∀ part ∈ parts, part.WellFormed) → template = write parts →
      (∀ texts, List.Forall₂ (Part.Shows r.widthLimit e.subjectValues) parts texts →
        e.subject r template = .ok texts.flatten) ∧
      ((∀ f s, .field f ∈ parts → Spec.ofText f.spec = some s → s.width ≤ r.widthLimit) →
        (¬ ∃ texts, List.Forall₂ (Part.Shows r.widthLimit e.subjectValues) parts texts) →
          e.subject r template = .ok template)) ∧
    ((∃ texts,
        List.Forall₂ (fun p u => p.shown r e.subjectValues = .ok u) (pieces template) texts ∧
        e.subject r template = .ok texts.flatten) ∨
      ∃ p fault, StopsAt r e.subjectValues template p ∧ p.shown r e.subjectValues = .error fault ∧
        e.subject r template = if fault = .unusable then .ok template else .error fault) ∧
    (∀ fault, e.subject r template = .error fault →
      (∃ f ∈ fieldsTo (maxDepth + 1) template, f.steps ≠ []) ∨
        fault = .tooWide ∧
          ∃ f ∈ fieldsTo (maxDepth + 1) template, f.TooWide r e.subjectValues) ∧
    (∀ (f : Field) (value : Text) (step : Step) (rest : List Step) (fault : Fault),
      StopsAt r e.subjectValues template (.field f) →
      e.subjectValues.lookup f.first = some value → f.steps = step :: rest →
      r.look (.text value) step = .error fault →
        e.subject r template = if fault = .unusable then .ok template else .error fault) ∧
    (∀ (f : Field) (value key : Text) (rest : List Step),
      StopsAt r e.subjectValues template (.field f) →
      e.subjectValues.lookup f.first = some value → f.steps = .item (.name key) :: rest →
        e.subject r template =
          .error (.wrongKind "string indices must be integers, not 'str'")) ∧
    (∀ (place : Object → Text) (limit : Nat) (f : Field) (value member : Text) (rest : List Step),
      StopsAt (.standard place limit) e.subjectValues template (.field f) →
      e.subjectValues.lookup f.first = some value → f.steps = .member member :: rest →
      Kind.text.find? member = none →
        e.subject (.standard place limit) template =
          .error ((Object.text value).noMember member)) ∧
    ∀ fault, (∀ (sender : Text) (recipients : List Text),
        e.mail r template sender recipients = .error (.subject fault) ↔
          e.subject r template = .error fault) ∧
      ∀ (c : EmailChannel) (host : MailHost), c.template = template →
        e.subject r template = .error fault →
          c.deliver r e host = Logged.quiet (.error (.mail (.subject fault)), host) := by
  refine ⟨?_, subject_cases r e template, ?_, ?_, ?_, ?_, ?_⟩
  · rintro parts hparts rfl
    exact ⟨fun texts => subject_write hparts, subject_write_of_not_shows hparts⟩
  · -- Without looks there is nothing to be wrong with but the template as a whole and a width.
    intro fault h
    obtain ⟨hne, hfill⟩ := subject_eq_error_iff.mp h
    by_cases hsteps : ∀ f ∈ fieldsTo (maxDepth + 1) template, f.steps = []
    · exact .inr ((faults_of_fill hsteps hfill).resolve_left hne)
    · exact .inl (by simpa using hsteps)
  · intro f value step rest fault
    exact subject_of_look_eq_error
  · intro f value key rest hstops hvalue hsteps
    exact subject_of_look_eq_error hstops hvalue hsteps (look_named_item r value key)
  · intro place limit f value member rest hstops hvalue hsteps hmember
    exact subject_of_look_eq_error hstops hvalue hsteps
      (look_missing_member place limit value hmember)
  · intro fault
    refine ⟨fun sender recipients => mail_eq_subject_error_iff, ?_⟩
    rintro c host rfl h
    exact EmailChannel.deliver_of_subject_error h host

/-- The creation of a pod. -/
def exampleCreation : Event where
  operation := .create
  resourceKind := "Pod"
  scope := "shop"
  name := "web"

/-- A machine that keeps all objects in one place. -/
def exampleReflection : Reflection :=
  .standard (fun _ => "0x0") 100

theorem subject_of_template_exampleCreation :
    exampleCreation.subject exampleReflection "\x7bname:*>6.2\x7d|\x7bkind!r:^7\x7d" =
        .ok "****we| 'Pod' " ∧
      exampleCreation.subject exampleReflection "\x7bkind\x7d \x7bcluster\x7d" =
        .ok "\x7bkind\x7d \x7bcluster\x7d" ∧
      exampleCreation.subject exampleReflection "\x7bname.foo\x7d" =
        .error (.noMember "'str' object has no attribute 'foo'") := by
  refine ⟨?_, ?_, ?_⟩
  · obtain ⟨hwritten, -⟩ := subject_of_template exampleReflection exampleCreation
      "\x7bname:*>6.2\x7d|\x7bkind!r:^7\x7d"
    have hname : Field.Shows ⟨"name", none, "*>6.2"⟩ 100 "web" "****we" :=
      ⟨"web", { fill := ↑ '*', alignment := some .right, width := 6, precision := some 2 },
        .nothing _, rfl, by decide, ⟨rfl, rfl, rfl, rfl, nofun, .inl rfl⟩, 4, 0, rfl, rfl, rfl⟩
    have hquoted : Text.quoted "Pod" = "'Pod'" := by decide +kernel
    have hkind : Field.Shows ⟨"kind", some ↑ 'r', "^7"⟩ 100 "Pod" " 'Pod' " :=
      ⟨"'Pod'", { alignment := some .center, width := 7 }, hquoted ▸ .quoted "Pod", rfl, by decide,
        ⟨rfl, rfl, rfl, rfl, nofun, .inl rfl⟩, 1, 1, rfl, rfl, .inl rfl⟩
    have hparts := hwritten
      [.field ⟨"name", none, "*>6.2"⟩, .literal "|", .field ⟨"kind", some ↑ 'r', "^7"⟩]
      (by decide) (by decide)
    refine hparts.1 ["****we", "|", " 'Pod' "] ?_
    exact .cons (.field rfl hname) (.cons (.literal _) (.cons (.field rfl hkind) .nil))
  · obtain ⟨hwritten, -⟩ :=
      subject_of_template exampleReflection exampleCreation "\x7bkind\x7d \x7bcluster\x7d"
    refine (hwritten [.field ⟨"kind", none, []⟩, .literal " ", .field ⟨"cluster", none, []⟩]
      (by decide) (by decide)).2 ?_ ?_
    · intro f s hf hs
      have hspec : f.spec = [] := by
        simp only [List.mem_cons, List.not_mem_nil, Part.field.injEq, reduceCtorEq, false_or,
          or_false] at hf
        rcases hf with rfl | rfl <;> rfl
      rw [hspec] at hs
      cases hs
      exact Nat.zero_le _
    · -- no value has the name of the last field
      rintro ⟨_, _ | ⟨-, _ | ⟨-, _ | ⟨hcluster, -⟩⟩⟩⟩
      cases hcluster with
      | field hvalue => cases hvalue
  · obtain ⟨-, -, -, -, -, hmember, -⟩ :=
      subject_of_template exampleReflection exampleCreation "\x7bname.foo\x7d"
    have hpieces : pieces "\x7bname.foo\x7d" = [.field ⟨"name.foo", none, []⟩] := by decide
    have hstops : StopsAt exampleReflection exampleCreation.subjectValues "\x7bname.foo\x7d"
        (.field ⟨"name.foo", none, []⟩) := ⟨[], [], hpieces, List.forall_mem_nil _⟩
    have hmessage : (Object.text "web").noMember "foo" =
        .noMember "'str' object has no attribute 'foo'" := by decide +kernel
    rw [← hmessage]
    exact hmember _ _ _ "web" "foo" [] hstops (by decide) (by decide) (by decide)

end Event

end AdmissionLedger
