import AdmissionLedger.Proofs.Rules.Glob
import AdmissionLedger.Rules.Verdict

/-!
# What rules say about an event

The three lists of rules are one list of patterns, each with the value of the event that
it is about.  Ignore rules ask whether some pattern of it matches; block rules look for
the first that is not empty and does.  So block rules behind whose gate an operation
passes deny what the same patterns would ignore, the empty ones left out, and neither
the order of the patterns nor a repetition matters to whether they do.

## Main definitions

* `Patterns.questions` — the patterns in the order in which they are tried.
* `Patterns.withoutEmpty` — rules without their empty patterns.
* `BlockRules.Within`, `BlockRules.SameMembers` — rules with more patterns, with the same.

## Main results

* `shouldIgnore_iff`, `isBlock_shouldBlock_iff` — the two verdicts in terms of the patterns.
* `shouldBlock_eq_block_iff` — what a denial consists of.
* `shouldBlock_agrees_with_shouldIgnore` — the two verdicts, one in terms of the other.
-/

namespace AdmissionLedger

/-! ### Patterns in order -/

/-- Whether a pattern matches, found out by the search or by comparison. -/
theorem Glob.accepts_iff_matches {pattern value : Text} :
    accepts pattern value = true ↔ Matches pattern value := by
  unfold accepts
  split
  · exact search_iff_matches
  · next hstar =>
    rw [List.contains_iff_mem] at hstar
    rw [beq_iff_eq, matches_iff_eq_of_not_mem hstar]

/-- A pattern that is not empty matches the value that it is about. -/
def Fires (question : Text × Text) : Prop :=
  question.1 ≠ [] ∧ Glob.Matches question.1 question.2

theorem fires_iff {pattern value : Text} :
    Fires (pattern, value) ↔ (!pattern.isEmpty && Glob.accepts pattern value) = true := by
  rw [Bool.and_eq_true, Bool.not_eq_true', List.isEmpty_eq_false_iff, Glob.accepts_iff_matches]
  exact Iff.rfl

instance : DecidablePred Fires := fun _ =>
  decidable_of_iff _ fires_iff.symm

namespace Patterns

/-- The patterns in the order in which they are tried, each with the value of the event that it is
about: those on the namespace, those on the name, those on the kind. -/
def questions (p : Patterns) (e : Event) : List (Text × Text) :=
  p.namespaces.map (fun pattern => (pattern, e.scope)) ++
    p.names.map (fun pattern => (pattern, e.name)) ++
    p.kinds.map fun pattern => (pattern, e.resourceKind)

/-- The same patterns without the empty ones. -/
def withoutEmpty (p : Patterns) : Patterns :=
  ⟨p.namespaces.filter (· ≠ []), p.names.filter (· ≠ []), p.kinds.filter (· ≠ [])⟩

variable {p : Patterns} {e : Event}

theorem questions_withoutEmpty (p : Patterns) (e : Event) :
    p.withoutEmpty.questions e = (p.questions e).filter (·.1 ≠ []) := by
  simp only [questions, withoutEmpty, List.filter_append, List.filter_map]
  rfl

/-- The first match is the first pattern that fires. -/
theorem firstMatch_eq (p : Patterns) (e : Event) :
    p.firstMatch e = ((p.questions e).find? fun question => Fires question).map (·.1) := by
  have hlist : ∀ (patterns : List Text) (value : Text), firstPattern patterns value =
      ((patterns.map fun pattern => (pattern, value)).find?
        fun question => Fires question).map (·.1) := by
    intro patterns value
    rw [firstPattern, List.find?_map, Option.map_map]
    simp only [Function.comp_def, Option.map_id', fires_iff, Bool.decide_eq_true]
  rw [firstMatch, questions, List.find?_append, List.find?_append, Option.map_or, Option.map_or,
    hlist, hlist, hlist, Option.or_assoc]

/-- What is found is a pattern that fires, and those before it do not. -/
theorem firstMatch_eq_some_iff {pattern : Text} : p.firstMatch e = some pattern ↔
    ∃ before value after, p.questions e = before ++ (pattern, value) :: after ∧
      Fires (pattern, value) ∧ ∀ question ∈ before, ¬ Fires question := by
  rw [firstMatch_eq, Option.map_eq_some_iff]
  simp only [List.find?_eq_some_iff_append, decide_eq_true_eq, Bool.not_eq_true',
    decide_eq_false_iff_not]
  constructor
  · rintro ⟨⟨_, value⟩, ⟨hfires, before, after, hquestions, hbefore⟩, rfl⟩
    exact ⟨before, value, after, hquestions, hfires, hbefore⟩
  · rintro ⟨before, value, after, hquestions, hfires, hbefore⟩
    exact ⟨(pattern, value), ⟨hfires, before, after, hquestions, hbefore⟩, rfl⟩

theorem isSome_firstMatch_iff :
    (p.firstMatch e).isSome = true ↔ ∃ question ∈ p.questions e, Fires question := by
  simp only [firstMatch_eq, Option.isSome_map, List.find?_isSome, decide_eq_true_eq]

/-- What matches is never the empty pattern. -/
theorem firstMatch_ne_nil {pattern : Text} (h : p.firstMatch e = some pattern) :
    pattern ≠ [] := by
  obtain ⟨_, _, _, -, hfires, -⟩ := firstMatch_eq_some_iff.mp h
  exact hfires.1

end Patterns

/-! ### The two verdicts -/

/-- An event is ignored if some pattern matches, be it empty or not. -/
theorem shouldIgnore_iff {p : Patterns} {e : Event} : shouldIgnore e (some p) = true ↔
    ∃ question ∈ p.questions e, Glob.Matches question.1 question.2 := by
  simp only [shouldIgnore, Glob.acceptsAny, Patterns.questions, Bool.or_eq_true, List.any_eq_true,
    Glob.accepts_iff_matches, List.mem_append, List.mem_map, or_and_right, exists_or,
    exists_exists_and_eq_and]

/-- Whether a verdict denies the event. -/
def Verdict.isBlock : Verdict → Bool
  | pass => false
  | block .. => true

variable {e : Event} {r r' : BlockRules}

/-- There is always something to tell a requester. -/
theorem BlockRules.effectiveMessage_ne_nil (r : BlockRules) : r.effectiveMessage ≠ [] := by
  unfold effectiveMessage
  split
  · decide
  · next h => rwa [List.isEmpty_iff] at h

/-- The gate admits all operations if it names none, and else those that it names in some case. -/
theorem BlockRules.admits_iff {op : Operation} : r.admits op = true ↔
    r.operations = [] ∨ ∃ name ∈ r.operations, name.fold = op.name.fold := by
  simp only [admits, Bool.or_eq_true, List.isEmpty_iff, List.any_eq_true, beq_iff_eq]
  exact or_congr_right (exists_congr fun _ => and_congr_right fun _ => eq_comm)

/-- An event is denied by the first match, with the message of the rules, if the gate admits it. -/
theorem shouldBlock_eq_block_iff {pattern message : Text} :
    shouldBlock e (some r) = .block pattern message ↔ r.admits e.operation = true ∧
      r.firstMatch e = some pattern ∧ message = r.effectiveMessage := by
  simp only [shouldBlock]
  cases r.admits e.operation with
  | false => simp
  | true =>
    cases r.firstMatch e with
    | none => simp
    | some pattern' => simp [eq_comm]

/-- Without rules nothing is denied. -/
theorem exists_of_shouldBlock {rules? : Option BlockRules} {pattern message : Text}
    (h : shouldBlock e rules? = .block pattern message) :
    ∃ rules, rules? = some rules ∧ rules.admits e.operation = true ∧
      rules.firstMatch e = some pattern ∧ message = rules.effectiveMessage := by
  cases rules? with
  | none => cases h
  | some rules => exact ⟨rules, rfl, shouldBlock_eq_block_iff.mp h⟩

/-- A denial names its pattern and tells the requester something. -/
theorem ne_nil_of_shouldBlock {rules? : Option BlockRules} {pattern message : Text}
    (h : shouldBlock e rules? = .block pattern message) : pattern ≠ [] ∧ message ≠ [] := by
  obtain ⟨rules, -, -, hmatch, rfl⟩ := exists_of_shouldBlock h
  exact ⟨Patterns.firstMatch_ne_nil hmatch, rules.effectiveMessage_ne_nil⟩

/-- An event is denied if the gate admits it and some pattern fires. -/
theorem isBlock_shouldBlock_iff : (shouldBlock e (some r)).isBlock = true ↔
    r.admits e.operation = true ∧ ∃ question ∈ r.questions e, Fires question := by
  rw [← Patterns.isSome_firstMatch_iff]
  simp only [shouldBlock]
  cases r.admits e.operation with
  | false => simp [Verdict.isBlock]
  | true => cases r.firstMatch e <;> simp [Verdict.isBlock]

/-- What fires is what the patterns would ignore, the empty ones left out. -/
theorem shouldIgnore_withoutEmpty_iff {p : Patterns} : shouldIgnore e (some p.withoutEmpty) = true ↔
    ∃ question ∈ p.questions e, Fires question := by
  rw [shouldIgnore_iff, Patterns.questions_withoutEmpty]
  simp only [List.mem_filter, decide_eq_true_eq, and_assoc]
  exact Iff.rfl

/-! ### Rules with more patterns -/

namespace BlockRules

/-- All patterns of some rules are among those of others, and the gate of the others admits no
less. -/
structure Within (r r' : BlockRules) : Prop where
  namespaces : r.namespaces ⊆ r'.namespaces
  names : r.names ⊆ r'.names
  kinds : r.kinds ⊆ r'.kinds
  operations : r.operations ⊆ r'.operations
  /-- A gate that admits all operations stays one. -/
  ungated : r.operations = [] → r'.operations = []

/-- The lists of two rules have the same members, in any order and any number of times. -/
structure SameMembers (r r' : BlockRules) : Prop where
  namespaces : ∀ pattern, pattern ∈ r.namespaces ↔ pattern ∈ r'.namespaces
  names : ∀ pattern, pattern ∈ r.names ↔ pattern ∈ r'.names
  kinds : ∀ pattern, pattern ∈ r.kinds ↔ pattern ∈ r'.kinds
  operations : ∀ name, name ∈ r.operations ↔ name ∈ r'.operations

theorem SameMembers.symm (h : r.SameMembers r') : r'.SameMembers r where
  namespaces := fun pattern => (h.namespaces pattern).symm
  names := fun pattern => (h.names pattern).symm
  kinds := fun pattern => (h.kinds pattern).symm
  operations := fun name => (h.operations name).symm

theorem SameMembers.within (h : r.SameMembers r') : r.Within r' where
  namespaces := fun pattern => (h.namespaces pattern).mp
  names := fun pattern => (h.names pattern).mp
  kinds := fun pattern => (h.kinds pattern).mp
  operations := fun name => (h.operations name).mp
  ungated := by
    intro hnil
    rw [List.eq_nil_iff_forall_not_mem]
    intro name hname
    have hmem := (h.operations name).mpr hname
    rw [hnil] at hmem
    cases hmem

theorem Within.questions (h : r.Within r') (e : Event) : r.questions e ⊆ r'.questions e := by
  intro question hquestion
  simp only [Patterns.questions, List.mem_append] at hquestion ⊢
  exact hquestion.imp (Or.imp (fun hmem => List.map_subset _ h.namespaces hmem)
    fun hmem => List.map_subset _ h.names hmem) fun hmem => List.map_subset _ h.kinds hmem

theorem Within.admits (h : r.Within r') {op : Operation} (hadmits : r.admits op = true) :
    r'.admits op = true := by
  rw [admits_iff] at hadmits ⊢
  obtain hnil | ⟨name, hname, hfold⟩ := hadmits
  · exact .inl (h.ungated hnil)
  · exact .inr ⟨name, h.operations hname, hfold⟩

/-- More patterns deny no less. -/
theorem Within.isBlock (h : r.Within r') (hblock : (shouldBlock e (some r)).isBlock = true) :
    (shouldBlock e (some r')).isBlock = true := by
  rw [isBlock_shouldBlock_iff] at hblock ⊢
  obtain ⟨hadmits, question, hquestion, hfires⟩ := hblock
  exact ⟨h.admits hadmits, question, h.questions e hquestion, hfires⟩

end BlockRules

/-! ### One verdict in terms of the other -/

/-- Block rules deny what their gate admits and their patterns, the empty ones left out, would have
ignored.  The pattern of a denial is the first that fires, and there is a message.  Neither order
nor repetition matters to whether an event is denied, and more patterns deny no less. -/
theorem shouldBlock_agrees_with_shouldIgnore (e : Event) (r : BlockRules) :
    ((shouldBlock e (some r)).isBlock = true ↔
      (r.operations = [] ∨ ∃ name ∈ r.operations, name.fold = e.operation.name.fold) ∧
        shouldIgnore e (some r.withoutEmpty) = true) ∧
    (∀ pattern message, shouldBlock e (some r) = .block pattern message → message ≠ [] ∧
      ∃ before value after, r.questions e = before ++ (pattern, value) :: after ∧
        Fires (pattern, value) ∧ ∀ question ∈ before, ¬ Fires question) ∧
    (∀ r', r.SameMembers r' →
      (shouldBlock e (some r')).isBlock = (shouldBlock e (some r)).isBlock) ∧
    ∀ r', r.Within r' → (shouldBlock e (some r)).isBlock = true →
      (shouldBlock e (some r')).isBlock = true := by
  refine ⟨?_, ?_, ?_, fun r' hwithin => hwithin.isBlock⟩
  · rw [isBlock_shouldBlock_iff, BlockRules.admits_iff, shouldIgnore_withoutEmpty_iff]
  · intro pattern message hblock
    have hmatch := (shouldBlock_eq_block_iff.mp hblock).2.1
    exact ⟨(ne_nil_of_shouldBlock hblock).2, Patterns.firstMatch_eq_some_iff.mp hmatch⟩
  · intro r' hsame
    rw [Bool.eq_iff_iff]
    exact ⟨hsame.symm.within.isBlock, hsame.within.isBlock⟩

/-- Rules for two operations, with an empty pattern and two that fire. -/
def BlockRules.exampleRules : BlockRules where
  namespaces := ["", "prod"]
  kinds := ["*"]
  operations := ["Create", "delete"]

/-- The creation of a resource without a name. -/
def exampleCreation : Event where
  operation := .create
  resourceKind := "Pod"
  scope := "prod"
  name := []

theorem shouldBlock_agrees_with_shouldIgnore_exampleRules :
    let r : BlockRules := .exampleRules
    let again : BlockRules := { r with
      namespaces := ["prod", "", "prod"], operations := r.operations.reverse }
    let more : BlockRules := { r with names := ["x*"], operations := "EXEC" :: r.operations }
    (shouldBlock exampleCreation (some r)).isBlock = true ∧
      shouldBlock exampleCreation (some r) = .block "prod" r.effectiveMessage ∧
      (∃ before value after,
          r.questions exampleCreation = before ++ (Text.ofString "prod", value) :: after ∧
        Fires ("prod", value) ∧ ∀ question ∈ before, ¬ Fires question) ∧
      r.SameMembers again ∧ (shouldBlock exampleCreation (some again)).isBlock = true ∧
      r.Within more ∧ (shouldBlock exampleCreation (some more)).isBlock = true := by
  intro r again more
  obtain ⟨hagrees, hfirst, hsame, hmore⟩ := shouldBlock_agrees_with_shouldIgnore exampleCreation r
  have hblock : (shouldBlock exampleCreation (some r)).isBlock = true :=
    hagrees.mpr ⟨.inr ⟨"Create", by decide, by decide +kernel⟩, by decide +kernel⟩
  have hpattern : shouldBlock exampleCreation (some r) = .block "prod" r.effectiveMessage := by
    decide +kernel
  have hmembers : r.SameMembers again := {
    namespaces := by
      intro pattern
      simp only [r, again, BlockRules.exampleRules, List.mem_cons, List.not_mem_nil, or_false]
      exact ⟨.inr, fun h => h.elim .inr id⟩
    names := fun _ => Iff.rfl
    kinds := fun _ => Iff.rfl
    operations := fun _ => List.mem_reverse.symm }
  have hwithin : r.Within more := by
    constructor <;> simp [r, more, BlockRules.exampleRules]
  exact ⟨hblock, hpattern, (hfirst _ _ hpattern).2, hmembers, (hsame again hmembers).trans hblock,
    hwithin, hmore more hwithin hblock⟩

end AdmissionLedger
