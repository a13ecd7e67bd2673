import AdmissionLedger.Alert.Router
import AdmissionLedger.Proofs.Review.Candidate
import AdmissionLedger.Proofs.Rules.Verdict
import AdmissionLedger.Proofs.Text.Case

/-!
# Names of operations

Operations are named in three places, in any case: in a request, in the gate of block rules
and in the filter of a router.  Requests and routers compare upper cases, the gate compares
folded names, and neither mapping is one for ASCII alone.  All three recognize the same
texts: the name of the operation up to the case of ASCII letters.

## Main results

* `Operation.name_eq_upper_iff`, `Operation.fold_eq_fold_name_iff` — what the two comparisons find.
* `Operation.ofRequest?_eq_some_iff` — the operation that a request names.
* `Event.ofRequest_eq_unsupported_iff` — when a request is refused for its operation.
* `Operation.recognized_alike` — the three places recognize the same texts.
-/

namespace AdmissionLedger

namespace Operation

/-! ### Comparisons -/

theorem isPlain_name (op : Operation) : ∀ c ∈ op.name, c.IsPlain := by
  cases op <;> decide

theorem upperAscii_name (op : Operation) : op.name.upperAscii = op.name := by
  cases op <;> decide

/-- The name of an operation is the upper case of those texts that are the name up to the case of
ASCII letters. -/
theorem name_eq_upper_iff {op : Operation} {s : Text} :
    op.name = s.upper ↔ s.upperAscii = op.name := by
  rw [eq_comm, Text.upper_eq_iff op.isPlain_name]

/-- The same texts fold to what the name folds to. -/
theorem fold_eq_fold_name_iff {op : Operation} {s : Text} :
    s.fold = op.name.fold ↔ s.upperAscii = op.name := by
  rw [Text.fold_eq_fold_iff op.isPlain_name, upperAscii_name]

/-! ### Requests -/

/-- A request is for the reviewed operation whose name is the upper case of what it says. -/
theorem ofRequest?_eq_some_iff {name : Text} {op : Operation} :
    ofRequest? name = some op ↔ op ∈ reviewed ∧ op.name = name.upper := by
  constructor
  · intro h
    have hfound := List.find?_some h
    rw [decide_eq_true_eq] at hfound
    exact ⟨List.mem_of_find?_eq_some h, hfound⟩
  · rintro ⟨hop, hname⟩
    -- no two reviewed operations share a name
    have hfirst : ∀ op ∈ reviewed, reviewed.find? (fun op' => op'.name = op.name) = some op := by
      decide
    rw [ofRequest?, ← hname]
    exact hfirst op hop

theorem ofRequest?_eq_none_iff {name : Text} :
    ofRequest? name = none ↔ ∀ op ∈ reviewed, op.name ≠ name.upper := by
  rw [ofRequest?, List.find?_eq_none]
  simp only [decide_eq_true_eq, Ne]

end Operation

namespace Event

/-- A candidate is for the operation that its request names. -/
theorem operation_of_ofRequest {r : Request} {e : Event} (h : (ofRequest r).value = .ok e) :
    Operation.ofRequest? r.operation = some e.operation := by
  obtain ⟨op, patch, snapshot, hop, -, -, rfl⟩ := ofRequest_eq_ok h
  exact hop

/-- A request is refused for its operation exactly if it names none that is reviewed. -/
theorem ofRequest_eq_unsupported_iff {r : Request} :
    (ofRequest r).value = .error (.unsupportedOperation r.operation) ↔
      Operation.ofRequest? r.operation = none := by
  constructor
  · intro h
    cases hop : Operation.ofRequest? r.operation with
    | none => rfl
    | some op =>
      by_cases hobjects : r.CarriesObjects
      · obtain ⟨-, e, he⟩ | ⟨-, x, hx⟩ := ofRequest_value_of_carriesObjects hop hobjects
        · rw [h] at he
          cases he
        · rw [h] at hx
          cases hx
      · obtain ⟨field, typeName, hrefused⟩ := exists_notAnObject_of_not_carriesObjects hop hobjects
        rw [h] at hrefused
        cases hrefused
  · intro hop
    simp only [ofRequest, hop, Logged.value_pure]

end Event

/-! ### All three places -/

namespace Operation

variable {κ : Type}

/-- A text is recognized as a reviewed operation in requests, by the gate of block rules and by the
filter of a router under one condition: that it is the name of the operation up to the case of ASCII
letters.  Requests that name none of the reviewed operations are refused for it. -/
theorem recognized_alike (channels : List κ) (s : Text) {op : Operation} (hop : op ∈ reviewed) :
    (ofRequest? s = some op ↔ s.upperAscii = op.name) ∧
    (∀ r : Request, r.operation = s → ∀ e, (Event.ofRequest r).value = .ok e →
      (e.operation = op ↔ s.upperAscii = op.name)) ∧
    (∀ r : Request, r.operation = s →
      ((Event.ofRequest r).value = .error (.unsupportedOperation s) ↔
        ∀ op' ∈ reviewed, s.upperAscii ≠ op'.name)) ∧
    (∀ rules : BlockRules, rules.operations = [s] →
      (rules.admits op = true ↔ s.upperAscii = op.name)) ∧
    ((Router.filtered channels [s]).alertsOn op = true ↔ s.upperAscii = op.name) := by
  have hrequest : ofRequest? s = some op ↔ s.upperAscii = op.name := by
    rw [ofRequest?_eq_some_iff, and_iff_right hop, name_eq_upper_iff]
  refine ⟨hrequest, ?_, ?_, ?_, ?_⟩
  · rintro r rfl e he
    rw [← hrequest, Event.operation_of_ofRequest he, Option.some.injEq]
  · rintro r rfl
    rw [Event.ofRequest_eq_unsupported_iff, ofRequest?_eq_none_iff]
    exact forall₂_congr fun op' _ => not_congr name_eq_upper_iff
  · intro rules hrules
    rw [BlockRules.admits_iff, hrules, ← fold_eq_fold_name_iff]
    simp
  · rw [← name_eq_upper_iff]
    simp [Router.alertsOn, Router.filtered]

/-- One of two texts is an operation in mixed case.  The other begins with a wide letter, whose
cases are wide letters too. -/
theorem recognized_alike_mixedCase :
    let mixed : Text := "dELeTe"
    let wide : Text := "\uFF44elete"
    delete ∈ reviewed ∧ ofRequest? mixed = some delete ∧
      ({ operations := [mixed] } : BlockRules).admits delete = true ∧
      (Router.filtered [()] [mixed]).alertsOn delete = true ∧
      (Event.ofRequest { uid := [], operation := wide }).value =
        .error (.unsupportedOperation wide) ∧
      ({ operations := [wide] } : BlockRules).admits delete ≠ true ∧
      (Router.filtered [()] [wide]).alertsOn delete ≠ true := by
  intro mixed wide
  have hop : delete ∈ reviewed := by decide
  have hmixed : mixed.upperAscii = delete.name := by decide
  have hwide : ∀ op ∈ reviewed, wide.upperAscii ≠ op.name := by decide
  obtain ⟨hrequest, -, -, hgate, hfilter⟩ := recognized_alike [()] mixed hop
  obtain ⟨-, -, hrefused, hgate', hfilter'⟩ := recognized_alike [()] wide hop
  exact ⟨hop, hrequest.mpr hmixed, (hgate _ rfl).mpr hmixed, hfilter.mpr hmixed,
    (hrefused _ rfl).mpr hwide, fun h => hwide _ hop ((hgate' _ rfl).mp h),
    fun h => hwide _ hop (hfilter'.mp h)⟩

end Operation

end AdmissionLedger
