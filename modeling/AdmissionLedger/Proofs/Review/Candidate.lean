import AdmissionLedger.Proofs.Tree.Redaction
import AdmissionLedger.Review.Candidate

/-!
# What becomes of a request

A request is turned into a candidate unless it names no known operation, carries
something else than objects, or deletes a Secret whose payload has no digest.  The
parts of a candidate always fit together: only an update has a patch and only a
deletion a snapshot.

## Main definitions

* `Event.Consistent` — the parts of an event fit together.
* `Request.CarriesObjects` — both objects of a request are objects or missing.
* `Request.Unhashable` — the request deletes a Secret with a payload that has no digest.

## Main results

* `Event.check_eq_ok_iff` — the check of an event passes exactly if its parts fit together.
* `Event.ofRequest_eq_ok` — a candidate has the fields of its request, and it is consistent.
* `Event.ofRequest_ne_inconsistent` — the parts of a candidate never fail to fit together.
* `Event.exists_ofRequest_iff` — when a request has a candidate.
-/

namespace AdmissionLedger

/-! ### Events that fit together -/

/-- The parts of an event fit together: a patch only on an update, a snapshot only on a deletion,
and a pattern on every denied event. -/
structure Event.Consistent (e : Event) : Prop where
  patch : e.patch ≠ [] → e.operation = .update
  snapshot : e.snapshot.isSome = true → e.operation = .delete
  pattern : e.allowed = false → e.blockPattern ≠ []

/-- The check of an event changes nothing. -/
theorem Event.eq_of_check {e e' : Event} (h : e.check = .ok e') : e' = e := by
  unfold Event.check at h
  repeat' split at h
  all_goals cases h
  rfl

/-- The check of an event passes exactly if its parts fit together. -/
theorem Event.check_eq_ok_iff {e : Event} : e.check = .ok e ↔ e.Consistent := by
  unfold Event.check
  constructor
  · intro h
    repeat' split at h
    all_goals try cases h
    next hboth hpatch hsnapshot hpattern =>
      simp only [Bool.and_eq_true, Bool.not_eq_true', List.isEmpty_eq_false_iff, decide_eq_true_eq,
        not_and, not_not, List.isEmpty_iff] at hpatch hsnapshot hpattern
      exact ⟨hpatch, hsnapshot, hpattern⟩
  · rintro ⟨hpatch, hsnapshot, hpattern⟩
    -- the first test adds nothing to the next two, for no operation is both
    have hboth : ¬ ((!e.patch.isEmpty && e.snapshot.isSome) = true) := by
      simp only [Bool.and_eq_true, Bool.not_eq_true', List.isEmpty_eq_false_iff, not_and]
      intro hp hs
      have hop := (hpatch hp).symm.trans (hsnapshot hs)
      cases hop
    rw [if_neg hboth, if_neg, if_neg, if_neg]
    · simpa using hpattern
    · simpa using hsnapshot
    · simpa using hpatch

/-! ### What an operation carries -/

/-- Only an update carries a patch and only a deletion a snapshot. -/
theorem Operation.payload_eq_ok {op : Operation} {kind : Text} {old new : Tree} {patch : Patch}
    {snapshot : Option Tree} (h : (op.payload kind old new).value = .ok (patch, snapshot)) :
    (patch ≠ [] → op = .update) ∧ (snapshot.isSome = true → op = .delete) := by
  cases op with
  | create => cases h; simp
  | exec => cases h; simp
  | update =>
    simp only [Operation.payload] at h
    split at h
    · cases h; simp
    · cases h; simp
  | delete =>
    simp only [Operation.payload] at h
    split at h
    · cases h; simp
    · simp only at h
      split at h
      · cases h; simp
      · cases h

/-- What an operation carries is missing only if the old object of a deletion cannot be prepared. -/
theorem Operation.payload_eq_error {op : Operation} {kind : Text} {old new : Tree}
    {e : CandidateError} (h : (op.payload kind old new).value = .error e) :
    op = .delete ∧ ∃ x, Tree.prepare kind old = .error x ∧ e = .unpreparable x := by
  cases op with
  | create => cases h
  | exec => cases h
  | update =>
    simp only [Operation.payload] at h
    split at h
    · cases h
    · cases h
  | delete =>
    simp only [Operation.payload] at h
    split at h
    · cases h
    · simp only at h
      split at h
      · cases h
      · next x hx =>
        cases h
        exact ⟨rfl, x, hx, rfl⟩

/-! ### Candidates -/

/-- A field passes exactly if it holds an object or nothing. -/
theorem Tree.requireObject_eq_ok_iff (field : Text) {t : Tree} :
    t.requireObject field = .ok () ↔ t.kind = .absent ∨ t.kind = .map := by
  cases t <;> simp [Tree.requireObject, Tree.kind]

/-- A field that does not pass is named with the type of what it holds. -/
theorem Tree.eq_notAnObject_of_requireObject {field : Text} {t : Tree} {e : CandidateError}
    (h : t.requireObject field = .error e) : e = .notAnObject field t.typeName := by
  unfold requireObject at h
  split at h <;> cases h
  rfl

theorem Tree.eq_null_of_isNull {t : Tree} (h : t.isNull = true) : t = .null := by
  unfold isNull at h
  split at h
  · rfl
  · cases h

namespace Request

/-- Both objects of a request are objects or missing. -/
structure CarriesObjects (r : Request) : Prop where
  old : r.oldObject.kind = .absent ∨ r.oldObject.kind = .map
  new : r.object.kind = .absent ∨ r.object.kind = .map

/-- The request deletes a Secret with a text among its payloads that has no bytes. -/
structure Unhashable (r : Request) : Prop where
  deletion : Operation.ofRequest? r.operation = some .delete
  sensitive : r.kind.kind = Tree.sensitiveKind
  payload : ∃ t : Text, .str t ∈ (r.oldObject.withoutNoise []).payloads ∧ t.hasSurrogate = true

/-- A candidate is consistent if it carries what its operation carries. -/
theorem consistent_candidate {r : Request} {op : Operation} {patch : Patch}
    {snapshot : Option Tree} (hpatch : patch ≠ [] → op = .update)
    (hsnapshot : snapshot.isSome = true → op = .delete) :
    (r.candidate op patch snapshot).Consistent where
  patch := hpatch
  snapshot := hsnapshot
  pattern := fun h => by cases h

end Request

/-- Preparing a tree fails exactly if it is a Secret with a payload that has no bytes. -/
theorem Tree.exists_prepare_error_iff {kind : Text} {t : Tree} :
    (∃ x, prepare kind t = .error x) ↔ kind = sensitiveKind ∧
      ∃ s : Text, .str s ∈ (t.withoutNoise []).payloads ∧ s.hasSurrogate = true := by
  have hfails : (∃ x, redact (t.withoutNoise []) = .error x) ↔
      ¬ ∃ p, redact (t.withoutNoise []) = .ok p := by
    cases redact (t.withoutNoise []) <;> simp
  unfold prepare
  split
  · next hkind =>
    rw [hfails, exists_redact_iff]
    simp only [hkind, true_and, not_forall]
    constructor
    · rintro ⟨p, hp, hhash⟩
      -- every value that is no text has a digest
      cases p with
      | str s => exact ⟨s, hp, by simpa [isHashable] using hhash⟩
      | _ => exact absurd rfl hhash
    · rintro ⟨s, hs, hsurrogate⟩
      exact ⟨.str s, hs, by simp [isHashable, hsurrogate]⟩
  · next hkind => simp [hkind]

namespace Event

/-- The candidate of a request that names an operation and carries objects. -/
theorem ofRequest_of_carriesObjects {r : Request} {op : Operation}
    (hop : Operation.ofRequest? r.operation = some op) (hobjects : r.CarriesObjects) :
    (ofRequest r).value = match (op.payload r.kind.kind r.oldObject r.object).value with
      | .error e => .error e
      | .ok (patch, snapshot) => .ok (r.candidate op patch snapshot) := by
  have hold := (Tree.requireObject_eq_ok_iff "oldObject").mpr hobjects.old
  have hnew := (Tree.requireObject_eq_ok_iff "object").mpr hobjects.new
  simp only [ofRequest, hop, hold, hnew, Logged.value_bind]
  cases hpayload : (op.payload r.kind.kind r.oldObject r.object).value with
  | error e => rfl
  | ok carried =>
    obtain ⟨patch, snapshot⟩ := carried
    obtain ⟨hpatch, hsnapshot⟩ := Operation.payload_eq_ok hpayload
    have hcheck := check_eq_ok_iff.mpr
      (Request.consistent_candidate (r := r) hpatch hsnapshot)
    -- what an operation carries fits it, so that the check passes
    simp only [Logged.value_pure, hcheck]
    rfl

/-- A candidate has the fields of its request and carries what its operation carries. -/
theorem ofRequest_eq_ok {r : Request} {e : Event} (h : (ofRequest r).value = .ok e) :
    ∃ op patch snapshot, Operation.ofRequest? r.operation = some op ∧ r.CarriesObjects ∧
      (op.payload r.kind.kind r.oldObject r.object).value = .ok (patch, snapshot) ∧
      e = r.candidate op patch snapshot := by
  cases hop : Operation.ofRequest? r.operation with
  | none => simp only [ofRequest, hop, Logged.value_pure] at h; cases h
  | some op =>
    have hobjects : r.CarriesObjects := by
      simp only [ofRequest, hop] at h
      split at h
      · cases h
      · cases h
      · next hold hnew =>
        exact ⟨(Tree.requireObject_eq_ok_iff _).mp hold, (Tree.requireObject_eq_ok_iff _).mp hnew⟩
    rw [ofRequest_of_carriesObjects hop hobjects] at h
    split at h
    · cases h
    · next patch snapshot hpayload =>
      exact ⟨op, patch, snapshot, rfl, hobjects, hpayload, (Except.ok.inj h).symm⟩

theorem consistent_of_ofRequest {r : Request} {e : Event} (h : (ofRequest r).value = .ok e) :
    e.Consistent := by
  obtain ⟨op, patch, snapshot, -, -, hpayload, rfl⟩ := ofRequest_eq_ok h
  obtain ⟨hpatch, hsnapshot⟩ := Operation.payload_eq_ok hpayload
  exact Request.consistent_candidate hpatch hsnapshot

/-- A request that names an operation and carries objects has a candidate unless a payload of its
old object has no digest. -/
theorem ofRequest_value_of_carriesObjects {r : Request} {op : Operation}
    (hop : Operation.ofRequest? r.operation = some op) (hobjects : r.CarriesObjects) :
    (¬ r.Unhashable ∧ ∃ e, (ofRequest r).value = .ok e) ∨
      (r.Unhashable ∧ ∃ x, (ofRequest r).value = .error (.unpreparable x)) := by
  rw [ofRequest_of_carriesObjects hop hobjects]
  cases hpayload : (op.payload r.kind.kind r.oldObject r.object).value with
  | ok carried =>
    refine .inl ⟨?_, ⟨r.candidate op carried.1 carried.2, rfl⟩⟩
    intro hun
    have hdelete := hop.symm.trans hun.deletion
    cases hdelete
    obtain ⟨x, hx⟩ := Tree.exists_prepare_error_iff.mpr ⟨hun.sensitive, hun.payload⟩
    simp only [Operation.payload] at hpayload
    split at hpayload
    · next hnull =>
      -- nothing is deleted, so there is nothing to hash
      obtain ⟨t, ht, -⟩ := hun.payload
      rw [Tree.eq_null_of_isNull hnull] at ht
      exact absurd ht (by simp [Tree.withoutNoise, Tree.payloads])
    · rw [hx] at hpayload
      cases hpayload
  | error e =>
    obtain ⟨rfl, x, hx, rfl⟩ := Operation.payload_eq_error hpayload
    obtain ⟨hkind, ht⟩ := Tree.exists_prepare_error_iff.mp ⟨x, hx⟩
    exact .inr ⟨⟨hop, hkind, ht⟩, x, rfl⟩

/-- A request that names an operation but does not carry objects is refused for one of them. -/
theorem exists_notAnObject_of_not_carriesObjects {r : Request} {op : Operation}
    (hop : Operation.ofRequest? r.operation = some op) (hobjects : ¬ r.CarriesObjects) :
    ∃ field typeName, (ofRequest r).value = .error (.notAnObject field typeName) := by
  simp only [ofRequest, hop]
  split
  · next hold => exact ⟨_, _, congrArg _ (Tree.eq_notAnObject_of_requireObject hold)⟩
  · next hnew => exact ⟨_, _, congrArg _ (Tree.eq_notAnObject_of_requireObject hnew)⟩
  · next hold hnew =>
    exact absurd ⟨(Tree.requireObject_eq_ok_iff _).mp hold,
      (Tree.requireObject_eq_ok_iff _).mp hnew⟩ hobjects

/-- A request has no candidate because it is refused, or because it deletes a Secret whose payload
has no digest. -/
theorem ofRequest_eq_error {r : Request} {e : CandidateError} (h : (ofRequest r).value = .error e) :
    (e.isRefusal = true ∧ (Operation.ofRequest? r.operation = none ∨ ¬ r.CarriesObjects)) ∨
      (r.CarriesObjects ∧ r.Unhashable ∧ ∃ x, e = .unpreparable x) := by
  cases hop : Operation.ofRequest? r.operation with
  | none =>
    simp only [ofRequest, hop, Logged.value_pure] at h
    cases h
    exact .inl ⟨rfl, .inl rfl⟩
  | some op =>
    by_cases hobjects : r.CarriesObjects
    · right
      obtain ⟨-, e', he'⟩ | ⟨hun, x, hx⟩ := ofRequest_value_of_carriesObjects hop hobjects
      · rw [h] at he'
        cases he'
      · rw [h] at hx
        exact ⟨hobjects, hun, x, Except.error.inj hx⟩
    · left
      obtain ⟨field, typeName, hrefused⟩ := exists_notAnObject_of_not_carriesObjects hop hobjects
      rw [h] at hrefused
      cases hrefused
      exact ⟨rfl, .inr hobjects⟩

/-- The parts of a candidate never fail to fit together. -/
theorem ofRequest_ne_inconsistent (r : Request) (x : EventError) :
    (ofRequest r).value ≠ .error (.inconsistent x) := by
  intro h
  obtain ⟨hrefusal, -⟩ | ⟨-, -, y, hy⟩ := ofRequest_eq_error h
  · cases hrefusal
  · cases hy

/-- A request has a candidate exactly if it names an operation, carries objects and deletes no
payload without a digest. -/
theorem exists_ofRequest_iff {r : Request} : (∃ e, (ofRequest r).value = .ok e) ↔
    (∃ op, Operation.ofRequest? r.operation = some op) ∧ r.CarriesObjects ∧ ¬ r.Unhashable := by
  constructor
  · rintro ⟨e, he⟩
    obtain ⟨op, -, -, hop, hobjects, -, -⟩ := ofRequest_eq_ok he
    refine ⟨⟨op, hop⟩, hobjects, ?_⟩
    obtain ⟨hun, -⟩ | ⟨-, x, hx⟩ := ofRequest_value_of_carriesObjects hop hobjects
    · exact hun
    · rw [he] at hx
      cases hx
  · rintro ⟨⟨op, hop⟩, hobjects, hun⟩
    obtain ⟨-, he⟩ | ⟨hun', -⟩ := ofRequest_value_of_carriesObjects hop hobjects
    · exact he
    · exact absurd hun' hun

end Event

end AdmissionLedger
