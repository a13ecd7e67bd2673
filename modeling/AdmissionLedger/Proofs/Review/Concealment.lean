import AdmissionLedger.Proofs.Patch.Apply
import AdmissionLedger.Proofs.Review.Candidate
import AdmissionLedger.Proofs.Tree.Concealment

/-!
# What an event tells about a Secret

An event carries objects in two places only: the patch of an update and the snapshot of a
deletion.  Both are taken from prepared trees, so what is concealed there is concealed in
all that becomes of the event.

## Main definitions

* `Request.Conceals` — what the event of a request conceals of its objects.

## Main results

* `Request.conceals_of_ofRequest` — what the event of a request about a Secret conceals.
* `Tree.conceals_secret` — what preparation conceals of a Secret, and events with it.
-/

namespace AdmissionLedger

/-- What an event conceals of the objects of a request: the snapshot of the old one, and every
edit, at its own place, of the new one. -/
structure Request.Conceals (r : Request) (e : Event) : Prop where
  snapshot : ∀ t, e.snapshot = some t → Tree.Conceals (r.oldObject.withoutNoise []) t
  patch : ∀ edit ∈ e.patch, ∀ value, edit.value? = some value →
    ∃ keys, edit.location = Pointer.ofKeys keys ∧
      Tree.ConcealsAt (r.object.withoutNoise []) (Tree.keySteps keys) value

/-- The snapshot of a deletion is the old object as it is prepared. -/
theorem Operation.prepare_of_payload {op : Operation} {kind : Text} {old new snapshot : Tree}
    {patch : Patch} (h : (op.payload kind old new).value = .ok (patch, some snapshot)) :
    Tree.prepare kind old = .ok snapshot := by
  cases op with
  | create => cases h
  | exec => cases h
  | update =>
    simp only [payload] at h
    split at h
    · cases h
    · cases h
  | delete =>
    simp only [payload] at h
    split at h
    · cases h
    · simp only at h
      split at h
      · next hprepare =>
        cases h
        exact hprepare
      · cases h

theorem Patch.value_orEmpty (kind : Text) (old new : Tree) :
    (Patch.orEmpty kind old new).value = (Patch.between kind old new).toOption.getD [] := by
  unfold orEmpty
  cases Patch.between kind old new <;> rfl

/-- The patch of an update is the one between the two objects, or empty. -/
theorem Operation.between_of_payload {op : Operation} {kind : Text} {old new : Tree} {patch : Patch}
    {snapshot : Option Tree} (h : (op.payload kind old new).value = .ok (patch, snapshot)) :
    patch = [] ∨ Patch.between kind old new = .ok patch := by
  cases op with
  | create => cases h; exact .inl rfl
  | exec => cases h; exact .inl rfl
  | update =>
    simp only [payload] at h
    split at h
    · cases h
      exact .inl rfl
    · rw [Logged.value_bind, Logged.value_pure, Patch.value_orEmpty] at h
      cases h
      cases Patch.between kind old new with
      | ok patch => exact .inr rfl
      | error e => exact .inl rfl
  | delete =>
    simp only [payload] at h
    split at h
    · cases h
      exact .inl rfl
    · simp only at h
      split at h
      · cases h
        exact .inl rfl
      · cases h

/-- The edits of a patch bring parts of the new tree as it is prepared. -/
theorem Patch.concealsAt_of_between {old new : Tree} {patch : Patch}
    (h : Patch.between Tree.sensitiveKind old new = .ok patch) :
    ∀ edit ∈ patch, ∀ value, edit.value? = some value →
      ∃ keys, edit.location = Pointer.ofKeys keys ∧
        Tree.ConcealsAt (new.withoutNoise []) (Tree.keySteps keys) value := by
  obtain ⟨old', -, h⟩ := Except.bind_eq_ok_iff.mp h
  obtain ⟨new', hnew, h⟩ := Except.bind_eq_ok_iff.mp h
  cases h
  rw [List.forall_mem_map]
  intro edit hedit value hvalue
  have hvalue' : edit.value? = some value := by cases edit <;> exact hvalue
  obtain ⟨keys, hlocation, hloc⟩ := Tree.bringsFrom_edits [] old' new' edit hedit value hvalue'
  refine ⟨keys, ?_, (Tree.conceals_prepare hnew).concealsAt hloc (Tree.throughMaps_keySteps keys)⟩
  rw [Edit.location_relocate, hlocation, List.nil_append]

/-- What the event of a request about a Secret conceals. -/
theorem Request.conceals_of_ofRequest {r : Request} {e : Event}
    (hkind : r.kind.kind = Tree.sensitiveKind) (h : (Event.ofRequest r).value = .ok e) :
    r.Conceals e := by
  obtain ⟨op, patch, snapshot, -, -, hpayload, rfl⟩ := Event.ofRequest_eq_ok h
  rw [hkind] at hpayload
  constructor
  · intro t ht
    cases ht
    exact Tree.conceals_prepare (Operation.prepare_of_payload hpayload)
  · obtain rfl | hbetween := Operation.between_of_payload hpayload
    · exact List.forall_mem_nil _
    · exact Patch.concealsAt_of_between hbetween

namespace Tree

/-- Preparation leaves nothing but digests of all payloads of a Secret that it finds through maps,
and leaves those in sequences as they are.  So of all payloads nothing but digests is left exactly
if that is so for those in sequences from the start, and what an event carries is no different. -/
theorem conceals_secret {t t' : Tree} (h : prepare sensitiveKind t = .ok t') :
    Conceals (t.withoutNoise []) t' ∧
    (PayloadsConcealed t' ↔ ∀ value route, Located value route (t.withoutNoise []) →
      PayloadRoute route → ¬ ThroughMaps route → Concealed value) ∧
    ∀ (r : Request) (e : Event), r.kind.kind = sensitiveKind →
      (Event.ofRequest r).value = .ok e → r.Conceals e :=
  ⟨conceals_prepare h, (conceals_prepare h).payloadsConcealed_iff,
    fun _ _ => Request.conceals_of_ofRequest⟩

/-- A digest is longer than its mark. -/
theorem length_of_digest {value : Tree} {text : Text} (h : digest value = .ok text) :
    Payload.digestMark.length ≤ text.length := by
  obtain ⟨bytes, -, rfl⟩ := Except.map_eq_ok_iff.mp h
  rw [Payload.digestBytes, List.length_append]
  exact Nat.le_add_right ..

/-- A payload in a sequence, as in a list of objects. -/
def exampleListed : Tree :=
  .record [("items", .array [.record [("data", .record [("password", .str "x")])]])]

theorem not_concealed_of_plain : ¬ Concealed (.record [("password", .str "x")]) := by
  intro h
  cases h with
  | whole h =>
    obtain ⟨value, text, -, heq⟩ := h
    cases heq
  | values h =>
    obtain ⟨value, text, htext, heq⟩ := h _ List.mem_cons_self
    cases heq
    exact absurd (length_of_digest htext) (by decide)

theorem conceals_secret_exampleListed :
    prepare sensitiveKind exampleListed = .ok exampleListed ∧
      ¬ PayloadsConcealed exampleListed := by
  have hprepare : prepare sensitiveKind exampleListed = .ok exampleListed := by rfl
  refine ⟨hprepare, fun h => not_concealed_of_plain ?_⟩
  refine ((conceals_secret hprepare).2.1.mp h) _
    [.key "items", .item 0, .key "data"] ?_ ?_ ?_
  · exact .under List.mem_cons_self (.among rfl (.under List.mem_cons_self .root))
  · exact ⟨[.key "items", .item 0], "data", rfl, by decide, by decide⟩
  · exact fun h => h 0 (by simp)

end Tree

end AdmissionLedger
