import AdmissionLedger.Proofs.Http.Refusal

/-!
# Whom an answer is for

A requester knows its answer by the identity of the request.  A decision takes it from
the request where the envelope is usable, and from the bare document where it is not.  The
two readings differ in that a checked field takes the last of several entries, and a bare
one the first, but a document that was read has no key twice.  So every decision
has the text at one place of the document, whatever becomes of the rest of it.

## Main definitions

* `uidLocation` — where a document has the identity of its request.
* `Correlated` — an identity is the one that a body gives to its request.

## Main results

* `recoverUid_eq`, `recoverUid_of_asReview` — the two readings, and why they agree.
* `correlated_review` — every decision has the identity of its request.
-/

namespace AdmissionLedger

/-! ### Checked fields -/

namespace Tree

variable {entries : List (Text × Tree)} {key : String} {value : Tree}

/-- If no key stands twice, the last entry of a key is the first. -/
theorem lookup_of_lastOf? (hnodup : (keysOf entries).Nodup)
    (h : lastOf? key entries = some value) : entries.lookup (Text.ofString key) = some value :=
  lookup_of_mem hnodup (mem_of_lastOf? h)

/-- A field with one name is the value of a key, or the default. -/
theorem exists_of_fieldUnder {α : Type} {default : Check α} {check : Tree → Check α} {a : α}
    (h : fieldUnder [key] default check entries = .ok a) :
    default = .ok a ∨ ∃ value, lastOf? key entries = some value ∧ check value = .ok a := by
  simp only [fieldUnder, List.findSome?_cons, List.findSome?_nil] at h
  cases hlast : lastOf? key entries with
  | none =>
    rw [hlast] at h
    exact .inl h
  | some value =>
    rw [hlast] at h
    exact .inr ⟨value, rfl, h⟩

/-- A request that was checked has the identity that stands under its key. -/
theorem uid_of_asRequest {t : Tree} {r : Request} (h : t.asRequest = .ok r) :
    ∃ fields, t = .object fields ∧ lastOf? "uid" fields = some (.str r.uid) := by
  simp only [asRequest, Check.andThen_eq_ok_iff, Check.seq_eq_ok_iff, Check.map_eq_ok_iff] at h
  obtain ⟨fields, hfields, _, _, ⟨_, _, ⟨_, _, ⟨_, _, ⟨_, _, ⟨_, _, ⟨_, _, ⟨_, _, ⟨uid, huid, rfl⟩,
    _, rfl⟩, _, rfl⟩, _, rfl⟩, _, rfl⟩, _, rfl⟩, _, rfl⟩, _, rfl⟩, _, rfl⟩ := h
  refine ⟨fields, asEntries_eq_ok_iff.mp hfields, ?_⟩
  obtain hdefault | ⟨value, hvalue, htext⟩ := exists_of_fieldUnder huid
  · cases hdefault
  · rw [hvalue, asText_eq_ok_iff.mp htext]

/-- The request of a review that was checked stands under its key. -/
theorem request_of_asReview {t : Tree} {version : Text} {r : Request}
    (h : t.asReview = .ok (version, some r)) :
    ∃ entries request, t = .object entries ∧ lastOf? "request" entries = some request ∧
      request.asRequest = .ok r := by
  simp only [asReview, Check.andThen_eq_ok_iff, Check.seq_eq_ok_iff, Check.map_eq_ok_iff] at h
  obtain ⟨entries, hentries, _, request?, ⟨_, _, ⟨_, _, rfl⟩, _, rfl⟩, hrequest, hr⟩ := h
  obtain ⟨-, rfl⟩ := Prod.mk.inj hr
  obtain hdefault | ⟨request, hlast, hchecked⟩ := exists_of_fieldUnder hrequest
  · cases hdefault
  · refine ⟨entries, request, asEntries_eq_ok_iff.mp hentries, hlast, ?_⟩
    split at hchecked
    · cases hchecked
    · obtain ⟨r', hr', heq⟩ := Check.map_eq_ok_iff.mp hchecked
      rw [hr', Option.some.inj heq]

end Tree

/-! ### The two readings -/

/-- Where a document has the identity of its request. -/
def uidLocation : List Text := ["request", "uid"]

/-- The identity that is read off a bare document: the text at its place, or none. -/
theorem recoverUid_eq (t : Tree) : recoverUid t =
    match t.at? uidLocation with
    | some (.str uid) => uid
    | _ => [] := by
  rw [recoverUid, uidLocation, Tree.at?]
  cases t.get? "request" with
  | none => rfl
  | some request =>
    simp only [Option.bind_some, Tree.at?]
    cases request.get? "uid" <;> rfl

/-- A request that was checked has the identity that is read off the bare document. -/
theorem recoverUid_of_asReview {t : Tree} (hdistinct : t.Distinct) {version : Text} {r : Request}
    (h : t.asReview = .ok (version, some r)) : recoverUid t = r.uid := by
  obtain ⟨entries, request, rfl, hrequest, hchecked⟩ := Tree.request_of_asReview h
  obtain ⟨fields, rfl, huid⟩ := Tree.uid_of_asRequest hchecked
  have hrequest' := Tree.lookup_of_lastOf? (Tree.distinct_object.mp hdistinct).1 hrequest
  have hfields := Tree.distinct_of_lookup hdistinct hrequest'
  have huid' := Tree.lookup_of_lastOf? (Tree.distinct_object.mp hfields).1 huid
  simp only [recoverUid, Tree.get?, hrequest', Option.bind_some, huid']

/-! ### Decisions -/

/-- An identity is the one that a body gives to its request, if it may be nested to some depth. -/
structure Correlated (depth : Nat) (body : Bytes) (uid : Text) : Prop where
  /-- A body that cannot be read gives none. -/
  unreadable : ∀ e, Json.readBytes depth body = .error e → uid = []
  /-- It is the text at its place in the document. -/
  present : ∀ t text, Json.readBytes depth body = .ok t → t.at? uidLocation = some (.str text) →
    uid = text
  /-- Without a text there, there is none. -/
  missing : ∀ t, Json.readBytes depth body = .ok t →
    (∀ text, t.at? uidLocation ≠ some (.str text)) → uid = []

section

variable {σ : Type} {depth : Nat} {policy : Policy} {sink : Option (Sink σ)} {clock : Clock} {s : σ}

theorem correlated_of_readBytes_eq_error {body : Bytes} {e : Json.ReadError}
    (h : Json.readBytes depth body = .error e) : Correlated depth body [] where
  unreadable := fun _ _ => rfl
  present := by
    intro t text hread
    cases h.symm.trans hread
  missing := fun _ _ _ => rfl

theorem correlated_of_readBytes_eq_ok {body : Bytes} {t : Tree}
    (h : Json.readBytes depth body = .ok t) : Correlated depth body (recoverUid t) where
  unreadable := by
    intro e hread
    cases h.symm.trans hread
  present := by
    intro t' text hread hat
    cases h.symm.trans hread
    rw [recoverUid_eq, hat]
  missing := by
    intro t' hread hnone
    cases h.symm.trans hread
    rw [recoverUid_eq]
    split
    · next hat => exact absurd hat (hnone _)
    · rfl

/-- Whatever way a decision takes, it has the identity of the request. -/
theorem Decided.uid_eq {r : Request} {result : Decision × Clock × σ}
    (h : Decided policy sink r clock s result) : result.1.uid = r.uid := by
  cases h <;> rfl

end

/-- Every decision has the identity of its request: the text at its place in the document, and none
without a document or without a text there.  It is the same for all ways in which a review can end,
and for all at which the envelope can be found wanting. -/
theorem correlated_review {σ : Type} (depth : Nat) (policy : Policy) (sink : Option (Sink σ))
    (body : Bytes) (clock : Clock) (s : σ) :
    Correlated depth body (review depth policy sink body clock s).value.1.uid := by
  unfold review
  cases hbody : Request.ofBytes depth body with
  | error failure =>
    show Correlated depth body failure.2
    unfold Request.ofBytes at hbody
    cases hread : Json.readBytes depth body with
    | error e =>
      rw [hread] at hbody
      cases hbody
      exact correlated_of_readBytes_eq_error hread
    | ok t =>
      rw [hread] at hbody
      dsimp only at hbody
      cases htree : Request.ofTree t with
      | error e =>
        rw [htree] at hbody
        cases hbody
        exact correlated_of_readBytes_eq_ok hread
      | ok r =>
        rw [htree] at hbody
        cases hbody
  | ok r =>
    obtain ⟨t, hread, hreview⟩ := Request.ofBytes_eq_ok hbody
    show Correlated depth body (decide policy sink r clock s).value.1.uid
    rw [(decided_decide policy sink r clock s).uid_eq,
      ← recoverUid_of_asReview (Json.distinct_of_readBytes hread) hreview]
    exact correlated_of_readBytes_eq_ok hread

end AdmissionLedger
