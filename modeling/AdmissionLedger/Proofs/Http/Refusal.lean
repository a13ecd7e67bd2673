import AdmissionLedger.Proofs.Http.Wire
import AdmissionLedger.Proofs.Review.Operation

/-!
# Refusals

Whatever is posted where reviews are expected, the answer is a review document of the
version that is understood, with a flag in it.  Only one of the many ways to an answer
refuses: the body has been read as a review, its request has a candidate, and a pattern
of the block rules in force matches that candidate.  All failures on the way, those of
writing the answer included, allow the operation.

## Main definitions

* `Patterns.Hits` — a pattern of some rules matches an event.
* `Refusable` — what has to be so for a body to be refused.
* `Reviewed` — what is right about every document with which a body is answered.

## Main results

* `refusable_of_denied` — only what is refusable is denied.
* `reviewed_answer`, `reviewed_failOpen` — the two kinds of documents.
* `reviewed_serve` — every posted body is answered with such a document.
-/

namespace AdmissionLedger

/-! ### Patterns that match -/

/-- A pattern that is not empty stands in one of the lists of rules and matches the value of an
event that the list is about. -/
structure Patterns.Hits (p : Patterns) (e : Event) (pattern : Text) : Prop where
  nonempty : pattern ≠ []
  listed : pattern ∈ p.namespaces ∧ Glob.accepts pattern e.scope = true ∨
    pattern ∈ p.names ∧ Glob.accepts pattern e.name = true ∨
    pattern ∈ p.kinds ∧ Glob.accepts pattern e.resourceKind = true

/-- The pattern that denies an event matches it. -/
theorem Patterns.hits_of_firstMatch {p : Patterns} {e : Event} {pattern : Text}
    (h : p.firstMatch e = some pattern) : p.Hits e pattern := by
  obtain ⟨before, value, after, hquestions, hfires, -⟩ := firstMatch_eq_some_iff.mp h
  have haccepts : Glob.accepts pattern value = true := Glob.accepts_iff_matches.mpr hfires.2
  have hmem : (pattern, value) ∈ p.questions e := by simp [hquestions]
  refine ⟨hfires.1, ?_⟩
  simp only [questions, List.mem_append, List.mem_map, Prod.mk.injEq] at hmem
  obtain (⟨_, hmem, rfl, rfl⟩ | ⟨_, hmem, rfl, rfl⟩) | ⟨_, hmem, rfl, rfl⟩ := hmem
  · exact .inl ⟨hmem, haccepts⟩
  · exact .inr (.inl ⟨hmem, haccepts⟩)
  · exact .inr (.inr ⟨hmem, haccepts⟩)

/-! ### What can be refused -/

/-- What has to be so for a body to be refused, in terms of the request that it holds and of the
candidate of that request. -/
structure Refusable (depth : Nat) (policy : Policy) (body : Bytes) (r : Request) (c : Event) :
    Prop where
  /-- The body is a review of the version that is understood, and has a request. -/
  review : ∃ t, Json.readBytes depth body = .ok t ∧ t.asReview = .ok (apiVersion, some r)
  /-- The request has a candidate. -/
  candidate : (Event.ofRequest r).value = .ok c
  /-- The request is for a creation, an update or a deletion, in any case. -/
  operation : c.operation ∈ [.create, .update, .delete] ∧ c.operation.name = r.operation.upper
  /-- The candidate is about what the request is about. -/
  target : c.resourceKind = r.kind.kind ∧ c.scope = r.scope ∧ c.name = r.resourceName c.operation
  /-- Block rules are in force, let the operation be denied, and have a pattern that matches. -/
  block : ∃ rules pattern, policy.block = some rules ∧ rules.admits c.operation = true ∧
    rules.Hits c pattern

/-- A request comes from a review of the version that is understood. -/
theorem Request.ofBytes_eq_ok {depth : Nat} {body : Bytes} {r : Request}
    (h : ofBytes depth body = .ok r) :
    ∃ t, Json.readBytes depth body = .ok t ∧ t.asReview = .ok (apiVersion, some r) := by
  unfold ofBytes at h
  cases hread : Json.readBytes depth body with
  | error e =>
    rw [hread] at h
    cases h
  | ok t =>
    rw [hread] at h
    refine ⟨t, rfl, ?_⟩
    cases hreview : t.asReview with
    | bad n =>
      simp only [ofTree, hreview] at h
      cases h
    | ok review =>
      obtain ⟨version, request⟩ := review
      by_cases hversion : version = apiVersion
      · cases request with
        | none =>
          simp only [ofTree, hreview, hversion] at h
          cases h
        | some r' =>
          simp only [ofTree, hreview, hversion] at h
          cases h
          rw [hversion]
      · simp only [ofTree, hreview, Ne, hversion, not_false_eq_true, if_true] at h
        cases h

section

variable {σ : Type} {depth : Nat} {policy : Policy} {sink : Option (Sink σ)} {body : Bytes}
  {clock : Clock} {s : σ}

/-- Only one way through the stages refuses: that of a candidate which a block rule denies. -/
theorem Decided.deny_of_allowed_eq_false {r : Request} {result : Decision × Clock × σ}
    (h : Decided policy sink r clock s result) (hrefused : result.1.allowed = false) :
    ∃ c pattern message, (Event.ofRequest r).value = .ok c ∧
      shouldBlock c policy.block = .block pattern message := by
  cases h with
  | denied c event pattern message hcandidate hrule =>
    exact ⟨c, pattern, message, hcandidate, Policy.rule_eq_deny_iff.mp hrule⟩
  | undecoded => cases hrefused
  | unstamped => cases hrefused
  | skipped => cases hrefused
  | recorded => cases hrefused

/-- Only what is refusable is denied, whatever the clock and the sink. -/
theorem refusable_of_denied
    (h : (review depth policy sink body clock s).value.1.allowed = false) :
    ∃ r c, Refusable depth policy body r c := by
  unfold review at h
  cases hbody : Request.ofBytes depth body with
  | error failure =>
    rw [hbody] at h
    cases h
  | ok r =>
    rw [hbody] at h
    obtain ⟨c, pattern, message, hcandidate, hblock⟩ :=
      (decided_decide policy sink r clock s).deny_of_allowed_eq_false h
    obtain ⟨op, patch, snapshot, hop, -, -, hc⟩ := Event.ofRequest_eq_ok hcandidate
    obtain ⟨rules, hrules, hadmits, hmatch, -⟩ := exists_of_shouldBlock hblock
    exact ⟨r, c, {
      review := Request.ofBytes_eq_ok hbody
      candidate := hcandidate
      operation := hc ▸ Operation.ofRequest?_eq_some_iff.mp hop
      target := hc ▸ ⟨rfl, rfl, rfl⟩
      block := ⟨rules, pattern, hrules, hadmits, Patterns.hits_of_firstMatch hmatch⟩ }⟩

/-- The request of what is refusable is the one that the body holds. -/
theorem Refusable.ofBytes_eq {r : Request} {c : Event} (h : Refusable depth policy body r c) :
    Request.ofBytes depth body = .ok r := by
  obtain ⟨t, hread, hreview⟩ := h.review
  simp only [Request.ofBytes, hread, Request.ofTree, hreview]
  rfl

end

/-! ### What is answered -/

/-- What is right about a document with which a body is answered. -/
structure Reviewed (depth : Nat) (policy : Policy) (body : Bytes) (document : Tree) : Prop where
  version : document.at? ["apiVersion"] = some (.str "admission.k8s.io/v1")
  kind : document.at? ["kind"] = some (.str "AdmissionReview")
  /-- The answer allows the operation, or the body is refusable and the answer has the code of a
  refusal. -/
  flag : document.at? ["response", "allowed"] = some (.bool true) ∨
    document.at? ["response", "allowed"] = some (.bool false) ∧
      document.at? ["response", "status", "code"] = some (.nat 403) ∧
      ∃ r c, Refusable depth policy body r c
  /-- A body that holds no request is allowed. -/
  undecoded : ∀ failure, Request.ofBytes depth body = .error failure →
    document.at? ["response", "allowed"] = some (.bool true)
  /-- So is one whose request has no candidate. -/
  unbuilt : ∀ r e, Request.ofBytes depth body = .ok r → (Event.ofRequest r).value = .error e →
    document.at? ["response", "allowed"] = some (.bool true)

section

variable {depth : Nat} {policy : Policy} {body : Bytes} {d : Decision}

/-- A decision that refuses only what is refusable allows all else. -/
theorem at?_answer_of_not_refusable
    (h : d.allowed = false → ∃ r c, Refusable depth policy body r c)
    (hnot : ∀ r c, ¬ Refusable depth policy body r c) :
    d.answer.at? ["response", "allowed"] = some (.bool true) := by
  rw [d.at?_answer_allowed]
  cases hallowed : d.allowed with
  | true => rfl
  | false =>
    obtain ⟨r, c, hrefusable⟩ := h hallowed
    exact absurd hrefusable (hnot r c)

/-- The answer of a decision that refuses only what is refusable. -/
theorem reviewed_answer (h : d.allowed = false → ∃ r c, Refusable depth policy body r c) :
    Reviewed depth policy body d.answer where
  version := rfl
  kind := rfl
  flag := by
    rw [d.at?_answer_allowed]
    cases hallowed : d.allowed with
    | true => exact .inl rfl
    | false => exact .inr ⟨rfl, (Decision.at?_answer_status hallowed).1, h hallowed⟩
  undecoded := by
    intro failure hbody
    refine at?_answer_of_not_refusable h fun r c hrefusable => ?_
    cases hbody.symm.trans hrefusable.ofBytes_eq
  unbuilt := by
    intro r e hbody hcandidate
    refine at?_answer_of_not_refusable h fun r' c hrefusable => ?_
    cases hbody.symm.trans hrefusable.ofBytes_eq
    cases hcandidate.symm.trans hrefusable.candidate

/-- The answer after a failure. -/
theorem reviewed_failOpen (detail : Text) :
    Reviewed depth policy body (Decision.failOpen [] detail).answer :=
  reviewed_answer fun h => by cases h

end

/-- Every body that is posted is answered with status 200 and a document, which is a review of the
version that is understood and refuses only what is refusable.  This is so also if the decision
about the body cannot be written: the answer after that failure always can. -/
theorem reviewed_serve {σ : Type} (counts : List Counter) (depth : Nat) (policy : Policy)
    (sink : Option (Sink σ)) (body : Bytes) (clock : Clock) (s : σ) :
    ∃ document bytes, ((HttpRequest.posted body).serve counts (reviewing depth policy sink)
        (clock, s)).value.1.response = .ok ⟨200, .document document bytes, none, none⟩ ∧
      (document.write .unicode).encodeUtf8 = .ok bytes ∧
      Reviewed depth policy body document := by
  have hrefused := @refusable_of_denied σ depth policy sink body clock s
  rw [serve_posted]
  generalize (review depth policy sink body clock s).value.1 = d at hrefused
  by_cases hencodable : d.answer.Encodable
  · obtain ⟨bytes, hdocument, hbytes⟩ := HttpResponse.document_of_encodable 200 hencodable
    rw [hdocument]
    exact ⟨d.answer, bytes, rfl, hbytes, reviewed_answer hrefused⟩
  · obtain ⟨e, he⟩ := HttpResponse.document_of_not_encodable 200 hencodable
    -- the wording of the failure is plain, so that it can be told
    obtain ⟨bytes, hdocument, hbytes⟩ := HttpResponse.document_of_encodable 200
      (Decision.encodable_answer_failOpen e.isAscii_message)
    rw [he]
    exact ⟨_, bytes, hdocument, hbytes, reviewed_failOpen e.message⟩

/-- The body of a review of a creation in a closed namespace, with a list in place of the object. -/
def listedCreation : Bytes :=
  (Text.ofString "\x7b\"apiVersion\":\"admission.k8s.io/v1\",\"request\":\x7b\"uid\":\"u1\"," ++
    Text.ofString "\"kind\":\x7b\"kind\":\"Pod\"\x7d,\"namespace\":\"prod\",\"object\":[]," ++
    Text.ofString "\"operation\":\"CREATE\"\x7d\x7d").flatMap CodePoint.utf8Bytes

/-- The request of `listedCreation` has no candidate. -/
theorem exists_candidateError_listedCreation :
    ∃ r e, Request.ofBytes 1000 listedCreation = .ok r ∧ (Event.ofRequest r).value = .error e := by
  have hnone : ((Request.ofBytes 1000 listedCreation).toOption.map fun r =>
      (Event.ofRequest r).value.toOption.isNone) = some true := by decide +kernel
  obtain ⟨r, hr, hcandidate⟩ := Option.map_eq_some_iff.mp hnone
  cases hbody : Request.ofBytes 1000 listedCreation with
  | error failure =>
    rw [hbody] at hr
    cases hr
  | ok r' =>
    rw [hbody] at hr
    cases hr
    cases he : (Event.ofRequest r).value with
    | ok c =>
      rw [he] at hcandidate
      cases hcandidate
    | error e => exact ⟨r, e, rfl, he⟩

/-- A creation in a closed namespace is refused, and allowed if its object is a list. -/
theorem reviewed_serve_closedCreation :
    let answer (body : Bytes) := ((HttpRequest.posted body).serve []
      (reviewing 1000 (.closing "prod") (some .keeping)) (.exampleReading, [])).value.1.response
    (∃ document bytes,
        answer (closedCreation "u1") = .ok ⟨200, .document document bytes, none, none⟩ ∧
      Reviewed 1000 (.closing "prod") (closedCreation "u1") document ∧
      document.at? ["response", "allowed"] = some (.bool false) ∧
      document.at? ["response", "status", "code"] = some (.nat 403)) ∧
    ∃ document bytes, answer listedCreation = .ok ⟨200, .document document bytes, none, none⟩ ∧
      Reviewed 1000 (.closing "prod") listedCreation document ∧
      document.at? ["response", "allowed"] = some (.bool true) := by
  intro answer
  constructor
  · obtain ⟨document, bytes, hresponse, -, hreviewed⟩ := reviewed_serve [] 1000 (.closing "prod")
      (some .keeping) (closedCreation "u1") .exampleReading []
    generalize hd : (review 1000 (.closing "prod") (some .keeping) (closedCreation "u1")
      .exampleReading []).value.1 = d
    have hallowed : d.allowed = false := hd ▸ by decide +kernel
    have hencodable : d.answer.Encodable := d.encodable_answer_iff.mpr (hd ▸ by decide +kernel)
    -- what is served is the answer of the decision, since that has bytes
    obtain ⟨bytes', hdocument, -⟩ := HttpResponse.document_of_encodable 200 hencodable
    have hserved : answer (closedCreation "u1") =
        .ok ⟨200, .document d.answer bytes', none, none⟩ := by
      refine (serve_posted [] 1000 (.closing "prod") (some .keeping) (closedCreation "u1")
        .exampleReading []).trans ?_
      rw [hd, hdocument]
    cases hserved.symm.trans hresponse
    refine ⟨d.answer, bytes, hresponse, hreviewed, ?_, (Decision.at?_answer_status hallowed).1⟩
    rw [d.at?_answer_allowed, hallowed]
  · obtain ⟨document, bytes, hresponse, -, hreviewed⟩ := reviewed_serve [] 1000 (.closing "prod")
      (some .keeping) listedCreation .exampleReading []
    obtain ⟨r, e, hbody, hcandidate⟩ := exists_candidateError_listedCreation
    exact ⟨document, bytes, hresponse, hreviewed, hreviewed.unbuilt r e hbody hcandidate⟩

end AdmissionLedger
