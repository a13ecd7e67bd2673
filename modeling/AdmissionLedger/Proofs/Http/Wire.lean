import AdmissionLedger.Http.Endpoint
import AdmissionLedger.Proofs.Json.Written
import AdmissionLedger.Proofs.Review.Decision
import AdmissionLedger.Proofs.Rules.Document
import AdmissionLedger.Proofs.Tree.Location

/-!
# Decisions on the wire

A decision goes out as a document, which has no bytes if the identity of the request or
the message of the decision holds a surrogate.  The failure is then answered in place of
the decision, by a review that allows the operation and has no identity.  So a denial
reaches the requester exactly if the identity of the request has bytes; the message of a
denial always has, since it comes from a rule document.

## Main definitions

* `reviewing` — reviews under a policy, as the endpoint asks for them.
* `Decision.Told` — what a document tells a requester of a decision.

## Main results

* `Decision.encodable_answer_iff` — when the answer of a decision has bytes.
* `serve_posted` — what is answered where reviews are posted.
* `serve_reviewing` — what a requester is told, and when it is what was decided.
-/

namespace AdmissionLedger

/-! ### Documents -/

namespace HttpResponse

/-- A document has bytes if no text of it holds a surrogate. -/
theorem document_of_encodable (status : Nat) {t : Tree} (h : t.Encodable) :
    ∃ bytes, document status t = .ok ⟨status, .document t bytes, none, none⟩ ∧
      (t.write .unicode).encodeUtf8 = .ok bytes := by
  have hbytes := Text.encodeUtf8_of_hasSurrogate_eq_false ((Tree.hasSurrogate_write_iff t).mpr h)
  refine ⟨_, ?_, hbytes⟩
  rw [document, hbytes]
  rfl

theorem document_of_not_encodable (status : Nat) {t : Tree} (h : ¬ t.Encodable) :
    ∃ e, document status t = .error e := by
  have hwritten : (t.write .unicode).hasSurrogate = true := by
    rw [← Bool.not_eq_false, Tree.hasSurrogate_write_iff]
    exact h
  obtain ⟨e, he⟩ := Text.encodeUtf8_of_hasSurrogate hwritten
  exact ⟨e, by rw [document, he]; rfl⟩

end HttpResponse

namespace Decision

/-- The status of an answer has bytes exactly if the message of the decision has. -/
theorem encodable_status_iff (d : Decision) :
    (∀ status, d.status? = some status → status.Encodable) ↔ d.message.hasSurrogate = false := by
  unfold status?
  split
  · simp only [Option.some.injEq, forall_eq', Tree.encodable_record, List.forall_mem_cons,
      Tree.encodable_str]
    constructor
    · exact fun h => h.1.2
    · intro h
      exact ⟨⟨by decide, h⟩, ⟨by decide, by decide⟩, ⟨by decide, trivial⟩, List.forall_mem_nil _⟩
  · split
    · next hempty =>
      rw [List.isEmpty_iff.mp hempty]
      refine iff_of_true ?_ rfl
      intro status h
      cases h
    · simp only [Option.some.injEq, forall_eq', Tree.encodable_record, List.forall_mem_cons,
        Tree.encodable_str]
      constructor
      · exact fun h => h.1.2
      · exact fun h => ⟨⟨by decide, h⟩, List.forall_mem_nil _⟩

/-- The answer of a decision has bytes exactly if its identity and its message have. -/
theorem encodable_answer_iff (d : Decision) :
    d.answer.Encodable ↔ d.uid.hasSurrogate = false ∧ d.message.hasSurrogate = false := by
  rw [← encodable_status_iff]
  simp only [answer, Tree.encodable_record, List.forall_mem_cons, Tree.encodable_str,
    List.cons_append, List.nil_append]
  have hversion : (Text.ofString "apiVersion").hasSurrogate = false ∧
      apiVersion.hasSurrogate = false := by decide
  have hkey : (Text.ofString "status").hasSurrogate = false := by decide
  have hkind : (Text.ofString "kind").hasSurrogate = false ∧
      reviewKind.hasSurrogate = false := by decide
  constructor
  · rintro ⟨-, -, ⟨-, ⟨-, huid⟩, -, hstatus⟩, -⟩
    refine ⟨huid, fun status h => ?_⟩
    rw [h] at hstatus
    exact (hstatus ("status", status) (List.mem_singleton_self _)).2
  · rintro ⟨huid, hstatus⟩
    refine ⟨hversion, hkind, ⟨by decide, ⟨by decide, huid⟩, ⟨by decide, trivial⟩, ?_⟩,
      List.forall_mem_nil _⟩
    cases h : d.status? with
    | none => exact List.forall_mem_nil _
    | some status =>
      rw [List.forall_mem_singleton]
      exact ⟨hkey, hstatus status h⟩

theorem at?_answer_allowed (d : Decision) :
    d.answer.at? ["response", "allowed"] = some (.bool d.allowed) := by
  rfl

theorem at?_answer_uid (d : Decision) : d.answer.at? ["response", "uid"] = some (.str d.uid) := by
  rfl

/-- The answer of a refusal has the code and the message. -/
theorem at?_answer_status {d : Decision} (h : d.allowed = false) :
    d.answer.at? ["response", "status", "code"] = some (.nat refusalCode) ∧
      d.answer.at? ["response", "status", "message"] = some (.str d.message) := by
  have hstatus : d.status? = some (.record [("message", .str d.message),
      ("reason", .str "Forbidden"), ("code", .nat refusalCode)]) := by
    rw [status?, h]
    rfl
  rw [answer, hstatus]
  exact ⟨rfl, rfl⟩

/-- What is answered after a failure with a plain wording always has bytes. -/
theorem encodable_answer_failOpen {detail : Text} (h : detail.IsAscii) :
    (failOpen [] detail).answer.Encodable := by
  have hmark : failOpenMark.IsAscii := by decide
  exact (encodable_answer_iff _).mpr ⟨rfl, (hmark.append h).hasSurrogate⟩

end Decision

/-! ### Answers -/

section

variable {σ : Type}

/-- Reviews under a policy, as the endpoint asks for them. -/
def reviewing (depth : Nat) (policy : Policy) (sink : Option (Sink σ)) (body : Bytes)
    (outside : Clock × σ) : Logged (Except Unhandled Decision × Clock × σ) := do
  let (d, clock, s) ← review depth policy sink body outside.1 outside.2
  return (.ok d, clock, s)

/-- A review that is posted. -/
def HttpRequest.posted (body : Bytes) : HttpRequest :=
  ⟨Endpoint.validate.method, Endpoint.validate.path, body⟩

/-- Every endpoint is found at its path. -/
theorem Endpoint.ofPath?_path (e : Endpoint) : ofPath? e.path = some e := by
  cases e <;> decide

theorem HttpRequest.writtenPath_posted (body : Bytes) :
    (posted body).writtenPath = Endpoint.validate.path := by
  have hslash : Endpoint.validate.path.startsWith "/" = true := by decide
  simp only [writtenPath, posted, hslash, if_true]
  decide

/-- A failure on the way to a response is answered in its place. -/
theorem HttpRequest.response_conclude (r : HttpRequest) (result : Except Unhandled HttpResponse) :
    (r.conclude result).value.response = match result with
      | .ok response => .ok response
      | .error f => f.response r.writtenPath := by
  cases result <;> rfl

/-- A posted review is answered with the decision about it if that has bytes, else with a decision
that nobody made. -/
theorem serve_posted (counts : List Counter) (depth : Nat) (policy : Policy)
    (sink : Option (Sink σ)) (body : Bytes) (clock : Clock) (s : σ) :
    let d := (review depth policy sink body clock s).value.1
    ((HttpRequest.posted body).serve counts (reviewing depth policy sink)
        (clock, s)).value.1.response =
      match HttpResponse.document 200 d.answer with
      | .ok response => .ok response
      | .error e => HttpResponse.document 200 (Decision.failOpen [] e.message).answer := by
  intro d
  have hendpoint : Endpoint.ofPath? (HttpRequest.posted body).path = some .validate :=
    Endpoint.ofPath?_path .validate
  have hmethod : ¬ (HttpRequest.posted body).method ≠ Endpoint.validate.method := not_not.mpr rfl
  have hdecided :
      (reviewing depth policy sink (HttpRequest.posted body).body (clock, s)).value.1 = .ok d := rfl
  rw [HttpRequest.serve, hendpoint]
  simp only [hmethod, if_false, Logged.value_bind, Logged.value_pure,
    HttpRequest.response_conclude, hdecided, HttpRequest.writtenPath_posted]
  cases hdocument : HttpResponse.document 200 d.answer with
  | ok response => simp only [bind, Except.bind, hdocument, Except.mapError]
  | error e =>
    simp only [bind, Except.bind, hdocument, Except.mapError, Unhandled.response, if_true,
      Unhandled.message]

/-- What a document tells a requester, given the decision about the request.  A denial is told
exactly if the identity of the request has bytes, and then with the code and the message of the
block rules; a denial without such an identity is told as an allowed operation.  The identity is
that of the decision exactly if the decision has bytes, or no identity at all. -/
structure Decision.Told (d : Decision) (policy : Policy) (document : Tree) : Prop where
  denied : document.at? ["response", "allowed"] = some (.bool false) ↔
    d.outcome = .denied ∧ d.uid.hasSurrogate = false
  code : document.at? ["response", "allowed"] = some (.bool false) →
    document.at? ["response", "status", "code"] = some (.nat 403)
  message : document.at? ["response", "allowed"] = some (.bool false) →
    ∃ rules, policy.block = some rules ∧
      document.at? ["response", "status", "message"] = some (.str rules.effectiveMessage)
  lost : d.uid.hasSurrogate = true → document.at? ["response", "allowed"] = some (.bool true) ∧
    document.at? ["response", "uid"] = some (.str [])
  uid : document.at? ["response", "uid"] = some (.str d.uid) ↔
    d.uid = [] ∨ d.uid.hasSurrogate = false ∧ d.message.hasSurrogate = false

section

variable {policy : Policy} {d : Decision}

/-- What is told by the answer of a decision that has bytes. -/
theorem Decision.told_answer (hallowed : d.allowed = false ↔ d.outcome = .denied)
    (hmessage : d.outcome = .denied →
      ∃ rules, policy.block = some rules ∧ d.message = rules.effectiveMessage)
    (hencodable : d.answer.Encodable) : d.Told policy d.answer := by
  obtain ⟨huid, hplain⟩ := d.encodable_answer_iff.mp hencodable
  have hrefused : d.answer.at? ["response", "allowed"] = some (.bool false) ↔
      d.allowed = false := by
    rw [at?_answer_allowed, Option.some.injEq, Tree.bool.injEq]
  refine ⟨?_, ?_, ?_, ?_, ?_⟩
  · rw [hrefused, hallowed, and_iff_left huid]
  · intro h
    exact (at?_answer_status (hrefused.mp h)).1
  · intro h
    obtain ⟨rules, hblock, heq⟩ := hmessage (hallowed.mp (hrefused.mp h))
    rw [(at?_answer_status (hrefused.mp h)).2, heq]
    exact ⟨rules, hblock, rfl⟩
  · intro hsurrogate
    rw [huid] at hsurrogate
    cases hsurrogate
  · rw [at?_answer_uid]
    exact iff_of_true rfl (.inr ⟨huid, hplain⟩)

/-- What is told in place of a decision that has no bytes. -/
theorem Decision.told_failOpen
    (hmessage : d.outcome = .denied → d.message.hasSurrogate = false)
    (hencodable : ¬ d.answer.Encodable) (detail : Text) :
    d.Told policy (failOpen [] detail).answer := by
  have hnone : ¬ (d.uid.hasSurrogate = false ∧ d.message.hasSurrogate = false) :=
    d.encodable_answer_iff.not.mp hencodable
  have hallowed : (failOpen [] detail).answer.at? ["response", "allowed"] = some (.bool true) :=
    at?_answer_allowed _
  have huid : (failOpen [] detail).answer.at? ["response", "uid"] = some (.str []) :=
    at?_answer_uid _
  have hrefused :
      (failOpen [] detail).answer.at? ["response", "allowed"] ≠ some (.bool false) := by
    rw [hallowed]
    exact fun h => nomatch h
  refine ⟨iff_of_false hrefused ?_, fun h => absurd h hrefused, fun h => absurd h hrefused,
    fun _ => ⟨hallowed, huid⟩, ?_⟩
  · -- the message of a denial has bytes, so that only the identity can have none
    rintro ⟨hdenied, hplain⟩
    exact hnone ⟨hplain, hmessage hdenied⟩
  · rw [huid, Option.some.injEq, Tree.str.injEq, or_iff_left hnone]
    exact eq_comm

end

/-- A posted review is always answered with a document, which tells the requester what was decided
as far as the decision has bytes. -/
theorem serve_reviewing (counts : List Counter) (depth : Nat) (policy : Policy)
    (sink : Option (Sink σ)) (body : Bytes) (clock : Clock) (s : σ)
    (hrules : ∀ rules, policy.block = some rules → ∃ t, BlockRules.ofText t = .ok rules) :
    ∃ document bytes, ((HttpRequest.posted body).serve counts (reviewing depth policy sink)
        (clock, s)).value.1.response = .ok ⟨200, .document document bytes, none, none⟩ ∧
      (document.write .unicode).encodeUtf8 = .ok bytes ∧
      (review depth policy sink body clock s).value.1.Told policy document := by
  have hallowed := review_allowed_eq_false_iff depth policy sink body clock s
  have hmessage := @review_message_of_denied σ depth policy sink body clock s
  rw [serve_posted]
  generalize (review depth policy sink body clock s).value.1 = d at hallowed hmessage
  by_cases hencodable : d.answer.Encodable
  · obtain ⟨bytes, hdocument, hbytes⟩ := HttpResponse.document_of_encodable 200 hencodable
    rw [hdocument]
    exact ⟨d.answer, bytes, rfl, hbytes, Decision.told_answer hallowed hmessage hencodable⟩
  · obtain ⟨e, he⟩ := HttpResponse.document_of_not_encodable 200 hencodable
    obtain ⟨bytes, hdocument, hbytes⟩ := HttpResponse.document_of_encodable 200
      (Decision.encodable_answer_failOpen e.isAscii_message)
    rw [he]
    refine ⟨_, bytes, hdocument, hbytes, Decision.told_failOpen ?_ hencodable _⟩
    intro hdenied
    obtain ⟨rules, hblock, heq⟩ := hmessage hdenied
    obtain ⟨t, ht⟩ := hrules rules hblock
    rw [heq]
    exact BlockRules.hasSurrogate_effectiveMessage ht

/-- The policy of a document of block rules. -/
def Policy.ofBlockText (t : Text) : Policy where
  block := (BlockRules.ofText t).toOption

theorem Policy.ofText_of_block {t : Text} {rules : BlockRules}
    (h : (ofBlockText t).block = some rules) : BlockRules.ofText t = .ok rules := by
  unfold ofBlockText at h
  cases hread : BlockRules.ofText t with
  | ok read =>
    rw [hread] at h
    cases h
    rfl
  | bad faults =>
    rw [hread] at h
    cases h

/-- A document that closes one namespace. -/
def closingText : Text := "\x7b\"namespace_patterns\":[\"prod\"]\x7d"

theorem serve_reviewing_lone_surrogate :
    let d := (review 1000 (.ofBlockText closingText) (some .keeping) (closedCreation "\\ud800")
      .exampleReading []).value.1
    ∃ document bytes, ((HttpRequest.posted (closedCreation "\\ud800")).serve []
        (reviewing 1000 (.ofBlockText closingText) (some .keeping))
        (.exampleReading, [])).value.1.response
          = .ok ⟨200, .document document bytes, none, none⟩ ∧
      d.outcome = .denied ∧ document.at? ["response", "allowed"] = some (.bool true) := by
  obtain ⟨document, bytes, hresponse, -, htold⟩ := serve_reviewing [] 1000
    (.ofBlockText closingText) (some .keeping) (closedCreation "\\ud800") .exampleReading []
    fun rules h => ⟨closingText, Policy.ofText_of_block h⟩
  have hlost := (htold.lost (by decide +kernel)).1
  exact ⟨document, bytes, hresponse, by decide +kernel, hlost⟩

end

end AdmissionLedger
