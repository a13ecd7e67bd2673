import AdmissionLedger.Alert.Telegram
import AdmissionLedger.Proofs.Alert.Address
import AdmissionLedger.Proofs.Except
import Mathlib.Data.List.Forall2
import Mathlib.Logic.Function.Iterate

/-!
# Every chat is written to

A bot goes through its list of chats.  Whatever a chat replies, the next one is written
to; each reply that is no success leaves one warning, and one of them is enough for the
event not to count as delivered.

A message that cannot be written at all is another matter: its text or the name of its
chat holds a surrogate, or the token of the bot makes no address.  Then the whole
delivery fails, and the chats that are left are not written to.

## Main definitions

* `Supply.upcoming` — the values that a supply gives next.
* `TelegramChannel.CanWrite` — a message to a chat can be written.
* `TelegramChannel.Wrote` — what is right once some chats have been written to.

## Main results

* `TelegramChannel.exists_target_of_token` — tokens that make an address.
* `TelegramChannel.prepare_eq_ok`, `TelegramChannel.exists_prepare_eq_error` — when there is a
  request.
* `TelegramChannel.deliverTo_append` — chats that can be written to, whatever comes after them.
* `TelegramChannel.writes_to_every_chat` — what a delivery does.
-/

namespace AdmissionLedger

/-! ### Supplies -/

namespace Supply

variable {α : Type}

/-- The values that a supply gives next, in order. -/
def upcoming (s : Supply α) : Nat → List α
  | 0 => []
  | count + 1 => s.now :: s.next.upcoming count

theorem upcoming_eq_take (s : Supply α) {count more : Nat} (h : count ≤ more) :
    s.upcoming count = (s.upcoming more).take count := by
  induction count generalizing s more with
  | zero => rfl
  | succ count ih =>
    obtain ⟨more, rfl⟩ := Nat.exists_eq_succ_of_ne_zero (Nat.ne_of_gt (Nat.zero_lt_of_lt h))
    rw [upcoming, upcoming, List.take_succ_cons, ih s.next (Nat.le_of_succ_le_succ h)]

/-- A supply made of a list gives just this list, so all sequences of values can be supplied. -/
theorem upcoming_ofList (default : α) (values : List α) :
    (ofList default values).upcoming values.length = values := by
  induction values with
  | nil => rfl
  | cons value later ih =>
    rw [List.length_cons, upcoming]
    cases later with
    | nil => rfl
    | cons value' later => exact congrArg _ ih

end Supply

namespace TelegramChannel

/-! ### The address of a bot -/

/-- What stands before the token in the address of a bot. -/
def addressStart : Text := "https://api.telegram.org/bot"

/-- Where the messages of a bot go to. -/
def target (c : TelegramChannel) : Except AddressError Address :=
  (Address.ofText c.address).bind Address.anchored

/-- The address of a server with what follows it there. -/
def addressOf (tail : Text) : Except AddressError Address := do
  let (path, rest) := Address.splitAt ['?', '#'] tail
  let (query, fragment) := Address.splitAt ['#'] rest
  let path ← Address.percentEncode Address.pathExcluded (Address.resolveDots path)
  let query ← Address.encodeOptional Address.queryExcluded (Address.after? "?" query)
  let fragment ← Address.encodeOptional Address.fragmentExcluded (Address.after? "#" fragment)
  return ⟨"https", [], "api.telegram.org", none, path, query, fragment⟩

/-- The server is read off the start of the address, whatever the token is. -/
theorem ofText_addressStart {rest : Text}
    (hlength : (addressStart ++ rest).length ≤ Address.maxLength)
    (hcontrol : (addressStart ++ rest).find? Address.isControl = none) :
    Address.ofText (addressStart ++ rest) = addressOf (Text.ofString "/bot" ++ rest) := by
  unfold Address.isControl at hcontrol
  rw [Address.ofText, if_neg (Nat.not_lt.mpr hlength)]
  simp only [hcontrol]
  rfl

/-- What is the same about the addresses of all bots. -/
structure OfBot (a : Address) : Prop where
  scheme : a.scheme = Text.ofString "https"
  userinfo : a.userinfo = []
  host : a.host = Text.ofString "api.telegram.org"
  port : a.port = none

theorem ofBot_of_addressOf {tail : Text} {a : Address} (h : addressOf tail = .ok a) : OfBot a := by
  obtain ⟨path, -, h⟩ := Except.bind_eq_ok_iff.mp h
  obtain ⟨query, -, h⟩ := Except.bind_eq_ok_iff.mp h
  obtain ⟨fragment, -, h⟩ := Except.bind_eq_ok_iff.mp h
  cases h
  exact ⟨rfl, rfl, rfl, rfl⟩

theorem address_eq (c : TelegramChannel) :
    c.address = addressStart ++ (c.token ++ Text.ofString "/sendMessage") :=
  List.append_assoc _ _ _

/-- The address of a bot leads to one server. -/
theorem ofBot_of_target {c : TelegramChannel} {a : Address} (h : c.target = .ok a) : OfBot a := by
  rw [target, address_eq] at h
  generalize c.token ++ Text.ofString "/sendMessage" = rest at h
  by_cases hlength : (addressStart ++ rest).length ≤ Address.maxLength
  · cases hcontrol : (addressStart ++ rest).find? Address.isControl with
    | none =>
      rw [ofText_addressStart hlength hcontrol] at h
      obtain ⟨a', ha', hanchored⟩ := Except.bind_eq_ok_iff.mp h
      have hbot := ofBot_of_addressOf ha'
      rw [Address.anchored, hbot.scheme, hbot.host] at hanchored
      cases hanchored
      exact hbot
    | some x =>
      unfold Address.isControl at hcontrol
      rw [Address.ofText, if_neg (Nat.not_lt.mpr hlength)] at h
      simp only [hcontrol] at h
      cases h
  · rw [Address.ofText, if_pos (Nat.not_le.mp hlength)] at h
    cases h

/-- What follows the server can be read if it holds no surrogate. -/
theorem exists_addressOf {tail : Text} (h : tail.hasSurrogate = false) :
    ∃ a, addressOf tail = .ok a := by
  have hpath := Address.hasSurrogate_splitAt ['?', '#'] h
  have hrest := Address.hasSurrogate_splitAt ['#'] hpath.2
  obtain ⟨path, hpathOk⟩ := Address.exists_percentEncode
    (Address.hasSurrogate_resolveDots hpath.1) Address.pathExcluded
  obtain ⟨query, hquery⟩ := Address.exists_encodeOptional hrest.1 "?" Address.queryExcluded
  obtain ⟨fragment, hfragment⟩ :=
    Address.exists_encodeOptional hrest.2 "#" Address.fragmentExcluded
  simp only [addressOf, hpathOk, hquery, hfragment]
  exact ⟨_, rfl⟩

/-- A token without controls and surrogates makes an address, unless it is very long. -/
theorem exists_target_of_token {c : TelegramChannel} (hlength : c.token.length ≤ 65000)
    (hcontrol : ∀ x ∈ c.token, Address.isControl x = false)
    (hsurrogate : c.token.hasSurrogate = false) : ∃ a, c.target = .ok a := by
  have htoken : c.token.find? Address.isControl = none :=
    List.find?_eq_none.mpr fun x hx => by simp [hcontrol x hx]
  have hclean : (addressStart ++ (c.token ++ Text.ofString "/sendMessage")).find?
      Address.isControl = none := by
    rw [List.find?_append, List.find?_append, htoken]
    rfl
  have hlong : (addressStart ++ (c.token ++ Text.ofString "/sendMessage")).length ≤
      Address.maxLength := by
    have h : addressStart.length = 28 ∧ (Text.ofString "/sendMessage").length = 12 := by decide
    rw [List.length_append, List.length_append, h.1, h.2, Address.maxLength]
    omega
  have htail : (Text.ofString "/bot" ++ (c.token ++ Text.ofString "/sendMessage")).hasSurrogate =
      false := by
    rw [Text.hasSurrogate_append, Text.hasSurrogate_append, hsurrogate]
    decide
  obtain ⟨a, ha⟩ := exists_addressOf htail
  have hbot := ofBot_of_addressOf ha
  refine ⟨a, ?_⟩
  rw [target, address_eq, ofText_addressStart hlong hclean, ha]
  change a.anchored = .ok a
  rw [Address.anchored, hbot.scheme, hbot.host]
  rfl

/-! ### Messages -/

/-- The request with a message to a chat. -/
def request (a : Address) (e : Event) (chat : Text) : WebRequest where
  method := "POST"
  target := a
  headers := [(Text.ofString "content-type", Text.ofString "application/json")]
  body := (message chat e.chatText).write .unicode

/-- A message to a chat can be written: the bot has an address, and neither the name of the chat nor
the text holds a surrogate. -/
def CanWrite (c : TelegramChannel) (e : Event) (chat : Text) : Prop :=
  c.target.isOk = true ∧ chat.hasSurrogate = false ∧ e.chatText.hasSurrogate = false

instance (c : TelegramChannel) (e : Event) (chat : Text) : Decidable (c.CanWrite e chat) :=
  inferInstanceAs (Decidable (_ ∧ _ ∧ _))

theorem CanWrite.exists_target {c : TelegramChannel} {e : Event} {chat : Text}
    (h : c.CanWrite e chat) : ∃ a, c.target = .ok a := by
  have htarget := h.1
  cases ha : c.target with
  | ok a => exact ⟨a, rfl⟩
  | error error =>
    rw [ha] at htarget
    cases htarget

theorem encodable_message_iff {chat text : Text} :
    (message chat text).Encodable ↔ chat.hasSurrogate = false ∧ text.hasSurrogate = false := by
  have hkeys : (Text.ofString "chat_id").hasSurrogate = false ∧
      (Text.ofString "text").hasSurrogate = false := by decide
  rw [message, Tree.encodable_record, List.forall_mem_cons, List.forall_mem_singleton,
    Tree.encodable_str, Tree.encodable_str]
  exact ⟨fun h => ⟨h.1.2, h.2.2⟩, fun h => ⟨⟨hkeys.1, h.1⟩, hkeys.2, h.2⟩⟩

theorem isFinite_message (chat text : Text) : (message chat text).isFinite = true := rfl

/-- The body of a message is its document, which has bytes exactly if its texts have. -/
theorem bodyOf_message_eq_ok_iff {chat text body : Text} :
    WebRequest.bodyOf (message chat text) = .ok body ↔
      body = (message chat text).write .unicode ∧ chat.hasSurrogate = false ∧
        text.hasSurrogate = false := by
  simp only [WebRequest.bodyOf, isFinite_message, if_true]
  rw [← encodable_message_iff, ← Tree.hasSurrogate_write_iff]
  cases hwritten : ((message chat text).write .unicode).hasSurrogate with
  | false =>
    rw [Text.encodeUtf8_of_hasSurrogate_eq_false hwritten]
    simp [Except.mapError, Except.map, eq_comm]
  | true =>
    obtain ⟨e, he⟩ := Text.encodeUtf8_of_hasSurrogate hwritten
    simp [he, Except.mapError, Except.map]

section

variable {c : TelegramChannel} {e : Event} {chat : Text}

/-- A message that can be written goes out in one request. -/
theorem prepare_eq_ok {a : Address} (ha : c.target = .ok a) (h : c.CanWrite e chat) :
    WebRequest.prepare "POST" c.address [] (message chat e.chatText) =
      .ok (request a e chat) := by
  have hbody := bodyOf_message_eq_ok_iff.mpr ⟨rfl, h.2⟩
  have hbot := ofBot_of_target ha
  have hupper : Text.upper "POST" = Text.ofString "POST" := by decide +kernel
  obtain ⟨scheme, userinfo, host, port, path, query, fragment⟩ := a
  obtain ⟨rfl, rfl, rfl, rfl⟩ := hbot
  rw [target] at ha
  rw [WebRequest.prepare, ha, WebRequest.headersOf, hbody, hupper]
  rfl

/-- For any other message there is no request. -/
theorem exists_prepare_eq_error (h : ¬ c.CanWrite e chat) :
    ∃ error, WebRequest.prepare "POST" c.address [] (message chat e.chatText) = .error error := by
  cases hprepare : WebRequest.prepare "POST" c.address [] (message chat e.chatText) with
  | error error => exact ⟨error, rfl⟩
  | ok r =>
    obtain ⟨a, ha, hprepare⟩ := Except.bind_eq_ok_iff.mp hprepare
    obtain ⟨_, -, hprepare⟩ := Except.bind_eq_ok_iff.mp hprepare
    obtain ⟨body, hbody, -⟩ := Except.bind_eq_ok_iff.mp hprepare
    rw [Except.mapError_eq_ok_iff] at ha
    exact absurd ⟨by rw [target, ha]; rfl, (bodyOf_message_eq_ok_iff.mp hbody).2⟩ h

/-- Such a request gets the next reply, which has an origin to be filed under. -/
theorem submit_of_canWrite {a : Address} (ha : c.target = .ok a) (h : c.CanWrite e chat)
    (n : Network) : n.submit "POST" c.address [] (message chat e.chatText) =
      (.ok n.replies.now, ⟨n.replies.next, n.requests ++ [request a e chat]⟩) := by
  have horigin : a.checkOrigin = .ok () := by
    have hbot := ofBot_of_target ha
    obtain ⟨scheme, userinfo, host, port, path, query, fragment⟩ := a
    obtain ⟨rfl, rfl, rfl, rfl⟩ := hbot
    rfl
  rw [Network.submit, prepare_eq_ok ha h]
  simp only [Network.exchange, request, horigin]
  cases n.replies.now <;> rfl

theorem exists_submit_of_not_canWrite (h : ¬ c.CanWrite e chat) (n : Network) :
    ∃ error, n.submit "POST" c.address [] (message chat e.chatText) =
      (.error (.request error), n) := by
  obtain ⟨error, herror⟩ := exists_prepare_eq_error h
  exact ⟨error, by rw [Network.submit, herror]⟩

end

end TelegramChannel

/-! ### One chat after the other -/

/-- Whether a reply says that a message was taken. -/
def Reply.isTaken : Reply → Bool
  | .answered status _ => isSuccess status
  | _ => false

/-- The network after some requests got their replies. -/
def Network.after (n : Network) (requests : List WebRequest) : Network :=
  ⟨Supply.next^[requests.length] n.replies, n.requests ++ requests⟩

namespace TelegramChannel

/-- The warnings about the replies of some chats. -/
def warnings (e : Event) (chats : List Text) (replies : List Reply) : List Log.Entry :=
  (chats.zip replies).filterMap fun p => warning? p.1 e p.2

theorem isNone_warning? (chat : Text) (e : Event) {reply : Reply}
    (h : ∀ error, reply ≠ .broken error) : (warning? chat e reply).isNone = reply.isTaken := by
  cases reply with
  | answered status body =>
    rw [warning?, Reply.isTaken]
    cases isSuccess status <;> rfl
  | timedOut message => rfl
  | failed message => rfl
  | broken error => exact absurd rfl (h error)

section

variable {c : TelegramChannel} {e : Event} {a : Address}

/-- A chat is written to, its reply is judged, and then come the others. -/
theorem deliverTo_cons (ha : c.target = .ok a) {chat : Text} (h : c.CanWrite e chat)
    {n : Network} (hreply : ∀ error, n.replies.now ≠ .broken error) (rest : List Text) :
    c.deliverTo e (chat :: rest) n = (do
      Logged.emitAll (warning? chat e n.replies.now).toList
      let (later, n') ← c.deliverTo e rest (n.after [request a e chat])
      return (later.map (n.replies.now.isTaken && ·), n')) := by
  rw [deliverTo, submit_of_canWrite ha h, ← isNone_warning? chat e hreply]
  cases hnow : n.replies.now with
  | broken error => exact absurd hnow (hreply error)
  | answered status body => rfl
  | timedOut message => rfl
  | failed message => rfl

/-- Chats that can be written to are written to, whatever they reply, and then come the others. -/
theorem deliverTo_append (ha : c.target = .ok a) {chats : List Text}
    (hchats : ∀ chat ∈ chats, c.CanWrite e chat) {n : Network}
    (hreplies : ∀ reply ∈ n.replies.upcoming chats.length, ∀ error, reply ≠ .broken error)
    (rest : List Text) :
    let replies := n.replies.upcoming chats.length
    let later := c.deliverTo e rest (n.after (chats.map (request a e)))
    (c.deliverTo e (chats ++ rest) n).log = warnings e chats replies ++ later.log ∧
      (c.deliverTo e (chats ++ rest) n).value =
        (later.value.1.map (replies.all Reply.isTaken && ·), later.value.2) := by
  induction chats generalizing n with
  | nil =>
    have hafter : n.after [] = n := by rw [Network.after, List.append_nil]; rfl
    simp only [List.map_nil, hafter, List.nil_append, List.length_nil, Supply.upcoming, warnings,
      List.zip_nil_left, List.filterMap_nil, List.all_nil, Bool.true_and]
    refine ⟨trivial, Prod.ext ?_ rfl⟩
    cases (c.deliverTo e rest n).value.1 <;> rfl
  | cons chat chats ih =>
    rw [List.forall_mem_cons] at hchats
    rw [List.length_cons, Supply.upcoming, List.forall_mem_cons] at hreplies
    have hafter : n.after ((chat :: chats).map (request a e)) =
        (n.after [request a e chat]).after (chats.map (request a e)) := by
      simp [Network.after]
    have hnext : (n.after [request a e chat]).replies = n.replies.next := rfl
    obtain ⟨hlog, hvalue⟩ := ih (n := n.after [request a e chat]) hchats.2 hreplies.2
    rw [List.cons_append, deliverTo_cons ha hchats.1 hreplies.1, hafter]
    constructor
    · simp only [Logged.log_bind, Logged.log_pure, List.append_nil, hlog, ← List.append_assoc]
      congr 1
      simp only [warnings, List.length_cons, Supply.upcoming, List.zip_cons_cons,
        List.filterMap_cons]
      cases warning? chat e n.replies.now <;> rfl
    · simp only [Logged.value_bind, Logged.value_pure, hvalue]
      refine Prod.ext ?_ rfl
      cases (c.deliverTo e rest _).value.1 <;>
        simp [Except.map, Supply.upcoming, hnext, Bool.and_assoc]

/-- The first chat that cannot be written to ends the delivery. -/
theorem exists_deliverTo_of_not_canWrite {chat : Text} (h : ¬ c.CanWrite e chat)
    (rest : List Text) (n : Network) :
    ∃ error, c.deliverTo e (chat :: rest) n = ⟨[], (.error (.request error), n)⟩ := by
  obtain ⟨error, herror⟩ := exists_submit_of_not_canWrite h n
  refine ⟨error, ?_⟩
  rw [deliverTo, herror]
  rfl

end

/-! ### What a delivery does -/

/-- A warning names the chat that did not take a message, and the event that it was about. -/
structure Warns (e : Event) (p : Text × Reply) (entry : Log.Entry) : Prop where
  level : entry.level = .warning
  chat : (Text.ofString "chat_id", Tree.str p.1) ∈ entry.fields
  event : (Text.ofString "event_id", Tree.str e.id) ∈ entry.fields

theorem warns_of_warning? {chat : Text} {e : Event} {reply : Reply} {entry : Log.Entry}
    (h : warning? chat e reply = some entry) : Warns e (chat, reply) entry := by
  cases reply with
  | answered status body =>
    rw [warning?, Option.ite_none_left_eq_some] at h
    cases h.2
    exact ⟨rfl, by simp [Log.Entry.of], by simp [Log.Entry.of]⟩
  | timedOut message => cases h; exact ⟨rfl, by simp [Log.Entry.of], by simp [Log.Entry.of]⟩
  | failed message => cases h; exact ⟨rfl, by simp [Log.Entry.of], by simp [Log.Entry.of]⟩
  | broken error => cases h

/-- There is one warning for each reply that is no success, in the order of the chats. -/
theorem forall₂_warnings (e : Event) {chats : List Text} {replies : List Reply}
    (h : ∀ reply ∈ replies, ∀ error, reply ≠ .broken error) :
    List.Forall₂ (Warns e) ((chats.zip replies).filter fun p => !p.2.isTaken)
      (warnings e chats replies) := by
  unfold warnings
  induction chats generalizing replies with
  | nil => exact .nil
  | cons chat chats ih =>
    cases replies with
    | nil => exact .nil
    | cons reply replies =>
      rw [List.forall_mem_cons] at h
      have hnone := isNone_warning? chat e h.1
      simp only [List.zip_cons_cons, List.filter_cons, List.filterMap_cons]
      cases hwarning : warning? chat e reply with
      | none =>
        rw [← hnone, hwarning]
        exact ih h.2
      | some entry =>
        rw [← hnone, hwarning]
        exact .cons (warns_of_warning? hwarning) (ih h.2)

/-- A request that takes the text about an event to a chat. -/
structure TakesTo (c : TelegramChannel) (e : Event) (chat : Text) (r : WebRequest) : Prop where
  method : r.method = "POST"
  target : c.target = .ok r.target
  body : r.body = (message chat e.chatText).write .unicode

/-- What is right once some chats were written to and gave these replies. -/
structure Wrote (c : TelegramChannel) (e : Event) (chats : List Text) (replies : List Reply)
    (earlier : List WebRequest) (run : Logged (Delivery × Network)) : Prop where
  /-- There is one more request for each chat, in order, all with the same text. -/
  requests : ∃ made, run.value.2.requests = earlier ++ made ∧ List.Forall₂ (TakesTo c e) chats made
  /-- There is one warning for each reply that is no success, in order. -/
  warnings : List.Forall₂ (Warns e) ((chats.zip replies).filter fun p => !p.2.isTaken) run.log

theorem isTaken_iff {reply : Reply} : reply.isTaken = true ↔
    ∃ status body, reply = .answered status body ∧ 200 ≤ status ∧ status ≤ 299 := by
  cases reply with
  | answered status body => simp [Reply.isTaken, isSuccess]
  | timedOut message => simp [Reply.isTaken]
  | failed message => simp [Reply.isTaken]
  | broken error => simp [Reply.isTaken]

section

variable {c : TelegramChannel} {e : Event} {replies : List Reply} {earlier : List WebRequest}
  {n : Network}

theorem forall₂_takesTo {a : Address} (ha : c.target = .ok a) (chats : List Text) :
    List.Forall₂ (TakesTo c e) chats (chats.map (request a e)) := by
  rw [List.forall₂_map_right_iff, List.forall₂_same]
  exact fun chat _ => ⟨rfl, ha, rfl⟩

/-- Chats that can be written to, followed by the end of the list. -/
theorem wrote_of_canWrite {chats : List Text} (hne : chats ≠ [])
    (hchats : ∀ chat ∈ chats, c.CanWrite e chat)
    (hreplies : ∀ reply ∈ n.replies.upcoming chats.length, ∀ error, reply ≠ .broken error) :
    Wrote c e chats (n.replies.upcoming chats.length) n.requests (c.deliverTo e chats n) ∧
      (c.deliverTo e chats n).value.1 =
        .ok ((n.replies.upcoming chats.length).all Reply.isTaken) := by
  obtain ⟨chat, hchat⟩ := List.exists_mem_of_ne_nil chats hne
  obtain ⟨a, ha⟩ := (hchats chat hchat).exists_target
  obtain ⟨hlog, hvalue⟩ := deliverTo_append ha hchats hreplies []
  rw [List.append_nil] at hlog hvalue
  refine ⟨⟨⟨chats.map (request a e), by rw [hvalue]; rfl, forall₂_takesTo ha chats⟩, ?_⟩, ?_⟩
  · rw [hlog]
    simpa [deliverTo] using forall₂_warnings e hreplies
  · rw [hvalue]
    simp [deliverTo, Except.map]

/-- Chats that can be written to, followed by one that cannot. -/
theorem wrote_of_not_canWrite {sent : List Text} (hsent : ∀ chat ∈ sent, c.CanWrite e chat)
    (hreplies : ∀ reply ∈ n.replies.upcoming sent.length, ∀ error, reply ≠ .broken error)
    {chat : Text} (h : ¬ c.CanWrite e chat) (rest : List Text) :
    let run := c.deliverTo e (sent ++ chat :: rest) n
    Wrote c e sent (n.replies.upcoming sent.length) n.requests run ∧
      ∃ error, run.value.1 = .error (.request error) := by
  cases sent with
  | nil =>
    obtain ⟨error, herror⟩ := exists_deliverTo_of_not_canWrite h rest n
    rw [List.nil_append, herror]
    exact ⟨⟨⟨[], (List.append_nil _).symm, .nil⟩, .nil⟩, error, rfl⟩
  | cons first sent =>
    obtain ⟨a, ha⟩ := (hsent first List.mem_cons_self).exists_target
    obtain ⟨hlog, hvalue⟩ := deliverTo_append ha hsent hreplies (chat :: rest)
    obtain ⟨error, herror⟩ := exists_deliverTo_of_not_canWrite h rest
      (n.after ((first :: sent).map (request a e)))
    rw [herror] at hlog hvalue
    refine ⟨⟨⟨(first :: sent).map (request a e), by rw [hvalue]; rfl,
      forall₂_takesTo ha _⟩, ?_⟩, error, by rw [hvalue]; rfl⟩
    rw [hlog, List.append_nil]
    exact forall₂_warnings e hreplies

end

/-- A bot writes to every chat of its list, repeated ones included, once and in order, with one text
and whatever the replies are; every reply that is no success leaves one warning, and the event
counts as delivered exactly if there is none.

This is so if all messages can be written, as they can if no text holds a surrogate and the token
holds neither a surrogate nor a control.  The first message that cannot be written fails the whole
delivery, and the chats from there on are not written to. -/
theorem writes_to_every_chat (c : TelegramChannel) (e : Event) (hchats : c.chats ≠ [])
    (replies : List Reply) (hlength : replies.length = c.chats.length)
    (hreplies : ∀ reply ∈ replies, ∀ error, reply ≠ .broken error) (default : Reply)
    (earlier : List WebRequest) :
    let run := c.deliver e ⟨.ofList default replies, earlier⟩
    ((∀ chat ∈ c.chats, c.CanWrite e chat) →
      Wrote c e c.chats replies earlier run ∧
        ∃ delivered, run.value.1 = .ok delivered ∧ (delivered = true ↔ ∀ reply ∈ replies,
          ∃ status body, reply = .answered status body ∧ 200 ≤ status ∧ status ≤ 299)) ∧
      (∀ sent chat rest, c.chats = sent ++ chat :: rest → (∀ s ∈ sent, c.CanWrite e s) →
        ¬ c.CanWrite e chat → Wrote c e sent (replies.take sent.length) earlier run ∧
          ∃ error, run.value.1 = .error (.request error)) ∧
      (c.token.length ≤ 65000 → (∀ x ∈ c.token, Address.isControl x = false) →
        c.token.hasSurrogate = false → e.chatText.hasSurrogate = false →
        ∀ chat ∈ c.chats, c.CanWrite e chat ↔ chat.hasSurrogate = false) := by
  have hupcoming : (Supply.ofList default replies).upcoming c.chats.length = replies :=
    hlength ▸ Supply.upcoming_ofList default replies
  refine ⟨fun hcan => ?_, fun sent chat rest hsplit hsent hnot => ?_,
    fun htoken hcontrol hsurrogate htext chat _ => ?_⟩
  · obtain ⟨hwrote, hvalue⟩ := wrote_of_canWrite (n := ⟨.ofList default replies, earlier⟩) hchats
      hcan (by rwa [hupcoming])
    rw [hupcoming] at hwrote hvalue
    refine ⟨hwrote, _, hvalue, ?_⟩
    rw [List.all_eq_true]
    exact forall₂_congr fun reply _ => isTaken_iff
  · have hle : sent.length ≤ c.chats.length := by simp [hsplit]
    have htake : (Supply.ofList default replies).upcoming sent.length =
        replies.take sent.length := by
      rw [Supply.upcoming_eq_take _ hle, hupcoming]
    have hwrote := wrote_of_not_canWrite (n := ⟨.ofList default replies, earlier⟩) hsent
      (by rw [htake]; exact fun reply hreply => hreplies reply (List.mem_of_mem_take hreply))
      hnot rest
    rwa [htake, ← hsplit] at hwrote
  · obtain ⟨a, ha⟩ := exists_target_of_token htoken hcontrol hsurrogate
    exact ⟨fun h => h.2.1, fun h => ⟨by rw [ha]; rfl, h, htext⟩⟩

/-- A bot with one of its chats listed twice. -/
def exampleBot : TelegramChannel := ⟨"123:abc", ["1", "2", "1"]⟩

/-- An update of a resource of this name. -/
def exampleUpdate (name : Text) : Event where
  operation := .update
  resourceKind := "Pod"
  scope := "default"
  name := name

/-- A chat that takes the message, one that refuses it, and one that does not answer. -/
def exampleReplies : List Reply := [.answered 200 [], .answered 404 [], .timedOut "slow"]

/-- An update of a resource whose name is a lone surrogate. -/
def exampleLone : Event :=
  exampleUpdate [⟨0xD800, by decide⟩]

/-- The chat that is listed twice is written to twice, and two of the three messages leave a
warning.  About a resource whose name is a lone surrogate no chat is written to. -/
theorem writes_to_every_chat_exampleBot :
    exampleBot.chats ≠ [] ∧ exampleReplies.length = exampleBot.chats.length ∧
      (∀ reply ∈ exampleReplies, ∀ error, reply ≠ .broken error) ∧
      ((∀ chat ∈ exampleBot.chats, exampleBot.CanWrite (exampleUpdate "web") chat) ∧
        Wrote exampleBot (exampleUpdate "web") exampleBot.chats exampleReplies []
          (exampleBot.deliver (exampleUpdate "web") ⟨.ofList (.failed []) exampleReplies, []⟩) ∧
        (exampleBot.deliver (exampleUpdate "web")
          ⟨.ofList (.failed []) exampleReplies, []⟩).value.1 = .ok false) ∧
      ¬ exampleBot.CanWrite exampleLone "1" ∧
        Wrote exampleBot exampleLone [] [] []
          (exampleBot.deliver exampleLone ⟨.ofList (.failed []) exampleReplies, []⟩) ∧
        ∃ error, (exampleBot.deliver exampleLone
          ⟨.ofList (.failed []) exampleReplies, []⟩).value.1 = .error (.request error) := by
  have hchats : exampleBot.chats ≠ [] := by decide
  have hlength : exampleReplies.length = exampleBot.chats.length := rfl
  have hreplies : ∀ reply ∈ exampleReplies, ∀ error, reply ≠ .broken error := by
    simp [exampleReplies]
  refine ⟨hchats, hlength, hreplies, ?_, ?_⟩
  · obtain ⟨hall, -, hcan⟩ := writes_to_every_chat exampleBot (exampleUpdate "web") hchats
      exampleReplies hlength hreplies (.failed []) []
    have hsome : ∀ chat ∈ exampleBot.chats, exampleBot.CanWrite (exampleUpdate "web") chat := by
      intro chat hchat
      refine (hcan (by decide) (by decide) (by decide) (by decide) chat hchat).mpr ?_
      revert chat
      decide
    obtain ⟨hwrote, delivered, hvalue, hdelivered⟩ := hall hsome
    have hrefused : delivered = false := by
      rw [← Bool.not_eq_true, hdelivered]
      simp [exampleReplies]
    exact ⟨hsome, hwrote, hrefused ▸ hvalue⟩
  · obtain ⟨-, hfirst, -⟩ := writes_to_every_chat exampleBot exampleLone hchats exampleReplies
      hlength hreplies (.failed []) []
    have hnot : ¬ exampleBot.CanWrite exampleLone "1" := by
      intro h
      exact absurd h.2.2 (by decide)
    exact ⟨hnot, hfirst [] "1" ["2", "1"] rfl (List.forall_mem_nil _) hnot⟩

end TelegramChannel

end AdmissionLedger
