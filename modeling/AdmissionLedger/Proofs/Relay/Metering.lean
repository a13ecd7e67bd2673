import AdmissionLedger.Proofs.Relay.Order

/-!
# What the counters of a relay add up to

Where there is a store, the end of every attempt is counted.  So while nobody stops the
consumer, the counters account for all events that were accepted but those in the queue
and the one in the hands of the consumer.  What is counted of reviews and of refused
offers does not change by what the relay does of its own.

## Main definitions

* `Relay.reading` — how often a counter was named.
* `Relay.Turn.isInner`, `Relay.Inward` — turns without an offer or a stop, and what they do.
* `Relay.Metered` — the invariant.

## Main results

* `Relay.inward_turn` — what a turn without an offer or a stop does.
* `Relay.Metered.turn`, `Relay.Metered.offer` — turns without a stop keep the invariant.
* `Relay.Metered.length_accepted` — what has become of the events that were accepted.
-/

namespace AdmissionLedger

namespace Act

/-- Whether an attempt to save has ended. -/
def isConcluded : Act → Bool
  | concluded .. => true
  | _ => false

/-- Whether this is done without an offer or a stop where there is a store. -/
def isInner : Act → Bool
  | taken _ | tried _ | handed _ | delivered .. => true
  | concluded _ result => result ≠ .unstored
  | accepted _ | refused _ | lost _ | counted _ => false

theorem isInner_of_isOfChannel {act : Act} (h : act.isOfChannel = true) : act.isInner = true := by
  cases act <;> first | rfl | cases h

end Act

/-- Whether a counter is about reviews or about refused offers. -/
def Counter.isOfAdmission : Counter → Bool
  | reviews _ | reviewDurations | droppedEvents => true
  | savedEvents _ | notifications .. | reloads .. => false

/-! ### Counts of acts -/

section

variable {acts : List Act}

/-- Nothing of this is counted of reviews or of refused offers. -/
theorem count_eq_zero_of_isInner (h : ∀ act ∈ acts, act.isInner = true) {c : Counter}
    (hc : c.isOfAdmission = true) : (acts.flatMap Act.counts).count c = 0 := by
  rw [List.count_eq_zero]
  intro hmem
  obtain ⟨act, hact, hcounts⟩ := List.mem_flatMap.mp hmem
  have hinner := h act hact
  cases act with
  | concluded e result => cases result <;> cases c <;> simp_all [Act.counts, SaveResult.counts,
      Counter.isOfAdmission]
  | delivered channel e result => cases c <;> simp_all [Act.counts, DeliveryEnd.count,
      Counter.isOfAdmission]
  | taken | tried | handed => cases hcounts
  | accepted | refused | lost | counted => cases hinner

/-- The end of every attempt is counted once. -/
theorem count_saved_of_isInner (h : ∀ act ∈ acts, act.isInner = true) :
    (acts.flatMap Act.counts).count (.savedEvents true) +
      (acts.flatMap Act.counts).count (.savedEvents false) = acts.countP Act.isConcluded := by
  induction acts with
  | nil => rfl
  | cons act acts ih =>
    obtain ⟨hact, hacts⟩ := List.forall_mem_cons.mp h
    have hone : act.counts.count (.savedEvents true) + act.counts.count (.savedEvents false) =
        if act.isConcluded then 1 else 0 := by
      cases act with
      | concluded e result => cases result <;> first | rfl | cases hact
      | _ => first | rfl | cases hact
    rw [List.flatMap_cons, List.count_append, List.count_append, List.countP_cons, ← ih hacts,
      ← hone]
    omega

end

namespace Relay

variable {κ σ : Type} {r r' r'' : Relay κ σ} {id : Nat} {acts : List Act} {c : Counter}

/-! ### Readings -/

/-- How often a counter was named. -/
def reading (r : Relay κ σ) (c : Counter) : Nat :=
  r.counts.count c

theorem reading_of_history (h : r'.history = r.history ++ acts) (c : Counter) :
    r'.reading c = r.reading c + (acts.flatMap Act.counts).count c := by
  rw [reading, counts, h, List.flatMap_append, List.count_append]
  rfl

theorem reading_count (r : Relay κ σ) (counters : List Counter) (c : Counter) :
    (r.count counters).reading c = r.reading c + counters.count c := by
  rw [reading_of_history (r := r) rfl, List.flatMap_map]
  exact congrArg (_ + List.count c ·) (List.flatMap_singleton' counters)

/-! ### Turns without an offer or a stop -/

/-- Whether nothing is offered with a turn and nobody stops the consumer. -/
def Turn.isInner : Turn → Bool
  | offer _ | stop _ => false
  | start | stopRouter _ | answer .. | job _ | closeStore => true

/-- What is done without an offer or a stop where there is a store: no event is accepted, refused or
lost, and the queue is measured whenever an event is taken. -/
structure Inward (r r' : Relay κ σ) : Prop where
  history : ∃ acts, r'.history = r.history ++ acts ∧ ∀ act ∈ acts, act.isInner = true
  stops : r.worker.stops = [] → r'.worker.stops = []
  storage : r'.storage ≠ .nowhere
  depth : r.depth = r.queue.events.length → r'.depth = r'.queue.events.length

namespace Inward

/-- Nothing is done with events. -/
theorem of_same (hstore : r'.storage ≠ .nowhere) (hhistory : r'.history = r.history)
    (hstops : r.worker.stops = [] → r'.worker.stops = []) (hqueue : r'.queue = r.queue)
    (hdepth : r'.depth = r.depth) : Inward r r' where
  history := ⟨[], by rw [hhistory, List.append_nil], List.forall_mem_nil _⟩
  stops := hstops
  storage := hstore
  depth := by rw [hdepth, hqueue]; exact fun h => h

theorem refl (hstore : r.storage ≠ .nowhere) : Inward r r :=
  .of_same hstore rfl (fun h => h) rfl rfl

theorem trans (h : Inward r r') (h' : Inward r' r'') : Inward r r'' where
  history := by
    obtain ⟨acts, heq, hacts⟩ := h.history
    obtain ⟨acts', heq', hacts'⟩ := h'.history
    exact ⟨acts ++ acts', by rw [heq', heq, List.append_assoc],
      List.forall_mem_append.mpr ⟨hacts, hacts'⟩⟩
  stops := fun hstops => h'.stops (h.stops hstops)
  storage := h'.storage
  depth := fun hdepth => h'.depth (h.depth hdepth)

/-- What is counted of reviews and of refused offers does not change. -/
theorem reading (h : Inward r r') (hc : c.isOfAdmission = true) : r'.reading c = r.reading c := by
  obtain ⟨acts, heq, hacts⟩ := h.history
  rw [reading_of_history heq, count_eq_zero_of_isInner hacts hc, Nat.add_zero]

end Inward

theorem Aside.inward (h : Aside r r') (hstore : r.storage ≠ .nowhere) : Inward r r' where
  history := by
    obtain ⟨acts, heq, hacts⟩ := h.history
    exact ⟨acts, heq, fun act hact => Act.isInner_of_isOfChannel (hacts act hact)⟩
  stops := by rw [h.worker]; exact fun hstops => hstops
  storage := by rwa [h.storage]
  depth := by rw [h.depth, h.queue]; exact fun hdepth => hdepth

theorem Concluded.inward {e : Event} {result : SaveResult} (h : Concluded r r' e result)
    (hstore : r.storage ≠ .nowhere) (hresult : result ≠ .unstored) : Inward r r' where
  history := ⟨_, h.history, by simp [Act.isInner, hresult]⟩
  stops := by rw [h.worker]; exact fun hstops => hstops
  storage := by rwa [h.storage]
  depth := by rw [h.depth, h.queue]; exact fun hdepth => hdepth

theorem Stretch.inward {done : List (Event × SaveResult)} {phase : ConsumerPhase}
    (h : Stretch id r r' done phase) (hstore : r.storage ≠ .nowhere) : Inward r r' where
  history := by
    refine ⟨_, h.history.trans (List.append_assoc _ _ _), List.forall_mem_append.mpr ⟨?_, ?_⟩⟩
    · rw [List.forall_mem_flatMap]
      intro attempt hattempt
      simp [Act.isInner, h.stored hstore attempt hattempt]
    · rw [List.forall_mem_flatMap]
      simp [Act.isInner]
  stops := by rw [h.worker]; exact fun hstops => hstops
  storage := by
    rw [h.storage]
    exact Storage.saveAll_ne_nowhere hstore _
  depth := h.depth

/-- Where no consumer was asked to end, none does. -/
theorem inward_consume (hstore : r.storage ≠ .nowhere) (hasked : r.askedConsumers = 0) (id : Nat) :
    Inward r (r.consume id).value := by
  have hconsumed := r.consumed_consume id
  generalize (r.consume id).value = r' at hconsumed ⊢
  cases hconsumed with
  | idle => exact .refl hstore
  | ended task hget htask =>
    rw [askedConsumers, List.countP_eq_zero] at hasked
    exact absurd htask (hasked _ (Worker.mem_alive_of_get? hget))
  | took task hget htask hphase done phase _ h => exact h.inward hstore
  | replied e reply hget r₁ hreply done phase _ h =>
    have hcomplete : { r with storage := r.storage.complete e reply }.storage ≠ .nowhere :=
      Storage.complete_ne_nowhere hstore e reply
    have hbefore : Inward r { r with storage := r.storage.complete e reply } :=
      .of_same hcomplete rfl (fun h => h) rfl rfl
    have hended := hreply.inward hcomplete (SaveResult.ofReply_ne_unstored reply)
    exact (hbefore.trans hended).trans (h.inward hended.storage)

theorem inward_perform (hstore : r.storage ≠ .nowhere) (hasked : r.askedConsumers = 0)
    (job : Job) : Inward r (r.perform job).value := by
  cases job with
  | consume id => exact inward_consume hstore hasked id
  | deliver id => exact (aside_deliver r id).inward hstore
  | retire id => exact (aside_retire r id).inward hstore
  | report caller => exact (aside_report r caller).inward hstore
  | resumeRouter caller => exact (aside_resumeRouter r caller).inward hstore
  | resume caller =>
    simp only [perform, resume]
    split
    · refine .of_same hstore rfl (fun hstops => ?_) rfl rfl
      show r.worker.stops.filter _ = []
      rw [hstops]
      rfl
    · exact .refl hstore

theorem inward_start (hstore : r.storage ≠ .nowhere) : Inward r r.start := by
  obtain heq | ⟨hcurrent, heq⟩ := r.start_eq
  · rw [heq]
    exact .refl hstore
  · rw [heq, Worker.start_of_current?_eq_none hcurrent]
    exact .of_same hstore rfl (fun h => h) rfl rfl

/-- What a turn without an offer or a stop does, if no consumer was asked to end before. -/
theorem inward_turn (hstore : r.storage ≠ .nowhere) (hasked : r.askedConsumers = 0) {t : Turn}
    (hinner : t.isInner = true) : Inward r (r.turn t) := by
  have hrest : Inward r r := .refl hstore
  cases t with
  | offer e => cases hinner
  | stop caller => cases hinner
  | start => exact inward_start hstore
  | stopRouter caller =>
    rw [turn]
    split
    · exact hrest
    · exact (aside_beginRouterStop r caller).inward hstore
  | answer reply id =>
    obtain heq | ⟨e, -, heq⟩ := r.answer_eq reply id
    · rwa [turn, heq]
    · rw [turn, heq]
      exact .of_same hstore rfl (fun h => h) rfl rfl
  | job place =>
    rw [turn, runJob]
    split
    · next job _ =>
      have hjob := inward_perform (r := { r with ready := r.ready.eraseIdx place }) hstore hasked
        job
      exact ⟨hjob.history, hjob.stops, hjob.storage, hjob.depth⟩
    · exact hrest
  | closeStore =>
    refine .of_same ?_ rfl (fun h => h) rfl rfl
    exact Storage.close_ne_nowhere hstore

/-- Whoever is woken does nothing yet. -/
theorem inward_wakeNext (hstore : r.storage ≠ .nowhere) : Inward r r.wakeNext := by
  obtain ⟨-, heq⟩ | ⟨id, rest, -, heq⟩ := r.wakeNext_eq
  · rw [heq]
    exact .refl hstore
  · rw [heq]
    exact .of_same hstore rfl (fun h => h) rfl rfl

/-- What others count does not concern the relay. -/
theorem goes_count (r : Relay κ σ) (counters : List Counter) :
    Goes r (r.count counters) [] false := by
  have hviews : Views (counters.map Act.counted) [] [] [] [] [] :=
    .of_isQuiet (by simp [Act.isQuiet])
  exact ⟨counters.map .counted, .of_same hviews rfl rfl rfl rfl, hviews.accepted,
    .rest rfl rfl hviews.lost hviews.ofConsumer⟩

theorem accepted_count (r : Relay κ σ) (counters : List Counter) :
    (r.count counters).accepted = r.accepted := by
  rw [(r.goes_count counters).accepted, List.append_nil]

/-- Without a stop no event is lost and no consumer is asked to end. -/
theorem Goes.unlost {events : List Event} (h : Goes r r' events false)
    (hunlost : r.lost.length + r.askedConsumers = 0) :
    r'.lost.length + r'.askedConsumers = 0 := by
  have hlosses := h.losses
  rw [hunlost] at hlosses
  exact Nat.le_zero.mp hlosses

/-! ### Ends of passages -/

/-- The events that were lost are found among the acts of consumers. -/
theorem lost_eq (r : Relay κ σ) :
    r.lost = (r.history.filter Act.isOfConsumer).filterMap Act.lost? := by
  rw [lost, List.filterMap_filter]
  refine List.filterMap_congr fun act _ => ?_
  cases act <;> rfl

/-- So are the attempts that have ended. -/
theorem countP_isConcluded_eq (history : List Act) : history.countP Act.isConcluded =
    (history.filter Act.isOfConsumer).countP Act.isConcluded := by
  rw [List.countP_filter]
  refine List.countP_congr fun act _ => ?_
  cases act <;> exact Iff.rfl

/-- Each passage ends once: its attempt ends or its event is lost. -/
theorem countP_add_length_lost (passages : List Passage) (hands : List Event) :
    (passages.flatMap Passage.acts ++ hands.flatMap Act.opening).countP Act.isConcluded +
      ((passages.flatMap Passage.acts ++ hands.flatMap Act.opening).filterMap Act.lost?).length =
        passages.length := by
  induction passages with
  | nil =>
    induction hands with
    | nil => rfl
    | cons e hands ih => exact ih
  | cons passage passages ih =>
    rw [List.flatMap_cons, List.append_assoc, List.countP_append, List.filterMap_append,
      List.length_append, List.length_cons, ← ih]
    have hone : passage.acts.countP Act.isConcluded + (passage.acts.filterMap Act.lost?).length
        = 1 := by
      cases passage <;> rfl
    omega

/-! ### The invariant -/

/-- What holds of a relay with a store while nobody stops its consumer. -/
structure Metered (r : Relay κ σ) : Prop where
  sound : (keeper κ σ).Sound r
  stops : r.worker.stops = []
  kept : r.Kept
  /-- No event is lost, and no consumer was asked to end. -/
  unlost : r.lost.length + r.askedConsumers = 0
  storage : r.storage ≠ .nowhere
  /-- The end of every attempt was counted. -/
  saved : r.reading (.savedEvents true) + r.reading (.savedEvents false) =
    r.history.countP Act.isConcluded
  /-- Since the first event was accepted, the last measured length of the queue is its length. -/
  depth : r.accepted ≠ [] → r.depth = r.queue.events.length

namespace Metered

/-- What turns without a stop keep of the invariant. -/
theorem of_turn (h : r.Metered) {t : Turn} (hstop : t.isStop = false)
    (hstops : (r.turn t).worker.stops = []) (hstorage : (r.turn t).storage ≠ .nowhere)
    (hhistory : (r.turn t).history = r.history ++ acts)
    (hsaved : (acts.flatMap Act.counts).count (.savedEvents true) +
      (acts.flatMap Act.counts).count (.savedEvents false) = acts.countP Act.isConcluded)
    (hdepth : (r.turn t).accepted ≠ [] → (r.turn t).depth = (r.turn t).queue.events.length) :
    (r.turn t).Metered := by
  have hgoes := goes_turn h.sound.tidy h.kept.line t
  rw [hstop] at hgoes
  refine ⟨h.sound.turn fun _ hgap => hgap.2 h.stops, hstops, h.kept.goes hgoes,
    hgoes.unlost h.unlost, hstorage, ?_, hdepth⟩
  rw [reading_of_history hhistory, reading_of_history hhistory, hhistory, List.countP_append,
    ← h.saved, ← hsaved]
  omega

/-- Turns without an offer or a stop keep the invariant. -/
theorem turn (h : r.Metered) {t : Turn} (hinner : t.isInner = true) :
    Inward r (r.turn t) ∧ (r.turn t).accepted = r.accepted ∧ (r.turn t).Metered := by
  have hunlost := h.unlost
  have hinward : Inward r (r.turn t) := inward_turn h.storage (by omega) hinner
  have haccepted : (r.turn t).accepted = r.accepted := by
    rw [(goes_turn h.sound.tidy h.kept.line t).accepted]
    cases t <;> first | exact List.append_nil _ | cases hinner
  have hstop : t.isStop = false := by cases t <;> first | rfl | cases hinner
  obtain ⟨acts, hhistory, hacts⟩ := hinward.history
  refine ⟨hinward, haccepted, h.of_turn hstop (hinward.stops h.stops) hinward.storage hhistory
    (count_saved_of_isInner hacts) fun hne => ?_⟩
  rw [haccepted] at hne
  exact hinward.depth (h.depth hne)

/-- An offer keeps the invariant, and the answer says whether the event was accepted or its refusal
counted. -/
theorem offer (h : r.Metered) (e : Event) :
    let result := (r.offer e).value
    result.2.Metered ∧ result.2.accepted = r.accepted ++ (if result.1 then [e] else []) ∧
      result.2.reading .droppedEvents = r.reading .droppedEvents + (!result.1).toNat ∧
      ∀ c, c ≠ .droppedEvents → result.2.reading c = r.reading c := by
  intro result
  have haccepted : result.2.accepted = r.accepted ++ (if result.1 then [e] else []) :=
    (goes_turn h.sound.tidy h.kept.line (.offer e)).accepted
  obtain ⟨hfull, heq⟩ | ⟨-, heq⟩ := r.offer_cases e
  · have hhistory : result.2.history = r.history ++ [.accepted e] := by
      rw [show result = _ from heq]
      exact ((adds_enqueue (e := e) hfull).trans (adds_wakeNext _)).history
    have hwake : Inward (r.enqueue e) result.2 := by
      rw [show result = _ from heq]
      exact inward_wakeNext h.storage
    have hanswer : result.1 = true := congrArg Prod.fst heq
    refine ⟨h.of_turn (t := .offer e) rfl (hwake.stops h.stops) hwake.storage hhistory rfl
      fun _ => hwake.depth rfl, haccepted, ?_, fun c _ => ?_⟩
    · rw [reading_of_history hhistory, hanswer]
      rfl
    · rw [reading_of_history hhistory]
      rfl
  · -- the relay is as before but for the refusal
    have hrefused : result.2 = r.record [.refused e] := congrArg Prod.snd heq
    have hhistory : result.2.history = r.history ++ [.refused e] := by rw [hrefused]; rfl
    have hanswer : result.1 = false := congrArg Prod.fst heq
    have hdepth : result.2.accepted ≠ [] → result.2.depth = result.2.queue.events.length := by
      rw [haccepted, hanswer, hrefused]
      exact fun hne => h.depth (by simpa using hne)
    refine ⟨h.of_turn (t := .offer e) rfl ?_ ?_ hhistory rfl hdepth, haccepted, ?_, fun c hc => ?_⟩
    · show result.2.worker.stops = []
      rw [hrefused]
      exact h.stops
    · show result.2.storage ≠ .nowhere
      rw [hrefused]
      exact h.storage
    · rw [reading_of_history hhistory, hanswer]
      rfl
    · rw [reading_of_history hhistory]
      simp [Act.counts, hc.symm]

/-- Counters that concern reviews can be added to. -/
theorem count (h : r.Metered) {counters : List Counter}
    (hcounters : ∀ c ∈ counters, c.isOfAdmission = true) : (r.count counters).Metered := by
  have hgoes := r.goes_count counters
  have hzero : ∀ success, counters.count (.savedEvents success) = 0 := fun success =>
    List.count_eq_zero.mpr fun hmem => nomatch hcounters _ hmem
  refine ⟨⟨h.sound.tidy, h.sound.told⟩, h.stops, h.kept.goes hgoes, hgoes.unlost h.unlost,
    h.storage, ?_, ?_⟩
  · have hnone : (counters.map Act.counted).countP Act.isConcluded = 0 := by
      simp [List.countP_eq_zero, Act.isConcluded]
    rw [reading_count, reading_count, hzero, hzero, Relay.count, record, List.countP_append, hnone]
    exact h.saved
  · rw [accepted_count]
    exact h.depth

/-- What has become of the events that were accepted: they were saved or not, wait in the queue, or
are in the hands of the consumer. -/
theorem length_accepted (h : r.Metered) : r.accepted.length =
    r.reading (.savedEvents true) + r.reading (.savedEvents false) + r.queue.events.length +
      r.inHands.length := by
  obtain ⟨passages, hpassages⟩ := h.kept.passages
  have htaken : r.taken = passages.map Passage.event ++ r.inHands := by
    rw [taken_eq, hpassages, filterMap_taken?_passages]
  -- each passage has come to its end by a result, since no event was lost
  have hends := countP_add_length_lost passages r.inHands
  rw [← hpassages, ← lost_eq, ← countP_isConcluded_eq, ← h.saved] at hends
  have hunlost := h.unlost
  rw [h.kept.accepted, htaken, List.length_append, List.length_append, List.length_map]
  omega

theorem length_inHands_le (h : r.Metered) : r.inHands.length ≤ 1 :=
  Nat.le_trans (List.length_filterMap_le _ _) h.sound.tidy.tended.alone

end Metered

/-- A relay with a store to which nothing has happened. -/
theorem Fresh.metered (h : r.Fresh) (hstore : r.storage ≠ .nowhere) : r.Metered where
  sound := sound_fresh h.worker
  stops := by rw [h.worker]
  kept := h.kept
  unlost := by simp [lost, h.history, askedConsumers, h.worker]
  storage := hstore
  saved := by simp [reading, counts, h.history]
  depth := by simp [accepted, h.history]

end Relay

end AdmissionLedger
