import AdmissionLedger.Proofs.Relay.Shift

/-!
# First come, first saved

Accepted events are taken from the queue in the order in which they were accepted, and
each comes to the end of its passage before the next is taken: one attempt to save it,
and when that has ended, well or not, its deliveries.  Only an event in the hands of a
consumer that was asked to end can be lost in the middle, and a stop costs at most one.

## Main definitions

* `Relay.inHands` — the events in the hands of consumers.
* `Relay.Kept` — the invariant.
* `Relay.Fresh` — a relay to which nothing has happened.
* `Relay.Orderly`, `Relay.Steady` — what is right about a relay at every moment, and about
  every turn.

## Main results

* `Relay.Kept.goes` — every turn keeps the invariant.
* `Relay.kept_run` — so does every timely run.
* `Relay.orderly_run` — what is right at every moment of a timely run.
-/

namespace AdmissionLedger.Relay

variable {κ σ : Type} {r r' : Relay κ σ} {id : Nat} {task : Task ConsumerPhase}
  {events : List Event} {stopping : Bool}

/-- The events in the hands of consumers. -/
def inHands (r : Relay κ σ) : List Event :=
  r.worker.alive.filterMap fun (_, task) => task.phase.event?

/-- The number of consumers that were asked to end and have not yet. -/
def askedConsumers (r : Relay κ σ) : Nat :=
  r.worker.alive.countP fun (_, task) => task.asked

/-- A relay to which nothing has happened. -/
structure Fresh (r : Relay κ σ) : Prop where
  worker : r.worker = {}
  line : r.line = []
  queue : r.queue.events = []
  scheduled : r.scheduled = []
  history : r.history = []

/-- What every turn keeps: the queue holds what was accepted and not taken, the consumers have done
passages of events one after the other, and the deliveries are those of the events that the router
had. -/
structure Kept (r : Relay κ σ) : Prop where
  room : 0 < r.queue.capacity → (r.queue.events.length : Int) ≤ r.queue.capacity
  line : r.Lined
  accepted : r.accepted = r.taken ++ r.queue.events
  passages : ∃ passages : List Passage, r.history.filter Act.isOfConsumer =
    passages.flatMap Passage.acts ++ r.inHands.flatMap Act.opening
  scheduled : r.scheduled = r.handed.flatMap r.audience

theorem inHands_of_alive (halive : r.worker.alive = [(id, task)]) :
    r.inHands = task.phase.event?.toList := by
  rw [inHands, halive]
  cases h : task.phase.event? <;> simp [h]

theorem inHands_of_none (hnone : r.worker.alive = []) : r.inHands = [] := by
  rw [inHands, hnone]
  rfl

theorem askedConsumers_of_alive (halive : r.worker.alive = [(id, task)]) :
    r.askedConsumers = task.asked.toNat := by
  rw [askedConsumers, halive]
  cases h : task.asked <;> simp [h]

theorem askedConsumers_of_none (hnone : r.worker.alive = []) : r.askedConsumers = 0 := by
  rw [askedConsumers, hnone]
  rfl

/-- The acts of consumers are passages of events before as after. -/
theorem passages_of_shift {acts : List Act} (h : ∃ passages : List Passage,
      r.history.filter Act.isOfConsumer =
        passages.flatMap Passage.acts ++ r.inHands.flatMap Act.opening)
    (hadds : Adds r r' acts) (hshift : Shift r r' acts stopping) :
    ∃ passages : List Passage, r'.history.filter Act.isOfConsumer =
      passages.flatMap Passage.acts ++ r'.inHands.flatMap Act.opening := by
  obtain ⟨passages, hpassages⟩ := h
  rw [hadds.history, List.filter_append, hpassages]
  cases hshift with
  | rest halive hline hlost hacts =>
    refine ⟨passages, ?_⟩
    rw [hacts, List.append_nil, inHands, inHands, halive]
  | made id hnone halive hline hlost hacts =>
    refine ⟨passages, ?_⟩
    rw [hacts, List.append_nil, inHands_of_none hnone, inHands_of_alive halive]
    rfl
  | on id task task' more hbefore halive hline hasked hlost hacts =>
    refine ⟨passages ++ more, ?_⟩
    rw [List.append_assoc, inHands_of_alive hbefore, hacts, inHands_of_alive halive,
      List.flatMap_append, List.append_assoc]
  | ended id task hbefore hasked halive hline hlost hacts =>
    -- the passage of the event in the hands of the consumer ends with its loss
    refine ⟨passages ++ task.phase.event?.toList.map .lost, ?_⟩
    rw [List.append_assoc, inHands_of_alive hbefore, hacts, inHands_of_none halive,
      List.flatMap_append]
    cases task.phase.event? <;> simp [Act.opening, Passage.acts]

/-- Every turn keeps the invariant. -/
theorem Kept.goes (h : r.Kept) (hgoes : Goes r r' events stopping) : r'.Kept := by
  obtain ⟨acts, hadds, -, hshift⟩ := hgoes
  refine ⟨?_, ?_, ?_, passages_of_shift h.passages hadds hshift, ?_⟩
  · intro hpositive
    rw [hadds.capacity] at hpositive
    exact hadds.room hpositive (h.room hpositive)
  · cases hshift with
    | rest halive hline =>
      rw [Lined, hline, halive]
      exact h.line
    | made id hnone halive hline => exact .inl hline
    | ended id task hbefore hasked halive hline => exact .inl hline
    | on id task task' more hbefore halive hline =>
      obtain hline | ⟨hline, hwaits⟩ := hline
      · exact .inl hline
      · exact .inr ⟨id, hline, hwaits ▸ halive⟩
  · have haccepted := h.accepted
    unfold Relay.accepted Relay.taken at haccepted ⊢
    rw [hadds.history, List.filterMap_append, List.filterMap_append, haccepted, List.append_assoc,
      hadds.queue, List.append_assoc]
  · have hscheduled := h.scheduled
    unfold Relay.handed at hscheduled ⊢
    rw [hadds.scheduled, hscheduled, hadds.audience, hadds.history, List.filterMap_append,
      List.flatMap_append]

theorem Goes.accepted (h : Goes r r' events stopping) : r'.accepted = r.accepted ++ events := by
  obtain ⟨acts, hadds, haccepted, -⟩ := h
  rw [Relay.accepted, hadds.history, List.filterMap_append, haccepted]
  rfl

/-- Each loss goes with the end of a consumer that was asked to end, and each stop asks one at
most. -/
theorem Goes.losses (h : Goes r r' events stopping) : r'.lost.length + r'.askedConsumers ≤
    r.lost.length + r.askedConsumers + stopping.toNat := by
  obtain ⟨acts, hadds, -, hshift⟩ := h
  rw [hadds.lost, List.length_append]
  cases hshift with
  | rest halive hline hlost hacts =>
    have hasked : r'.askedConsumers = r.askedConsumers := by
      rw [askedConsumers, halive]
      rfl
    rw [hlost, hasked]
    simp
  | made id hnone halive hline hlost hacts =>
    -- a new consumer was not asked to end
    rw [hlost, askedConsumers_of_alive halive, List.length_nil, Bool.toNat_false]
    omega
  | on id task task' more hbefore halive hline hasked hlost hacts =>
    rw [hlost, askedConsumers_of_alive hbefore, askedConsumers_of_alive halive]
    obtain hasked | hstopping := hasked
    · rw [hasked]
      simp
    · -- a stop asks one consumer at most
      have hle := Bool.toNat_le task'.asked
      simp only [hstopping, Bool.toNat_true, List.length_nil]
      omega
  | ended id task hbefore hasked halive hline hlost hacts =>
    -- the loss is set off against the consumer that had been asked
    have hone : task.phase.event?.toList.length ≤ 1 := by
      cases task.phase.event? <;> simp
    rw [hlost, askedConsumers_of_alive hbefore, askedConsumers_of_none halive, hasked,
      Bool.toNat_true]
    omega

/-- What is lost was in the hands of a consumer that was asked to end. -/
theorem Goes.lost (h : Goes r r' events stopping) : r'.lost = r.lost ∨
    ∃ id task e, r.worker.get? id = some task ∧ task.asked = true ∧
      task.phase.event? = some e ∧ r'.lost = r.lost ++ [e] := by
  obtain ⟨acts, hadds, -, hshift⟩ := h
  have hlost := hadds.lost
  cases hshift with
  | rest halive hline hnone hacts => exact .inl (by rw [hlost, hnone, List.append_nil])
  | made id _ halive hline hnone hacts => exact .inl (by rw [hlost, hnone, List.append_nil])
  | on id task task' more hbefore halive hline hasked hnone hacts =>
    exact .inl (by rw [hlost, hnone, List.append_nil])
  | ended id task hbefore hasked halive hline hhands hacts =>
    rw [hhands] at hlost
    cases hevent : task.phase.event? with
    | none =>
      rw [hevent] at hlost
      exact .inl (hlost.trans (List.append_nil _))
    | some e =>
      rw [hevent] at hlost
      exact .inr ⟨id, task, e, Worker.get?_of_alive hbefore, hasked, hevent, hlost⟩

/-- A consumer that was not asked to end lives on, and only a stop asks it. -/
theorem Goes.lives (h : Goes r r' events stopping) (hget : r.worker.get? id = some task)
    (hasked : task.asked = false) :
    ∃ task', r'.worker.get? id = some task' ∧ (task'.asked = false ∨ stopping = true) := by
  obtain ⟨acts, -, -, hshift⟩ := h
  cases hshift with
  | rest halive => exact ⟨task, by rw [Worker.get?, halive]; exact hget, .inl hasked⟩
  | made id' hnone =>
    have hmem := Worker.mem_alive_of_get? hget
    rw [hnone] at hmem
    cases hmem
  | on id' task₁ task' more hbefore halive hline hstops =>
    obtain ⟨rfl, rfl⟩ := Worker.eq_of_get? hbefore hget
    rw [hasked] at hstops
    exact ⟨task', Worker.get?_of_alive halive, hstops⟩
  | ended id' task₁ hbefore hwasAsked =>
    obtain ⟨-, rfl⟩ := Worker.eq_of_get? hbefore hget
    rw [hasked] at hwasAsked
    cases hwasAsked

/-! ### Runs -/

/-- Nothing has been done with a fresh relay. -/
theorem Fresh.kept (h : r.Fresh) : r.Kept where
  room := by
    intro hpositive
    rw [h.queue]
    exact Int.le_of_lt hpositive
  line := .inl h.line
  accepted := by simp [accepted, taken, h.history, h.queue]
  passages := ⟨[], by simp [h.history, inHands, h.worker]⟩
  scheduled := by simp [h.scheduled, handed, h.history]

/-- Timely runs keep the invariant, and lose no more than they stop. -/
theorem kept_run {turns : List Turn} (hsound : (keeper κ σ).Sound r) (h : r.Kept)
    (htimely : (keeper κ σ).Timely r turns) :
    let r' := (keeper κ σ).run r turns
    r'.Kept ∧ r'.queue.capacity = r.queue.capacity ∧ r'.lost.length + r'.askedConsumers ≤
      r.lost.length + r.askedConsumers + turns.countP Turn.isStop := by
  induction turns generalizing r with
  | nil => exact ⟨h, rfl, Nat.le_refl _⟩
  | cons t turns ih =>
    have hgoes := goes_turn hsound.tidy h.line t
    obtain ⟨hkept, hcapacity, hlosses⟩ := ih (hsound.turn htimely.1) (h.goes hgoes) htimely.2
    have hfirst := hgoes.losses
    obtain ⟨acts, hadds, -⟩ := hgoes
    refine ⟨hkept, hcapacity.trans hadds.capacity, ?_⟩
    rw [List.countP_cons]
    have hcount : t.isStop.toNat = if t.isStop = true then 1 else 0 := by
      cases t.isStop <;> rfl
    have hturn : (keeper κ σ).turn r t = r.turn t := rfl
    rw [hturn] at hlosses
    rw [← hcount]
    exact Nat.le_trans hlosses (by omega)

/-- What is right about a relay at every moment. -/
structure Orderly (r : Relay κ σ) : Prop where
  /-- The events that were accepted are those that were taken, in order, and then the queue. -/
  accepted : r.accepted = r.taken ++ r.queue.events
  /-- The acts of consumers are the passages of the events that were taken, one after the other; the
  last may not have come to its end, and its event is in the hands of the consumer. -/
  passages : ∃ passages : List Passage, r.taken = passages.map Passage.event ++ r.inHands ∧
    r.history.filter Act.isOfConsumer =
      passages.flatMap Passage.acts ++ r.inHands.flatMap Act.opening
  alone : r.inHands.length ≤ 1
  /-- The deliveries are those of the events that the router had. -/
  scheduled : r.scheduled = r.handed.flatMap r.audience
  room : (r.queue.events.length : Int) ≤ r.queue.capacity
  /-- An offer fails exactly if the queue is full. -/
  offered : ∀ e, (r.offer e).value.1 = false ↔ (r.queue.events.length : Int) = r.queue.capacity
  /-- It leaves the queue as it is if it fails, and puts the event at its end if it does not. -/
  queue : ∀ e, (r.offer e).value.2.queue.events =
    if (r.offer e).value.1 then r.queue.events ++ [e] else r.queue.events

/-- What is right about a turn. -/
structure Steady (r : Relay κ σ) (t : Turn) : Prop where
  /-- An event is accepted exactly if it is offered and the offer does not fail. -/
  accepted : (r.turn t).accepted = r.accepted ++ r.admitted t
  /-- What is lost was in the hands of a consumer that was asked to end. -/
  lost : (r.turn t).lost = r.lost ∨ ∃ id task e, r.worker.get? id = some task ∧
    task.asked = true ∧ task.phase.event? = some e ∧ (r.turn t).lost = r.lost ++ [e]
  /-- A consumer that was not asked to end lives on, whatever the store replied to it, and only a
  stop asks it. -/
  lives : ∀ id task, r.worker.get? id = some task → task.asked = false →
    ∃ task', (r.turn t).worker.get? id = some task' ∧ (task'.asked = false ∨ t.isStop = true)

/-- The events that were taken are found among the acts of consumers. -/
theorem taken_eq (r : Relay κ σ) :
    r.taken = (r.history.filter Act.isOfConsumer).filterMap Act.taken? := by
  rw [taken, List.filterMap_filter]
  refine List.filterMap_congr fun act _ => ?_
  cases act <;> rfl

theorem filterMap_taken?_passages (passages : List Passage) (hands : List Event) :
    (passages.flatMap Passage.acts ++ hands.flatMap Act.opening).filterMap Act.taken? =
      passages.map Passage.event ++ hands := by
  rw [List.filterMap_append]
  congr 1
  · induction passages with
    | nil => rfl
    | cons passage passages ih =>
      rw [List.flatMap_cons, List.filterMap_append, ih]
      cases passage <;> rfl
  · induction hands with
    | nil => rfl
    | cons e hands ih =>
      rw [List.flatMap_cons, List.filterMap_append, ih]
      rfl

/-- The invariant is what is right, and more. -/
theorem Kept.orderly (h : r.Kept) (htidy : r.worker.Tidy) (hpositive : 0 < r.queue.capacity) :
    r.Orderly where
  accepted := h.accepted
  passages := by
    obtain ⟨passages, hpassages⟩ := h.passages
    refine ⟨passages, ?_, hpassages⟩
    rw [taken_eq, hpassages, filterMap_taken?_passages]
  alone := Nat.le_trans (List.length_filterMap_le _ _) htidy.tended.alone
  scheduled := h.scheduled
  room := h.room hpositive
  offered := by
    intro e
    have hroom := h.room hpositive
    obtain ⟨hfull, heq⟩ | ⟨hfull, heq⟩ := r.offer_cases e
    · simp only [EventQueue.isFull, hpositive, decide_true, Bool.true_and,
        decide_eq_false_iff_not] at hfull
      rw [heq]
      exact iff_of_false (fun hno => by cases hno) (by omega)
    · simp only [EventQueue.isFull, hpositive, decide_true, Bool.true_and,
        decide_eq_true_eq] at hfull
      rw [heq]
      exact iff_of_true rfl (by omega)
  queue := by
    intro e
    obtain ⟨hfull, heq⟩ | ⟨-, heq⟩ := r.offer_cases e
    · have hqueue := ((adds_enqueue (e := e) hfull).trans (adds_wakeNext _)).queue
      rw [heq]
      exact hqueue.symm
    · rw [heq]
      rfl

/-- Whatever happens to a fresh relay, as long as no start is in the gap of a stop: it is in order,
has lost no more events than there were stops, and whatever happens next goes right. -/
theorem orderly_run (hfresh : r.Fresh) (hcapacity : 0 < r.queue.capacity) {turns : List Turn}
    (htimely : (keeper κ σ).Timely r turns) :
    let r' := (keeper κ σ).run r turns
    r'.Orderly ∧ r'.queue.capacity = r.queue.capacity ∧
      r'.lost.length ≤ turns.countP Turn.isStop ∧
      ∀ t, r'.Steady t := by
  intro r'
  have hsound : (keeper κ σ).Sound r := sound_fresh hfresh.worker
  obtain ⟨hkept, hsame, hlosses⟩ := kept_run hsound hfresh.kept htimely
  have hnone : r.lost.length + r.askedConsumers = 0 := by
    simp [lost, hfresh.history, askedConsumers, hfresh.worker]
  have hsound' := hsound.run htimely
  refine ⟨hkept.orderly hsound'.tidy (hsame ▸ hcapacity), hsame, ?_, fun t => ?_⟩
  · rw [hnone, Nat.zero_add] at hlosses
    exact Nat.le_trans (Nat.le_add_right _ _) hlosses
  · have hgoes := goes_turn hsound'.tidy hkept.line t
    exact ⟨hgoes.accepted, hgoes.lost, fun id task hget hasked => hgoes.lives hget hasked⟩

/-- A relay with room for one event, a channel that delivers everything, and a store that replies to
nobody of its own accord. -/
def exampleRelay : Relay Unit Unit where
  carrier := {
    name := fun _ => "hook"
    deliver := fun _ _ outside => .quiet (some .sent, outside) }
  outside := ()
  storage := .slow false []
  dispatch := some { router := ⟨[()], []⟩ }
  queue := { capacity := 1 }

/-- The creation of a resource. -/
def exampleEvent (name : Text) : Event where
  operation := .create
  resourceKind := "Pod"
  scope := "prod"
  name := name
  id := name

theorem fresh_exampleRelay : exampleRelay.Fresh :=
  ⟨rfl, rfl, rfl, rfl, rfl⟩

/-- The first event is in the hands of the consumer when that is stopped, the second waits, and the
third finds no room; after a new start the store refuses the second. -/
def exampleTurns : List Turn :=
  [.start, .offer (exampleEvent "a"), .job 0, .offer (exampleEvent "b"), .offer (exampleEvent "c"),
    .stop 0, .job 0, .job 0, .start, .job 0, .answer (.error "down") 1, .job 0]

theorem orderly_run_exampleTurns :
    let r' := (keeper Unit Unit).run exampleRelay exampleTurns
    (keeper Unit Unit).Timely exampleRelay exampleTurns ∧ r'.Orderly ∧
      r'.lost.length ≤ 1 ∧ r'.accepted.map (·.id) = ["a", "b"] ∧ r'.lost.map (·.id) = ["a"] ∧
      r'.scheduled.map (·.2.id) = ["b"] ∧ r'.counts = [.droppedEvents, .savedEvents false] := by
  have htimely : (keeper Unit Unit).Timely exampleRelay exampleTurns := by decide +kernel
  obtain ⟨horderly, -, hlosses, -⟩ := orderly_run fresh_exampleRelay (by decide) htimely
  refine ⟨htimely, horderly, hlosses, ?_, ?_, ?_, ?_⟩
  · decide +kernel
  · decide +kernel
  · decide +kernel
  · decide +kernel

end AdmissionLedger.Relay
