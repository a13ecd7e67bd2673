import AdmissionLedger.Proofs.Relay.Consume

/-!
# What a history tells

The history of a relay tells what has become of events: those that were accepted and not
taken are in the queue, and the deliveries are those of the events that the router had.
The acts of consumers are the passages of events, one after the other.

## Main definitions

* `Passage`, `Passage.acts` — what becomes of an event that was taken.
* `Relay.accepted`, `Relay.taken`, `Relay.handed`, `Relay.lost` — events by what was done.
* `Relay.Adds` — acts with what becomes of the queue and the deliveries.

## Main results

* `Relay.Adds.trans` — acts after acts.
* `Relay.Stretch.adds`, `Relay.Concluded.adds`, `Relay.Aside.adds` — what consumers and
  deliveries add.
-/

namespace AdmissionLedger

namespace Act

/-- What is done with an event in the hands of a consumer so far. -/
def opening (e : Event) : List Act :=
  [taken e, tried e]

/-- The event that is accepted. -/
def accepted? : Act → Option Event
  | accepted e => some e
  | _ => none

/-- The event that is taken from the queue. -/
def taken? : Act → Option Event
  | taken e => some e
  | _ => none

/-- The event that the router has. -/
def handed? : Act → Option Event
  | handed e => some e
  | _ => none

/-- The event that is lost. -/
def lost? : Act → Option Event
  | lost e => some e
  | _ => none

/-- Whether a consumer does this. -/
def isOfConsumer : Act → Bool
  | taken _ | tried _ | concluded .. | handed _ | lost _ => true
  | accepted _ | refused _ | delivered .. | counted _ => false

/-- Whether an act is neither that of a consumer nor an acceptance. -/
def isQuiet : Act → Bool
  | refused _ | delivered .. | counted _ => true
  | _ => false

theorem isQuiet_of_isOfChannel {act : Act} (h : act.isOfChannel = true) : act.isQuiet = true := by
  cases act <;> first | rfl | cases h

end Act

/-- What becomes of an event that was taken. -/
inductive Passage
  /-- The attempt to save it has ended, and then the router has it. -/
  | finished (e : Event) (result : SaveResult)
  /-- The consumer has ended before the attempt has. -/
  | lost (e : Event)

namespace Passage

/-- The event. -/
def event : Passage → Event
  | finished e _ | lost e => e

/-- What is done with the event. -/
def acts : Passage → List Act
  | finished e result => [.taken e, .tried e, .concluded e result, .handed e]
  | lost e => [.taken e, .tried e, .lost e]

/-- The passages of events that came to their ends. -/
def ofEnded (done : List (Event × SaveResult)) : List Passage :=
  done.map fun (e, result) => finished e result

theorem flatMap_acts_ofEnded (done : List (Event × SaveResult)) :
    (ofEnded done).flatMap acts =
      done.flatMap fun (e, result) => [.taken e, .tried e, .concluded e result, .handed e] := by
  rw [ofEnded, List.flatMap_map]
  rfl

end Passage

/-! ### Views of acts -/

/-- What is looked for in acts, all at once. -/
structure Views (acts : List Act) (accepted taken handed lost : List Event)
    (ofConsumer : List Act) : Prop where
  accepted : acts.filterMap Act.accepted? = accepted
  taken : acts.filterMap Act.taken? = taken
  handed : acts.filterMap Act.handed? = handed
  lost : acts.filterMap Act.lost? = lost
  ofConsumer : acts.filter Act.isOfConsumer = ofConsumer

namespace Views

/-- Nothing is found among quiet acts. -/
theorem of_isQuiet {acts : List Act} (h : ∀ act ∈ acts, act.isQuiet = true) :
    Views acts [] [] [] [] [] := by
  constructor <;> simp only [List.filterMap_eq_nil_iff, List.filter_eq_nil_iff] <;>
    intro act hact <;> have hquiet := h act hact <;>
    cases act <;> first | rfl | exact Bool.false_ne_true | cases hquiet

theorem append {acts acts' : List Act} {accepted accepted' taken taken' handed handed' lost lost' :
    List Event} {ofConsumer ofConsumer' : List Act}
    (h : Views acts accepted taken handed lost ofConsumer)
    (h' : Views acts' accepted' taken' handed' lost' ofConsumer') :
    Views (acts ++ acts') (accepted ++ accepted') (taken ++ taken') (handed ++ handed')
      (lost ++ lost') (ofConsumer ++ ofConsumer') where
  accepted := by rw [List.filterMap_append, h.accepted, h'.accepted]
  taken := by rw [List.filterMap_append, h.taken, h'.taken]
  handed := by rw [List.filterMap_append, h.handed, h'.handed]
  lost := by rw [List.filterMap_append, h.lost, h'.lost]
  ofConsumer := by rw [List.filter_append, h.ofConsumer, h'.ofConsumer]

/-- What is found among the acts of passages that came to their ends. -/
theorem ofEnded (done : List (Event × SaveResult)) :
    Views ((Passage.ofEnded done).flatMap Passage.acts) [] (done.map (·.1)) (done.map (·.1)) []
      ((Passage.ofEnded done).flatMap Passage.acts) := by
  induction done with
  | nil => exact ⟨rfl, rfl, rfl, rfl, rfl⟩
  | cons first done ih =>
    have hfirst : Views (Passage.finished first.1 first.2).acts [] [first.1] [first.1] []
        (Passage.finished first.1 first.2).acts := ⟨rfl, rfl, rfl, rfl, rfl⟩
    exact hfirst.append ih

/-- What is found at the beginning of a passage. -/
theorem opening (e? : Option Event) : Views (e?.toList.flatMap Act.opening) [] e?.toList [] []
    (e?.toList.flatMap Act.opening) := by
  cases e? <;> exact ⟨rfl, rfl, rfl, rfl, rfl⟩

/-- What is found when events are lost. -/
theorem lost_map (e? : Option Event) : Views (e?.toList.map .lost) [] [] [] e?.toList
    (e?.toList.map .lost) := by
  cases e? <;> exact ⟨rfl, rfl, rfl, rfl, rfl⟩

end Views

namespace Relay

variable {κ σ : Type} {r r' r'' : Relay κ σ} {acts acts' : List Act} {id : Nat}

/-- The events that were accepted, in order. -/
def accepted (r : Relay κ σ) : List Event :=
  r.history.filterMap Act.accepted?

/-- The events that were taken from the queue, in order. -/
def taken (r : Relay κ σ) : List Event :=
  r.history.filterMap Act.taken?

/-- The events that the router had, in order. -/
def handed (r : Relay κ σ) : List Event :=
  r.history.filterMap Act.handed?

/-- The events that were lost, in order. -/
def lost (r : Relay κ σ) : List Event :=
  r.history.filterMap Act.lost?

/-- The relay has done something more, and this is what has become of the queue and of the
deliveries. -/
structure Adds (r r' : Relay κ σ) (acts : List Act) : Prop where
  history : r'.history = r.history ++ acts
  capacity : r'.queue.capacity = r.queue.capacity
  /-- What is accepted comes last in the queue, and what is taken comes from its front. -/
  queue : r.queue.events ++ acts.filterMap Act.accepted? =
    acts.filterMap Act.taken? ++ r'.queue.events
  room : 0 < r.queue.capacity → (r.queue.events.length : Int) ≤ r.queue.capacity →
    (r'.queue.events.length : Int) ≤ r'.queue.capacity
  audience : r'.audience = r.audience
  scheduled : r'.scheduled = r.scheduled ++ (acts.filterMap Act.handed?).flatMap r.audience

namespace Adds

theorem trans (h : Adds r r' acts) (h' : Adds r' r'' acts') : Adds r r'' (acts ++ acts') where
  history := by rw [h'.history, h.history, List.append_assoc]
  capacity := h'.capacity.trans h.capacity
  -- what the later acts accept comes behind what the earlier have left in the queue
  queue := by
    rw [List.filterMap_append, List.filterMap_append, ← List.append_assoc, h.queue,
      List.append_assoc, h'.queue, List.append_assoc]
  room := by
    intro hpositive hroom
    refine h'.room ?_ (h.room hpositive hroom)
    rwa [h.capacity]
  audience := h'.audience.trans h.audience
  scheduled := by
    rw [h'.scheduled, h.scheduled, h.audience, List.filterMap_append, List.flatMap_append,
      List.append_assoc]

/-- Acts among which nothing of interest is found leave the queue and the deliveries alone. -/
theorem of_same {ofConsumer : List Act} {lost : List Event}
    (hacts : Views acts [] [] [] lost ofConsumer)
    (hhistory : r'.history = r.history ++ acts) (hqueue : r'.queue = r.queue)
    (hscheduled : r'.scheduled = r.scheduled) (haudience : r'.audience = r.audience) :
    Adds r r' acts where
  history := hhistory
  capacity := by rw [hqueue]
  queue := by
    rw [hacts.accepted, hacts.taken, hqueue, List.append_nil]
    rfl
  room := by
    intro _ hroom
    rwa [hqueue]
  audience := haudience
  scheduled := by
    rw [hacts.handed, hscheduled]
    exact (List.append_nil _).symm

/-- Nothing is done. -/
theorem of_nothing (hhistory : r'.history = r.history) (hqueue : r'.queue = r.queue)
    (hdispatch : r'.dispatch = r.dispatch) : Adds r r' [] := by
  have hscheduled : r'.scheduled = r.scheduled := by
    unfold Relay.scheduled
    rw [hdispatch]
  have haudience : r'.audience = r.audience := by
    unfold Relay.audience
    rw [hdispatch]
  refine of_same ⟨rfl, rfl, rfl, rfl, rfl⟩ ?_ hqueue hscheduled haudience
  rw [hhistory, List.append_nil]

theorem lost (h : Adds r r' acts) : r'.lost = r.lost ++ acts.filterMap Act.lost? := by
  rw [Relay.lost, h.history, List.filterMap_append]
  rfl

theorem taken (h : Adds r r' acts) : r'.taken = r.taken ++ acts.filterMap Act.taken? := by
  rw [Relay.taken, h.history, List.filterMap_append]
  rfl

end Adds

/-! ### What is added -/

theorem Aside.adds (h : Aside r r') :
    ∃ acts, Adds r r' acts ∧ ∀ act ∈ acts, act.isQuiet = true := by
  obtain ⟨acts, hhistory, hacts⟩ := h.history
  have hquiet : ∀ act ∈ acts, act.isQuiet = true :=
    fun act hact => Act.isQuiet_of_isOfChannel (hacts act hact)
  exact ⟨acts, .of_same (.of_isQuiet hquiet) hhistory h.queue h.scheduled h.audience, hquiet⟩

theorem Concluded.adds {e : Event} {result : SaveResult} (h : Concluded r r' e result) :
    Adds r r' [.concluded e result, .handed e] where
  history := h.history
  capacity := by rw [h.queue]
  queue := by
    rw [h.queue]
    exact List.append_nil _
  room := by
    intro _ hroom
    rwa [h.queue]
  audience := h.audience
  scheduled := by
    rw [h.scheduled]
    exact congrArg _ (List.append_nil _).symm

theorem Stretch.adds {done : List (Event × SaveResult)} {phase : ConsumerPhase}
    (h : Stretch id r r' done phase) :
    Adds r r' ((Passage.ofEnded done).flatMap Passage.acts ++
      phase.event?.toList.flatMap Act.opening) := by
  have hviews := (Views.ofEnded done).append (Views.opening phase.event?)
  refine ⟨?_, h.capacity, ?_, ?_, h.audience, ?_⟩
  · rw [h.history, List.append_assoc, Passage.flatMap_acts_ofEnded]
    rfl
  · rw [hviews.accepted, hviews.taken, h.queue]
    exact List.append_nil _
  · -- a stretch only takes, so that the queue does not grow
    intro _ hroom
    have hlength := congrArg List.length h.queue
    simp only [List.length_append] at hlength
    rw [h.capacity]
    omega
  · rw [hviews.handed, h.scheduled, List.append_nil, List.flatMap_map]

theorem Stretch.taken {done : List (Event × SaveResult)} {phase : ConsumerPhase}
    (h : Stretch id r r' done phase) :
    r'.taken = r.taken ++ (done.map (·.1) ++ phase.event?.toList) := by
  have hviews := (Views.ofEnded done).append (Views.opening phase.event?)
  rw [h.adds.taken, hviews.taken]

theorem adds_wakeNext (r : Relay κ σ) : Adds r r.wakeNext [] := by
  unfold wakeNext
  split <;> exact .of_nothing rfl rfl rfl

/-- An event comes last in the queue. -/
def enqueue (r : Relay κ σ) (e : Event) : Relay κ σ :=
  { r with
    queue := { r.queue with events := r.queue.events ++ [e] }
    depth := (r.queue.events ++ [e]).length }.record [.accepted e]

/-- An event is put into the queue, after which a consumer is woken, or there is no room. -/
theorem offer_cases (r : Relay κ σ) (e : Event) :
    r.queue.isFull = false ∧ (r.offer e).value = (true, (r.enqueue e).wakeNext) ∨
    r.queue.isFull = true ∧ (r.offer e).value = (false, r.record [.refused e]) := by
  unfold offer EventQueue.push?
  cases r.queue.isFull with
  | true => exact .inr ⟨rfl, rfl⟩
  | false => exact .inl ⟨rfl, rfl⟩

theorem adds_enqueue {e : Event} (hfull : r.queue.isFull = false) :
    Adds r (r.enqueue e) [.accepted e] := by
  refine ⟨rfl, rfl, rfl, ?_, rfl, (List.append_nil _).symm⟩
  -- there was room for one more
  intro hpositive _
  simp only [EventQueue.isFull, hpositive, decide_true, Bool.true_and, decide_eq_false_iff_not,
    Int.not_le] at hfull
  simp only [enqueue, record, List.length_append, List.length_singleton]
  omega

theorem adds_refused (r : Relay κ σ) (e : Event) : Adds r (r.record [.refused e]) [.refused e] :=
  .of_same (.of_isQuiet (by simp [Act.isQuiet])) rfl rfl rfl rfl

/-- A consumer ends, and what is in its hands is lost. -/
theorem adds_endConsumer (r : Relay κ σ) (id : Nat) (phase : ConsumerPhase) :
    Adds r (r.endConsumer id phase) (phase.event?.toList.map .lost) := by
  have hlost : Adds r (r.record (phase.event?.toList.map .lost)) (phase.event?.toList.map .lost) :=
    .of_same (.lost_map phase.event?) rfl rfl rfl rfl
  obtain ⟨r₁, hr₁, heq⟩ := r.exists_endConsumer id phase
  have hend : Adds r₁ (r.endConsumer id phase) [] := by
    rw [heq]
    exact .of_nothing rfl rfl rfl
  obtain rfl | rfl := hr₁
  · exact List.append_nil (phase.event?.toList.map Act.lost) ▸ hlost.trans hend
  · have hwake := adds_wakeNext (r.record (phase.event?.toList.map .lost))
    exact List.append_nil (phase.event?.toList.map Act.lost) ▸ hlost.trans (hwake.trans hend)

end Relay

end AdmissionLedger
