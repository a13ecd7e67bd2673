import AdmissionLedger.Proofs.Relay.Order

/-!
# A consumer that nobody stops

While nobody stops the consumer and a ledger keeps the events, a consumer that runs saves
all events that wait before it waits itself.  So there is an event in the queue only if
the consumer was never started or stands in line to run, and the ledger has been given
exactly the events that were taken.

## Main definitions

* `Relay.Turn.isCalm` — a turn that neither stops the consumer nor closes the store.
* `Relay.Stance` — where the consumer stands.
* `Relay.Flowing` — the invariant.

## Main results

* `Relay.Flowing.turn` — calm turns keep the invariant.
* `Relay.Flowing.exists_drained` — one start and one job are enough to empty the queue.
-/

namespace AdmissionLedger.Relay

variable {κ σ : Type} {r r' : Relay κ σ} {id : Nat} {phase : ConsumerPhase} {l : Ledger}
  {place : Nat}

/-- Whether a turn neither stops the consumer nor closes the store. -/
def Turn.isCalm : Turn → Bool
  | stop _ | closeStore => false
  | _ => true

/-- Where the consumer stands: there was none yet, or it waits and so does no event, or it stands in
line to run. -/
inductive Stance (r : Relay κ σ) : Prop
  | unstarted (halive : r.worker.alive = []) (hline : r.line = [])
  | waiting (id : Nat) (hheld : r.worker.held = some id)
      (halive : r.worker.alive = [(id, ⟨.waiting, false⟩)]) (hline : r.line = [id])
      (hqueue : r.queue.events = [])
  | running (id : Nat) (phase : ConsumerPhase) (hphase : phase = .starting ∨ phase = .woken)
      (hheld : r.worker.held = some id) (halive : r.worker.alive = [(id, ⟨phase, false⟩)])
      (hline : r.line = []) (hjob : .consume id ∈ r.ready)

/-- What holds while nobody stops the consumer. -/
structure Flowing (l : Ledger) (r : Relay κ σ) : Prop where
  stops : r.worker.stops = []
  stance : r.Stance
  /-- The ledger has been given the events that were taken. -/
  storage : r.storage = (Storage.ledger l).saveAll r.taken

/-! ### Where the consumer stands -/

/-- A consumer that stays as it is stands where it stood, as long as its job does not get lost. -/
theorem Stance.of_same (h : r.Stance) (hworker : r'.worker = r.worker) (hline : r'.line = r.line)
    (hqueue : r'.queue = r.queue)
    (hready : ∀ id, Job.consume id ∈ r.ready → Job.consume id ∈ r'.ready) : r'.Stance := by
  cases h with
  | unstarted halive hnone =>
    exact .unstarted (by rw [hworker, halive]) (by rw [hline, hnone])
  | waiting id hheld halive hsole hempty =>
    exact .waiting id (by rw [hworker, hheld]) (by rw [hworker, halive]) (by rw [hline, hsole])
      (by rw [hqueue, hempty])
  | running id phase hphase hheld halive hnone hjob =>
    exact .running id phase hphase (by rw [hworker, hheld]) (by rw [hworker, halive])
      (by rw [hline, hnone]) (hready id hjob)

theorem Stance.tidy (h : r.Stance) (hstops : r.worker.stops = []) : r.worker.Tidy where
  alive := by
    cases h with
    | unstarted halive => exact .inl halive
    | waiting id hheld halive => exact .inr ⟨id, _, halive, hheld⟩
    | running id phase _ hheld halive => exact .inr ⟨id, _, halive, hheld⟩
  awaited := by simp [hstops]

theorem Stance.lined (h : r.Stance) : r.Lined := by
  cases h with
  | unstarted _ hline => exact .inl hline
  | waiting id _ halive hline => exact .inr ⟨id, hline, halive⟩
  | running id phase _ _ _ hline => exact .inl hline

/-- No consumer has an event in its hands. -/
theorem Stance.get?_ne_saving (h : r.Stance) (id : Nat) (e : Event) (asked : Bool) :
    r.worker.get? id ≠ some ⟨.saving e, asked⟩ := by
  intro hget
  cases h with
  | unstarted halive =>
    have hmem := Worker.mem_alive_of_get? hget
    rw [halive] at hmem
    cases hmem
  | waiting id' _ halive => cases (Worker.eq_of_get? halive hget).2
  | running id' phase hphase _ halive =>
    cases (Worker.eq_of_get? halive hget).2
    obtain hphase | hphase := hphase <;> cases hphase

/-! ### A consumer that runs -/

/-- A ledger keeps no consumer waiting, so that a stretch goes on until no event is left. -/
theorem Stretch.of_ledger {done : List (Event × SaveResult)} (h : Stretch id r r' done phase)
    (hledger : r.storage = .ledger l) :
    phase = .waiting ∧ r'.queue.events = [] ∧ r'.line = r.line ++ [id] := by
  obtain hwaits | ⟨e, -, -, hpending⟩ := h.stands
  · exact hwaits
  · obtain ⟨l', hl'⟩ := Storage.exists_saveAll_ledger l (done.map (·.1))
    rw [hledger, hl'] at hpending
    exact absurd hpending (Storage.save_ledger_ne_none l' e)

/-- A consumer that stands in line to run takes all events. -/
theorem exists_stretch (hphase : phase = .starting ∨ phase = .woken)
    (hget : r.worker.get? id = some ⟨phase, false⟩) (hledger : r.storage = .ledger l) :
    ∃ done, Stretch id r (r.consume id).value done .waiting := by
  have hconsumed := r.consumed_consume id
  generalize (r.consume id).value = r' at hconsumed ⊢
  cases hconsumed with
  | idle hidle =>
    obtain hwaits | ⟨e, hsaving⟩ := hidle _ hget
    · cases hwaits
      obtain hphase | hphase := hphase <;> cases hphase
    · cases hsaving
      obtain hphase | hphase := hphase <;> cases hphase
  | ended task htask hasked =>
    cases hget.symm.trans htask
    cases hasked
  | took task htask hasked _ done phase' _ h =>
    obtain ⟨rfl, -, -⟩ := h.of_ledger hledger
    exact ⟨done, h⟩
  | replied e reply htask =>
    cases hget.symm.trans htask
    obtain hphase | hphase := hphase <;> cases hphase

/-- A job of a consumer that waits, or of none, does nothing. -/
theorem consume_of_idle (hidle : ∀ task, r.worker.get? id = some task → task = ⟨.waiting, false⟩) :
    (r.consume id).value = r := by
  unfold consume
  cases hget : r.worker.get? id with
  | none => rfl
  | some task =>
    rw [hidle task hget]
    rfl

/-! ### The invariant -/

namespace Flowing

/-- The store is still a ledger. -/
theorem exists_ledger (h : r.Flowing l) : ∃ l', r.storage = .ledger l' := by
  rw [h.storage]
  exact Storage.exists_saveAll_ledger l r.taken

theorem tidy (h : r.Flowing l) : r.worker.Tidy :=
  h.stance.tidy h.stops

/-- Nothing becomes of the events, and the consumer stands somewhere. -/
theorem of_same (h : r.Flowing l) (hstops : r'.worker.stops = r.worker.stops) (hstance : r'.Stance)
    (hstorage : r'.storage = r.storage) (htaken : r'.taken = r.taken) : r'.Flowing l where
  stops := hstops.trans h.stops
  stance := hstance
  storage := by rw [hstorage, htaken, h.storage]

theorem aside (h : r.Flowing l) (haside : Aside r r') : r'.Flowing l := by
  obtain ⟨acts, hadds, hquiet⟩ := haside.adds
  refine h.of_same (by rw [haside.worker]) ?_ haside.storage ?_
  · exact h.stance.of_same haside.worker haside.line haside.queue
      fun id hjob => haside.ready.subset hjob
  · rw [hadds.taken, (Views.of_isQuiet hquiet).taken, List.append_nil]

/-- An event that is accepted wakes the consumer if it waits. -/
theorem offer (h : r.Flowing l) (e : Event) : (r.offer e).value.2.Flowing l := by
  obtain ⟨hfull, heq⟩ | ⟨-, heq⟩ := r.offer_cases e
  · have htaken := ((adds_enqueue (e := e) hfull).trans (adds_wakeNext _)).taken
    rw [heq]
    obtain ⟨hnone, hwake⟩ | ⟨id, rest, hfirst, hwake⟩ := (r.enqueue e).wakeNext_eq
    · -- nobody waits, and the event is left to a job that stands in line or will
      rw [hwake] at htaken ⊢
      refine h.of_same rfl ?_ rfl (htaken.trans (List.append_nil _))
      cases h.stance with
      | unstarted halive hline => exact .unstarted halive hline
      | waiting id hheld halive hline => cases hline.symm.trans hnone
      | running id phase hphase hheld halive hline hjob =>
        exact .running id phase hphase hheld halive hline hjob
    · -- the consumer is woken and does not wait in line any more
      rw [hwake] at htaken ⊢
      refine h.of_same rfl ?_ rfl (htaken.trans (List.append_nil _))
      cases h.stance with
      | unstarted halive hline => cases hline.symm.trans hfirst
      | waiting id' hheld halive hline =>
        cases hline.symm.trans hfirst
        refine .running id .woken (.inr rfl) hheld (alive_setPhase halive .woken) rfl ?_
        exact List.mem_append_right _ List.mem_cons_self
      | running id' phase hphase hheld halive hline => cases hline.symm.trans hfirst
  · rw [heq]
    refine h.of_same rfl (h.stance.of_same rfl rfl rfl fun id hjob => hjob) rfl ?_
    exact (r.adds_refused e).taken.trans (List.append_nil _)

theorem start (h : r.Flowing l) : r.start.Flowing l := by
  obtain heq | ⟨hcurrent, heq⟩ := r.start_eq
  · rwa [heq]
  · have hworker := Worker.start_of_current?_eq_none hcurrent .starting
    rw [heq, hworker]
    refine h.of_same rfl ?_ rfl rfl
    refine .running r.worker.created .starting (.inl rfl) rfl ?_ ?_
      (List.mem_append_right _ List.mem_cons_self)
    · show r.worker.alive ++ _ = _
      rw [h.tidy.alive_eq_nil hcurrent]
      rfl
    · cases h.stance with
      | unstarted _ hline => exact hline
      | waiting id hheld halive =>
        have hnone := h.tidy.alive_eq_nil hcurrent
        cases hnone.symm.trans halive
      | running id phase _ _ _ hline => exact hline

/-- A consumer whose job is taken out of line saves all events and then waits. -/
theorem stretch (h : r.Flowing l) (hphase : phase = .starting ∨ phase = .woken)
    (hheld : r.worker.held = some id) (halive : r.worker.alive = [(id, ⟨phase, false⟩)])
    (hline : r.line = []) (ready : List Job) :
    let r' := ({ r with ready }.consume id).value
    r'.Flowing l ∧ r'.queue.events = [] := by
  intro r'
  obtain ⟨l', hl'⟩ := h.exists_ledger
  obtain ⟨done, hstretch⟩ :=
    exists_stretch (r := { r with ready }) hphase (Worker.get?_of_alive halive) hl'
  obtain ⟨-, hempty, hlast⟩ := hstretch.of_ledger hl'
  refine ⟨⟨?_, ?_, ?_⟩, hempty⟩
  · rw [hstretch.worker]
    exact h.stops
  · refine .waiting id ?_ ?_ ?_ hempty
    · rw [hstretch.worker]
      exact hheld
    · rw [hstretch.worker]
      exact alive_setPhase halive .waiting
    · rw [hlast, hline]
      rfl
  · have hall := Storage.saveAll_append (.ledger l) r.taken
    rw [hstretch.storage, hstretch.taken]
    exact (congrArg (Storage.saveAll · _) h.storage).trans (hall _).symm

theorem consume (h : r.Flowing l) (hjob : r.ready[place]? = some (.consume id)) :
    ({ r with ready := r.ready.eraseIdx place }.consume id).value.Flowing l := by
  generalize hr₁ : ({ r with ready := r.ready.eraseIdx place } : Relay κ σ) = r₁
  have hworker : r₁.worker = r.worker := by rw [← hr₁]
  cases h.stance with
  | unstarted halive hline =>
    rw [consume_of_idle fun task hget => ?_, ← hr₁]
    · exact h.of_same rfl (.unstarted halive hline) rfl rfl
    · have hmem := Worker.mem_alive_of_get? hget
      rw [hworker, halive] at hmem
      cases hmem
  | waiting id' hheld halive hline hqueue =>
    rw [consume_of_idle fun task hget => (Worker.eq_of_get? (hworker ▸ halive) hget).2, ← hr₁]
    exact h.of_same rfl (.waiting id' hheld halive hline hqueue) rfl rfl
  | running id' phase hphase hheld halive hline hmem =>
    by_cases hid : id = id'
    · subst hid
      rw [← hr₁]
      exact (h.stretch hphase hheld halive hline _).1
    · -- the job is not that of the consumer, which stays in line
      have hkept := mem_eraseIdx_of_ne hjob hmem fun heq => hid (Job.consume.inj heq).symm
      rw [consume_of_idle fun task hget =>
        absurd (Worker.eq_of_get? (hworker ▸ halive) hget).1 hid, ← hr₁]
      exact h.of_same rfl (.running id' phase hphase hheld halive hline hkept) rfl rfl

/-- No caller waits for the end of a stop. -/
theorem resume (h : r.Flowing l) (caller : Nat) : (r.resume caller).value = r := by
  have hover : r.worker.mayEndStop caller = false := by
    rw [Worker.mayEndStop, h.stops]
    rfl
  rw [Relay.resume, hover]
  rfl

theorem runJob (h : r.Flowing l) (place : Nat) : (r.runJob place).Flowing l := by
  unfold Relay.runJob
  cases hjob : r.ready[place]? with
  | none => exact h
  | some job =>
    dsimp only
    have hrest : (∀ id, job ≠ .consume id) →
        ({ r with ready := r.ready.eraseIdx place } : Relay κ σ).Flowing l := by
      intro hne
      refine h.of_same rfl (h.stance.of_same rfl rfl rfl fun id hmem => ?_) rfl rfl
      exact mem_eraseIdx_of_ne hjob hmem (hne id).symm
    cases job with
    | consume id => exact h.consume hjob
    | deliver id => exact (hrest (by simp)).aside (aside_deliver _ id)
    | retire id => exact (hrest (by simp)).aside (aside_retire _ id)
    | report caller => exact (hrest (by simp)).aside (aside_report _ caller)
    | resumeRouter caller => exact (hrest (by simp)).aside (aside_resumeRouter _ caller)
    | resume caller =>
      rw [perform, (hrest (by simp)).resume]
      exact hrest (by simp)

/-- Calm turns keep the invariant. -/
theorem turn (h : r.Flowing l) {t : Turn} (hcalm : t.isCalm = true) : (r.turn t).Flowing l := by
  cases t with
  | offer e => exact h.offer e
  | start => exact h.start
  | stop caller => cases hcalm
  | stopRouter caller =>
    rw [Relay.turn]
    split
    · exact h
    · exact h.aside (aside_beginRouterStop r caller)
  | answer reply id =>
    obtain heq | ⟨e, hget, -⟩ := r.answer_eq reply id
    · rwa [Relay.turn, heq]
    · exact absurd hget (h.stance.get?_ne_saving id e false)
  | job place => exact h.runJob place
  | closeStore => cases hcalm

/-- Calm turns keep all else that is right. -/
theorem kept_turn (h : r.Flowing l) (hkept : r.Kept) (t : Turn) : (r.turn t).Kept :=
  hkept.goes (goes_turn h.tidy h.stance.lined t)

theorem accepted_turn (h : r.Flowing l) (t : Turn) :
    (r.turn t).accepted = r.accepted ++ r.admitted t :=
  (goes_turn h.tidy h.stance.lined t).accepted

/-- A consumer that has been started takes all events with its next job. -/
theorem exists_drained (h : r.Flowing l) :
    ∃ place, ((r.turn .start).turn (.job place)).queue.events = [] := by
  have hstarted : r.start.Flowing l := h.start
  cases hstarted.stance with
  | unstarted halive =>
    rw [r.worker_start] at halive
    exact absurd halive (r.worker.alive_start_ne_nil .starting)
  | waiting id _ _ _ hqueue =>
    -- there is nothing to do, and no job need run
    refine ⟨r.start.ready.length, ?_⟩
    rw [Relay.turn, Relay.turn, Relay.runJob, List.getElem?_eq_none (Nat.le_refl _)]
    exact hqueue
  | running id phase hphase hheld halive hline hmem =>
    obtain ⟨place, hjob⟩ := List.mem_iff_getElem?.mp hmem
    refine ⟨place, ?_⟩
    simp only [Relay.turn, Relay.runJob, hjob, perform]
    exact (hstarted.stretch hphase hheld halive hline _).2

end Flowing

/-- A relay to which nothing has happened. -/
theorem Fresh.flowing (h : r.Fresh) (hstorage : r.storage = .ledger l) : r.Flowing l where
  stops := by rw [h.worker]
  stance := .unstarted (by rw [h.worker]) h.line
  storage := by
    rw [hstorage, taken, h.history]
    rfl

end AdmissionLedger.Relay
