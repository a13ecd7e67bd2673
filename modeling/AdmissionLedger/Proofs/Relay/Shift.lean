import AdmissionLedger.Proofs.Relay.Run

/-!
# What a turn does

While there is at most one consumer, a turn leaves it alone, makes it, makes it go on, or
ends it, and each of these goes with certain acts.  Everything else about turns follows.

## Main definitions

* `Relay.Lined` — whoever waits for an event is the only consumer.
* `Relay.Shift` — what becomes of the only consumer, and with which acts.
* `Relay.Goes` — acts with what becomes of the queue, the deliveries and the consumer.
* `Relay.admitted` — the events that are accepted with a turn.

## Main results

* `Relay.goes_turn` — every turn goes one of the ways.
-/

namespace AdmissionLedger.Relay

variable {κ σ : Type} {r r' : Relay κ σ} {acts : List Act} {id : Nat} {task : Task ConsumerPhase}

/-- Whether a turn stops the consumer. -/
def Turn.isStop : Turn → Bool
  | stop _ => true
  | _ => false

/-- Whoever waits for an event is the only consumer. -/
def Lined (r : Relay κ σ) : Prop :=
  r.line = [] ∨ ∃ id, r.line = [id] ∧ r.worker.alive = [(id, ⟨.waiting, false⟩)]

/-- What becomes of the only consumer, and with which acts; a stop may ask it to end. -/
inductive Shift (r r' : Relay κ σ) (acts : List Act) (stopping : Bool) : Prop
  /-- Nothing becomes of it. -/
  | rest (halive : r'.worker.alive = r.worker.alive) (hline : r'.line = r.line)
      (hlost : acts.filterMap Act.lost? = []) (hacts : acts.filter Act.isOfConsumer = [])
  /-- It is made. -/
  | made (id : Nat) (hnone : r.worker.alive = [])
      (halive : r'.worker.alive = [(id, ⟨.starting, false⟩)]) (hline : r'.line = [])
      (hlost : acts.filterMap Act.lost? = []) (hacts : acts.filter Act.isOfConsumer = [])
  /-- It goes on: events come to the ends of their passages, and it may then have one in its
  hands. -/
  | on (id : Nat) (task task' : Task ConsumerPhase) (passages : List Passage)
      (hbefore : r.worker.alive = [(id, task)]) (halive : r'.worker.alive = [(id, task')])
      (hline : r'.line = [] ∨ r'.line = [id] ∧ task' = ⟨.waiting, false⟩)
      (hasked : task'.asked = task.asked ∨ stopping = true)
      (hlost : acts.filterMap Act.lost? = [])
      (hacts : task.phase.event?.toList.flatMap Act.opening ++ acts.filter Act.isOfConsumer =
        passages.flatMap Passage.acts ++ task'.phase.event?.toList.flatMap Act.opening)
  /-- It was asked to end, and does. -/
  | ended (id : Nat) (task : Task ConsumerPhase) (hbefore : r.worker.alive = [(id, task)])
      (hasked : task.asked = true) (halive : r'.worker.alive = []) (hline : r'.line = [])
      (hlost : acts.filterMap Act.lost? = task.phase.event?.toList)
      (hacts : acts.filter Act.isOfConsumer = task.phase.event?.toList.map .lost)

/-- Acts with what becomes of the queue, the deliveries and the consumer, with the events that are
accepted. -/
def Goes (r r' : Relay κ σ) (admitted : List Event) (stopping : Bool) : Prop :=
  ∃ acts, Adds r r' acts ∧ acts.filterMap Act.accepted? = admitted ∧ Shift r r' acts stopping

/-- The events that are accepted with a turn. -/
def admitted (r : Relay κ σ) : Turn → List Event
  | .offer e => if (r.offer e).value.1 then [e] else []
  | _ => []

/-! ### The only consumer -/

theorem Lined.line_eq_nil (h : r.Lined) (halive : r.worker.alive = [(id, task)])
    (hbusy : task ≠ ⟨.waiting, false⟩) : r.line = [] := by
  obtain hnone | ⟨id', -, hwaits⟩ := h
  · exact hnone
  · rw [halive] at hwaits
    cases hwaits
    exact absurd rfl hbusy

theorem alive_setPhase {w : Worker ConsumerPhase} (halive : w.alive = [(id, task)])
    (phase : ConsumerPhase) : (w.setPhase id phase).alive = [(id, { task with phase })] := by
  simp [Worker.setPhase, Worker.change, halive]

/-! ### What happens to it -/

theorem goes_of_nothing (hworker : r'.worker.alive = r.worker.alive) (hline : r'.line = r.line)
    (hhistory : r'.history = r.history) (hqueue : r'.queue = r.queue)
    (hdispatch : r'.dispatch = r.dispatch) (stopping : Bool) : Goes r r' [] stopping :=
  ⟨[], .of_nothing hhistory hqueue hdispatch, rfl, .rest hworker hline rfl rfl⟩

theorem Aside.goes (h : Aside r r') (stopping : Bool) : Goes r r' [] stopping := by
  obtain ⟨acts, hadds, hquiet⟩ := h.adds
  have hviews := Views.of_isQuiet hquiet
  exact ⟨acts, hadds, hviews.accepted,
    .rest (by rw [h.worker]) h.line hviews.lost hviews.ofConsumer⟩

/-- A consumer that waits is woken when there is an event. -/
theorem goes_offer (h : r.Lined) (e : Event) :
    Goes r (r.offer e).value.2 (r.admitted (.offer e)) false := by
  obtain ⟨hfull, heq⟩ | ⟨-, heq⟩ := r.offer_cases e
  · rw [admitted, heq]
    refine ⟨[.accepted e], (adds_enqueue hfull).trans (adds_wakeNext _), rfl, ?_⟩
    dsimp only
    obtain ⟨hnone, hwake⟩ | ⟨id, rest, hfirst, hwake⟩ := (r.enqueue e).wakeNext_eq
    · rw [hwake]
      exact .rest rfl rfl rfl rfl
    · -- whoever is first in line is the only consumer
      obtain hnone | ⟨id', hsole, halive⟩ := h
      · cases hnone.symm.trans hfirst
      · cases hsole.symm.trans hfirst
        refine .on id ⟨.waiting, false⟩ ⟨.woken, false⟩ [] halive ?_ (.inl ?_) (.inl rfl) rfl rfl
        · rw [hwake]
          exact alive_setPhase halive .woken
        · rw [hwake]
          rfl
  · rw [admitted, heq]
    exact ⟨[.refused e], r.adds_refused e, rfl, .rest rfl rfl rfl rfl⟩

/-- A start makes a consumer, or there is one. -/
theorem start_eq (r : Relay κ σ) : r.start = r ∨ r.worker.current? = none ∧
    r.start = { r with worker := (r.worker.start .starting).2 }.push
      [.consume r.worker.created] := by
  unfold start
  cases hcurrent : r.worker.current? with
  | some id =>
    rw [Worker.start_of_current?_eq_some hcurrent]
    exact .inl rfl
  | none =>
    refine .inr ⟨rfl, ?_⟩
    simp only [Worker.start, hcurrent]

theorem goes_start (htidy : r.worker.Tidy) (h : r.Lined) : Goes r r.start [] false := by
  obtain heq | ⟨hcurrent, heq⟩ := r.start_eq
  · rw [heq]
    exact goes_of_nothing rfl rfl rfl rfl rfl false
  · have hnone := htidy.alive_eq_nil hcurrent
    have hline : r.line = [] := by
      obtain hline | ⟨id, -, hwaits⟩ := h
      · exact hline
      · rw [hnone] at hwaits
        cases hwaits
    rw [heq]
    refine ⟨[], .of_nothing rfl rfl rfl, rfl, .made r.worker.created hnone ?_ hline rfl rfl⟩
    show (r.worker.start .starting).2.alive = _
    rw [Worker.start_of_current?_eq_none hcurrent, hnone]
    rfl

/-- A consumer that is roused does not wait in line. -/
theorem line_rouse (h : r.Lined) (halive : r.worker.alive = [(id, task)]) :
    (r.rouse id).line = [] := by
  unfold rouse
  rw [Worker.get?_of_alive halive]
  obtain hnone | ⟨id', hsole, hwaits⟩ := h
  · split <;> simp [push, hnone]
  · rw [halive] at hwaits
    cases hwaits
    simp [push, hsole]

theorem adds_rouse (r : Relay κ σ) (id : Nat) : Adds r (r.rouse id) [] := by
  unfold rouse
  split <;> exact .of_nothing rfl rfl rfl

/-- The beginning of a stop does nothing with events. -/
theorem adds_beginStop (r : Relay κ σ) (caller : Nat) :
    Adds r (r.beginStop caller).value [] := by
  unfold beginStop
  split
  · exact .of_nothing rfl rfl rfl
  · exact .of_nothing rfl rfl rfl
  · next id _ _ => exact (r.adds_rouse id).trans (.of_nothing rfl rfl rfl)

theorem line_beginStop (r : Relay κ σ) (caller : Nat) : (r.beginStop caller).value.line =
    match r.worker.current? with
    | some id => (r.rouse id).line
    | none => r.line := by
  unfold beginStop
  cases hheld : r.worker.held with
  | none =>
    have hcurrent : r.worker.current? = none := by simp [Worker.current?, hheld]
    rw [hcurrent]
    rfl
  | some held => cases r.worker.current? <;> rfl

/-- A stop asks the consumer to end, if there is one. -/
theorem goes_beginStop (htidy : r.worker.Tidy) (h : r.Lined) (caller : Nat) :
    Goes r (r.beginStop caller).value [] true := by
  have hworker := r.worker_beginStop caller
  have hline := r.line_beginStop caller
  refine ⟨[], r.adds_beginStop caller, rfl, ?_⟩
  cases hcurrent : r.worker.current? with
  | none =>
    rw [hcurrent] at hline
    refine .rest ?_ hline rfl rfl
    rw [hworker, Worker.beginStop, hcurrent]
  | some id =>
    rw [hcurrent] at hline
    obtain ⟨hknown, hlives⟩ := Worker.current?_eq_some_iff.mp hcurrent
    obtain hnone | ⟨id', task, halive, hheld⟩ := htidy.alive
    · rw [hnone] at hlives
      cases hlives
    · cases hheld.symm.trans hknown
      refine .on id task { task with asked := true } [] halive ?_
        (.inl (hline.trans (line_rouse h halive))) (.inr rfl) rfl (List.append_nil _)
      rw [hworker, Worker.beginStop, hcurrent]
      simp [Worker.ask, Worker.change, halive]

/-- A store replies about the event in the hands of the consumer. -/
theorem goes_answer (htidy : r.worker.Tidy) (h : r.Lined) (reply : SaveReply) (id : Nat) :
    Goes r (r.answer reply id) [] false := by
  obtain heq | ⟨e, hget, heq⟩ := r.answer_eq reply id
  · rw [heq]
    exact goes_of_nothing rfl rfl rfl rfl rfl false
  · have halive := (htidy.alive_eq hget).1
    rw [heq]
    refine ⟨[], .of_nothing rfl rfl rfl, rfl,
      .on id ⟨.saving e, false⟩ ⟨.answered e reply, false⟩ [] halive (alive_setPhase halive _)
        (.inl ?_) (.inl rfl) rfl rfl⟩
    exact h.line_eq_nil halive (fun hwaits => by cases hwaits)

/-- After a stretch the consumer waits in line, or has an event in its hands. -/
theorem Stretch.line {done : List (Event × SaveResult)} {phase : ConsumerPhase}
    (h : Stretch id r r' done phase) (hline : r.line = []) (hasked : task.asked = false) :
    r'.line = [] ∨ r'.line = [id] ∧ { task with phase } = ⟨ConsumerPhase.waiting, false⟩ := by
  obtain ⟨hphase, -, hlast⟩ | ⟨e, -, hsame, -⟩ := h.stands
  · right
    rw [hlast, hline, hphase, hasked]
    exact ⟨rfl, rfl⟩
  · left
    rw [hsame, hline]

/-- The only consumer ends. -/
theorem endConsumer_of_line_eq_nil (hline : r.line = []) (id : Nat) (phase : ConsumerPhase) :
    (r.endConsumer id phase).worker = r.worker.finish id ∧ (r.endConsumer id phase).line = [] := by
  obtain ⟨r₁, hr₁, heq⟩ := r.exists_endConsumer id phase
  rw [heq]
  obtain rfl | rfl := hr₁
  · exact ⟨rfl, hline⟩
  · -- there is none who could be woken
    obtain ⟨-, hwake⟩ | ⟨id', rest, hfirst, -⟩ :=
      (r.record (phase.event?.toList.map .lost)).wakeNext_eq
    · rw [hwake]
      exact ⟨rfl, hline⟩
    · cases hline.symm.trans hfirst

/-- A job of the consumer makes it end if it was asked to, and else go on. -/
theorem goes_consume (htidy : r.worker.Tidy) (h : r.Lined) (id : Nat) :
    Goes r (r.consume id).value [] false := by
  have hconsumed := r.consumed_consume id
  generalize (r.consume id).value = r' at hconsumed ⊢
  cases hconsumed with
  | idle => exact goes_of_nothing rfl rfl rfl rfl rfl false
  | ended task hget hasked =>
    have halive := (htidy.alive_eq hget).1
    -- it does not stand in line, where nobody is who was asked to end
    have hline := h.line_eq_nil halive fun hwaits => by
      rw [hwaits] at hasked
      cases hasked
    have hviews := Views.lost_map task.phase.event?
    obtain ⟨hworker, hline'⟩ := endConsumer_of_line_eq_nil hline id task.phase
    refine ⟨_, r.adds_endConsumer id task.phase, hviews.accepted,
      .ended id task halive hasked ?_ hline' hviews.lost hviews.ofConsumer⟩
    rw [hworker]
    simp [Worker.finish, halive]
  | took task hget hasked hphase done phase _ hr' =>
    have halive := (htidy.alive_eq hget).1
    have hline := h.line_eq_nil halive fun hwaits => by
      rw [hwaits] at hphase
      obtain hphase | hphase := hphase <;> cases hphase
    -- nothing was in its hands, so that the passages begin with the stretch
    have hempty : task.phase.event? = none := by
      obtain hphase | hphase := hphase <;> rw [hphase] <;> rfl
    have hviews := (Views.ofEnded done).append (Views.opening phase.event?)
    refine ⟨_, hr'.adds, hviews.accepted, .on id task { task with phase }
      (Passage.ofEnded done) halive ?_ (hr'.line hline hasked) (.inl rfl) hviews.lost ?_⟩
    · rw [hr'.worker]
      exact alive_setPhase halive phase
    · rw [hempty]
      exact hviews.ofConsumer
  | replied e reply hget r₁ hreply done phase _ hr' =>
    have halive := (htidy.alive_eq hget).1
    have hline := h.line_eq_nil halive (fun hwaits => by cases hwaits)
    have hasked : (⟨.answered e reply, false⟩ : Task ConsumerPhase).asked = false := rfl
    -- the passage that had begun comes to its end before the stretch
    have hended : Views [Act.concluded e (.ofReply reply), Act.handed e] [] [] [e] []
        [Act.concluded e (.ofReply reply), Act.handed e] := ⟨rfl, rfl, rfl, rfl, rfl⟩
    have hviews := hended.append ((Views.ofEnded done).append (Views.opening phase.event?))
    have hbefore : Adds r { r with storage := r.storage.complete e reply } [] :=
      .of_nothing rfl rfl rfl
    refine ⟨_, (hbefore.trans hreply.adds).trans hr'.adds, hviews.accepted,
      .on id ⟨.answered e reply, false⟩ ⟨phase, false⟩
      (.finished e (.ofReply reply) :: Passage.ofEnded done) halive ?_
      (hr'.line (hreply.line.trans hline) hasked) (.inl rfl) hviews.lost ?_⟩
    · rw [hr'.worker, hreply.worker]
      exact alive_setPhase halive phase
    · exact congrArg (Act.opening e ++ ·) hviews.ofConsumer

/-- The end of a stop concerns neither events nor consumers. -/
theorem goes_resume (r : Relay κ σ) (caller : Nat) : Goes r (r.resume caller).value [] false := by
  unfold resume
  split
  · refine goes_of_nothing ?_ ?_ ?_ ?_ ?_ false <;> rfl
  · exact goes_of_nothing rfl rfl rfl rfl rfl false

theorem goes_perform (htidy : r.worker.Tidy) (h : r.Lined) (job : Job) :
    Goes r (r.perform job).value [] false := by
  cases job with
  | consume id => exact goes_consume htidy h id
  | deliver id => exact (aside_deliver r id).goes false
  | retire id => exact (aside_retire r id).goes false
  | report caller => exact (aside_report r caller).goes false
  | resume caller => exact goes_resume r caller
  | resumeRouter caller => exact (aside_resumeRouter r caller).goes false

/-- What goes on after jobs were taken out of line goes on as well if they had stayed. -/
theorem Goes.of_ready {ready : List Job} {events : List Event} {stopping : Bool}
    (h : Goes { r with ready } r' events stopping) : Goes r r' events stopping := by
  obtain ⟨acts, hadds, haccepted, hshift⟩ := h
  have hbefore : Adds r { r with ready } [] := .of_nothing rfl rfl rfl
  refine ⟨acts, hbefore.trans hadds, haccepted, ?_⟩
  cases hshift with
  | rest halive hline hlost hacts => exact .rest halive hline hlost hacts
  | made id hnone halive hline hlost hacts => exact .made id hnone halive hline hlost hacts
  | on id task task' passages hbefore halive hline hasked hlost hacts =>
    exact .on id task task' passages hbefore halive hline hasked hlost hacts
  | ended id task hbefore hasked halive hline hlost hacts =>
    exact .ended id task hbefore hasked halive hline hlost hacts

/-- Every turn goes one of the ways, whatever the caller of a start. -/
theorem goes_turn (htidy : r.worker.Tidy) (h : r.Lined) (t : Turn) :
    Goes r (r.turn t) (r.admitted t) t.isStop := by
  cases t with
  | offer e => exact goes_offer h e
  | start => exact goes_start htidy h
  | stop caller =>
    rw [turn]
    split
    · exact goes_of_nothing rfl rfl rfl rfl rfl true
    · exact goes_beginStop htidy h caller
  | stopRouter caller =>
    rw [turn]
    split
    · exact goes_of_nothing rfl rfl rfl rfl rfl false
    · exact (aside_beginRouterStop r caller).goes false
  | answer reply id => exact goes_answer htidy h reply id
  | job place =>
    rw [turn, runJob]
    split
    · next job _ =>
      have hgoes := goes_perform (r := { r with ready := r.ready.eraseIdx place }) htidy h job
      exact hgoes.of_ready
    · exact goes_of_nothing rfl rfl rfl rfl rfl false
  | closeStore => refine goes_of_nothing ?_ ?_ ?_ ?_ ?_ false <;> rfl

end AdmissionLedger.Relay
