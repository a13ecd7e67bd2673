import AdmissionLedger.Proofs.Relay.Order
import AdmissionLedger.Proofs.Relay.Routing

/-!
# Deliveries do not concern each other

How far a delivery is, and how often it stands in line, depends on its own jobs, on what
it meets outside and on the stops, and not on what becomes of others.  With what a run
schedules and counts, and with what a stop leaves, this is all that is asked of a router.

## Main definitions

* `Relay.view` — what is seen of one delivery.
* `Relay.Alike` — two relays show the same of the deliveries on which they agree.

## Main results

* `Relay.view_deliver`, `Relay.view_of_ne`, `Relay.Attended.view_stop` — what jobs and stops make of
  a view.
* `Relay.Alike.run` — two calm runs with the same turns stay alike.
* `Relay.routed_run` — the runs of a new router.
-/

namespace AdmissionLedger

variable {κ σ : Type}

namespace DeliveryTask

theorem bare_ask (d : DeliveryTask κ) : d.bare.ask.bare = d.ask.bare := by
  have hended : d.bare.hasEnded = d.hasEnded := rfl
  unfold ask
  rw [hended]
  split <;> rfl

/-- How far a delivery goes does not depend on who waits for it. -/
theorem bare_advance (carrier : Carrier κ σ) (outside : σ) (d : DeliveryTask κ) :
    (d.bare.advance carrier outside).bare = (d.advance carrier outside).bare := by
  have hended : d.bare.hasEnded = d.hasEnded := rfl
  unfold advance
  rw [hended]
  split <;> rfl

theorem count_advanceJobs_bare (carrier : Carrier κ σ) (outside : σ) (id : Nat)
    (d : DeliveryTask κ) : (d.bare.advanceJobs carrier outside id).count (.deliver id) =
      (d.advanceJobs carrier outside id).count (.deliver id) := by
  have hended : d.bare.hasEnded = d.hasEnded := rfl
  have hnext : d.bare.next carrier outside = d.next carrier outside := rfl
  unfold advanceJobs
  rw [hended, hnext]
  split
  · rfl
  · dsimp only
    split
    · rw [List.count_eq_zero.mpr (by simp), List.count_eq_zero.mpr (by simp)]
    · rfl

end DeliveryTask

namespace Relay

open DeliveryTask

variable {r r' : Relay κ σ} {met met' : Nat → σ} {id caller i : Nat} {agree : Nat → Prop}

/-! ### What is seen of one delivery -/

/-- How far a delivery is, and how often it stands in line. -/
def view (r : Relay κ σ) (id : Nat) : Option (DeliveryTask κ) × Nat :=
  (r.deliveries[id]?.map bare, r.ready.count (.deliver id))

/-- A delivery that stands in line goes on. -/
def advanceView (carrier : Carrier κ σ) (outside : σ) (id : Nat)
    (v : Option (DeliveryTask κ) × Nat) : Option (DeliveryTask κ) × Nat :=
  if v.2 = 0 then v
  else (v.1.map fun d => (d.advance carrier outside).bare,
    v.2 - 1 + v.1.elim 0 fun d => (d.advanceJobs carrier outside id).count (.deliver id))

/-- A delivery is asked to end if it is in flight. -/
def askView (id : Nat) (v : Option (DeliveryTask κ) × Nat) : Option (DeliveryTask κ) × Nat :=
  (v.1.map fun d => d.ask.bare, v.2 + v.1.elim 0 fun d => (d.askJobs id).count (.deliver id))

section

variable {f : DeliveryTask κ → DeliveryTask κ} {jobs : DeliveryTask κ → List Job}
  {acts : DeliveryTask κ → List Act}

theorem Changes.view (h : Changes r r' id f jobs acts) (hf : ∀ d, (f d.bare).bare = (f d).bare)
    (hjobs : ∀ d, (jobs d.bare).count (.deliver id) = (jobs d).count (.deliver id)) :
    r'.view id = ((r.view id).1.map fun d => (f d).bare,
      (r.view id).2 + (r.view id).1.elim 0 fun d => (jobs d).count (.deliver id)) := by
  rw [Relay.view, Relay.view, h.getElem?, h.count]
  cases r.deliveries[id]? with
  | none => rfl
  | some d => simp [hf, hjobs]

theorem Changes.view_of_ne (h : Changes r r' id f jobs acts) (hne : id ≠ i)
    (hjobs : ∀ d, .deliver i ∉ jobs d) : r'.view i = r.view i := by
  have hnone : (r.deliveries[id]?.elim 0 fun d => (jobs d).count (.deliver i)) = 0 := by
    cases r.deliveries[id]? with
    | none => rfl
    | some d => exact List.count_eq_zero.mpr (hjobs d)
  rw [Relay.view, Relay.view, h.getElem?, h.count, hnone]
  simp [hne]

end

theorem Rests.view (h : Rests r r') (i : Nat) : r'.view i = r.view i := by
  obtain ⟨callers, hready⟩ := h.ready
  have hnone : .deliver i ∉ callers.map Job.resumeRouter := by simp
  rw [Relay.view, Relay.view, h.deliveries, hready, List.count_append,
    List.count_eq_zero.mpr hnone, Nat.add_zero]

/-! ### Turns -/

theorem view_taking_of_ne {job : Job} (hjob : job ≠ .deliver i) :
    (r.taking met job).view i = r.view i := by
  show (_, (r.ready.erase job).count (.deliver i)) = _
  rw [List.count_erase_of_ne hjob.symm]
  rfl

/-- A job of a delivery lets it go on. -/
theorem view_deliver (r : Relay κ σ) (met : Nat → σ) (id : Nat) :
    (r.routerTurn met (.job (.deliver id))).view id =
      advanceView r.carrier (met id) id (r.view id) := by
  have hcount : (r.view id).2 = 0 ↔ .deliver id ∉ r.ready := List.count_eq_zero
  rw [routerTurn, advanceView]
  split
  · next hready =>
    rw [if_neg (mt hcount.mp (not_not_intro hready)), perform,
      (changes_deliver (r.taking met (.deliver id)) id).view (bare_advance _ _)
        (count_advanceJobs_bare _ _ id)]
    show (_, (r.ready.erase _).count _ + _) = _
    rw [List.count_erase_self]
    rfl
  · next hready => rw [if_pos (hcount.mpr hready)]

/-- A job of anything else leaves it where it is. -/
theorem view_of_ne (hworker : r.worker = {}) {job : Job} (hjob : job ≠ .deliver i) :
    (r.routerTurn met (.job job)).view i = r.view i := by
  rw [routerTurn]
  split
  · rcases perform_cases met hworker job with ⟨id, rfl, hchanges⟩ | ⟨-, hrests⟩
    · have hne : id ≠ i := fun heq => hjob (congrArg Job.deliver heq)
      refine (hchanges.view_of_ne hne fun d => ?_).trans (view_taking_of_ne hjob)
      unfold advanceJobs
      dsimp only
      split_ifs <;> simp [hne.symm]
    · exact (hrests.view i).trans (view_taking_of_ne hjob)
  · rfl

theorem view_foldl {step : Relay κ σ → Nat → Relay κ σ}
    {f : Option (DeliveryTask κ) × Nat → Option (DeliveryTask κ) × Nat}
    (h : ∀ r id, (step r id).view i = if id = i then f (r.view i) else r.view i)
    (ids : List Nat) (r : Relay κ σ) :
    (ids.foldl step r).view i = f^[ids.count i] (r.view i) := by
  induction ids generalizing r with
  | nil => rfl
  | cons id ids ih =>
    rw [List.foldl_cons, ih, h, List.count_cons]
    by_cases hid : id = i
    · simp [hid]
    · simp [hid]

theorem view_cancelDelivery (r : Relay κ σ) (id : Nat) :
    (r.cancelDelivery id).view i = if id = i then askView i (r.view i) else r.view i := by
  have hchanges := changes_cancelDelivery r id
  split
  · next hid =>
    subst hid
    exact hchanges.view bare_ask fun _ => rfl
  · next hid =>
    refine hchanges.view_of_ne hid fun d => ?_
    unfold askJobs
    split <;> simp [Ne.symm hid]

theorem view_watch (caller : Nat) (r : Relay κ σ) (id : Nat) :
    (r.watch caller id).view i = r.view i := by
  have hchanges := changes_watch r caller id
  have hjobs : ∀ (i : Nat) (d : DeliveryTask κ), .deliver i ∉ d.watchJobs caller := fun i d => by
    unfold watchJobs
    split <;> simp
  rw [view, view, hchanges.getElem?, hchanges.count]
  cases hget : r.deliveries[id]? with
  | none =>
    rw [Option.elim_none, Nat.add_zero]
    by_cases hid : id = i
    · rw [← hid, hget]
      rfl
    · simp [hid]
  | some d =>
    rw [Option.elim_some, List.count_eq_zero.mpr (hjobs i d), Nat.add_zero]
    by_cases hid : id = i
    · simp [← hid, hget, bare_watchedBy]
    · simp [hid]

/-- A delivery that has ended, or was asked, need not be asked again. -/
theorem askView_eq_self (h : ∀ d, r.deliveries[i]? = some d → (d.hasEnded || d.asked) = true) :
    askView i (r.view i) = r.view i := by
  unfold askView view
  cases hget : r.deliveries[i]? with
  | none => rfl
  | some d =>
    have hask : d.bare.ask = d.bare := ask_eq_self (h d hget)
    have hjobs : d.bare.askJobs i = [] := askJobs_eq_nil (h d hget)
    simp only [Option.map_some, Option.elim_some, hask, hjobs, List.count_nil, Nat.add_zero]
    rfl

theorem askView_askView (id : Nat) (v : Option (DeliveryTask κ) × Nat) :
    askView id (askView id v) = askView id v := by
  obtain ⟨d?, n⟩ := v
  cases d? with
  | none => rfl
  | some d =>
    have hask : d.ask.bare.ask = d.ask.bare := ask_eq_self d.hasEnded_or_asked_ask
    have hjobs : d.ask.bare.askJobs id = [] := askJobs_eq_nil d.hasEnded_or_asked_ask
    simp only [askView, Option.map_some, Option.elim_some, hask, hjobs, List.count_nil,
      Nat.add_zero]
    rfl

/-- A stop asks the deliveries that the router knows of. -/
theorem view_beginRouterStop (r : Relay κ σ) (caller i : Nat) :
    (r.beginRouterStop caller).view i = (askView i)^[r.pending.count i] (r.view i) := by
  by_cases hpending : r.pending = []
  · rw [beginRouterStop_eq, if_pos hpending, hpending]
    rfl
  · have hwatch : (r.pending.foldl (watch · caller) (r.askAll.enlist caller)).view i =
        r.askAll.view i :=
      List.foldlRecOn (motive := fun r' : Relay κ σ => r'.view i = r.askAll.view i) r.pending _ rfl
        fun r' h id _ => (view_watch caller r' id).trans h
    rw [beginRouterStop_of_pending hpending, hwatch, askAll, view_foldl view_cancelDelivery]

/-- A stop asks all deliveries in flight to end. -/
theorem Attended.view_stop (h : r.Attended) (hsettled : r.Settled met) (caller i : Nat) :
    (r.routerTurn met (.stop caller)).view i = askView i (r.view i) := by
  -- where a delivery is in flight the router knows of it, and may have asked it before
  have hself : (∀ d, r.InFlight i d → d.asked = true) → askView i (r.view i) = r.view i :=
    fun hasked => askView_eq_self fun d hget => by
      cases hended : d.hasEnded with
      | true => rfl
      | false => exact hasked d ⟨hget, hended⟩
  rw [routerTurn]
  split
  · next hwaiting =>
    rw [hsettled.accounted.isWaiting_eq] at hwaiting
    refine (hself fun d hd => h.asked i d hd fun hnone => ?_).symm
    rw [hnone] at hwaiting
    cases hwaiting
  · rw [view_beginRouterStop]
    by_cases hknown : i ∈ r.pending
    · obtain ⟨n, hn⟩ := Nat.exists_eq_add_one.mpr (List.count_pos_iff.mpr hknown)
      rw [hn, Function.iterate_succ_apply,
        Function.iterate_fixed (askView_askView i (r.view i))]
    · rw [List.count_eq_zero.mpr hknown]
      exact (hself fun d hd => absurd (h.known i d hd) hknown).symm

/-! ### Two runs -/

/-- Two relays with the same router and channels have as many deliveries, and those that agree are
as far. -/
structure Alike (agree : Nat → Prop) (r r' : Relay κ σ) : Prop where
  carrier : r'.carrier = r.carrier
  audience : r'.audience = r.audience
  length : r'.deliveries.length = r.deliveries.length
  view : ∀ id, agree id → r'.view id = r.view id

/-- Two relays that are alike send an event to the same channels, under the same numbers. -/
theorem Alike.view_send (h : Alike agree r r') (e : Event) (hid : agree id) :
    (r'.send e).2.view id = (r.send e).2.view id := by
  have hsends := sends_send r e
  have hsends' := sends_send r' e
  have htasks : r'.tasks e = r.tasks e := by rw [tasks, h.audience, tasks]
  have hids : r'.newIds e = r.newIds e := by rw [newIds, h.length, htasks, newIds]
  have hview := h.view id hid
  rw [Relay.view, Relay.view, Prod.mk.injEq] at hview
  rw [Relay.view, Relay.view, hsends'.deliveries, hsends.deliveries, hsends'.ready, hsends.ready,
    htasks, hids, List.count_append, List.count_append, hview.2, List.getElem?_append,
    List.getElem?_append, h.length]
  split
  · rw [hview.1]
  · rfl

theorem length_turn (met : Nat → σ) (hworker : r.worker = {}) (t : RouterTurn) :
    (r.routerTurn met t).deliveries.length =
      r.deliveries.length + (t.sent?.toList.flatMap r.audience).length := by
  have hlength := congrArg List.length (scheduled_turn met hworker t)
  rwa [scheduled_eq, scheduled_eq, List.length_append, List.length_map, List.length_map] at hlength

/-- What a turn does to a delivery depends on how far it is and on what it meets. -/
theorem Alike.turn (h : Alike agree r r') (hmet : ∀ id, agree id → met' id = met id)
    (hsettled : r.Settled met) (hsettled' : r'.Settled met') {t : RouterTurn}
    (hattended : t.isStop = true → r.Attended ∧ r'.Attended) :
    Alike agree (r.routerTurn met t) (r'.routerTurn met' t) := by
  have hworker := hsettled.accounted.worker
  have hworker' := hsettled'.accounted.worker
  have hwired := wired_turn met hworker t
  have hwired' := wired_turn met' hworker' t
  refine ⟨?_, ?_, ?_, fun id hid => ?_⟩
  · rw [hwired'.carrier, hwired.carrier, h.carrier]
  · rw [hwired'.audience, hwired.audience, h.audience]
  · rw [length_turn met' hworker', length_turn met hworker, h.length, h.audience]
  · cases t with
    | send e => exact h.view_send e hid
    | stop caller =>
      obtain ⟨hr, hr'⟩ := hattended rfl
      rw [hr'.view_stop hsettled', hr.view_stop hsettled, h.view id hid]
    | job job =>
      by_cases hjob : job = .deliver id
      · subst hjob
        rw [view_deliver, view_deliver, h.carrier, h.view id hid, hmet id hid]
      · rw [view_of_ne hworker' hjob, view_of_ne hworker hjob, h.view id hid]

/-- Two calm runs with the same turns treat the deliveries alike that meet the same in both. -/
theorem Alike.run (h : Alike agree r r') (hmet : ∀ id, agree id → met' id = met id)
    (hsettled : r.Settled met) (hsettled' : r'.Settled met') {turns : List RouterTurn}
    (hattended : turns.any RouterTurn.isStop = true → r.Attended ∧ r'.Attended)
    (hcalm : r.Calm met turns) (hcalm' : r'.Calm met' turns) :
    Alike agree (r.routerRun met turns) (r'.routerRun met' turns) := by
  induction turns generalizing r r' with
  | nil => exact h
  | cons t turns ih =>
    obtain ⟨hsend, hcalm⟩ := hcalm
    obtain ⟨hsend', hcalm'⟩ := hcalm'
    refine ih (h.turn hmet hsettled hsettled' fun ht => hattended (by simp [ht]))
      (hsettled.turn t) (hsettled'.turn t) (fun hstop => ?_) hcalm hcalm'
    obtain ⟨hr, hr'⟩ := hattended (by simp [hstop])
    exact ⟨hr.turn hsettled fun ht => hsend ht hstop,
      hr'.turn hsettled' fun ht => hsend' ht hstop⟩

/-! ### Runs of a new router -/

variable {carrier : Carrier κ σ} {outside : σ} {router : Router κ}

theorem settled_ofRouter (met : Nat → σ) : (ofRouter carrier outside router).Settled met := by
  refine ⟨⟨rfl, ?_, ?_, .refl _, ?_⟩, fun caller => ⟨rfl, rfl⟩⟩
  · simp [ofRouter, pending]
  · simp [ofRouter]
  · simp [ofRouter, deliveries]

theorem attended_ofRouter : (ofRouter carrier outside router).Attended :=
  attended_of_ended fun id d hd => by simpa [ofRouter, deliveries] using hd.1

theorem audience_ofRouter (channels : List κ) (operations : List Text) (e : Event) :
    (ofRouter carrier outside (.filtered channels operations)).audience e =
      if operations = [] ∨ ∃ op ∈ operations, op.upper = e.operation.name then
        channels.map fun channel => (channel, e)
      else [] := by
  have hpasses : (Router.filtered channels operations).alertsOn e.operation = true ↔
      operations = [] ∨ ∃ op ∈ operations, op.upper = e.operation.name := by
    simp [Router.alertsOn, Router.filtered]
  simp only [ofRouter, audience, Option.toList_some, List.flatMap_singleton, Router.audience,
    ← hpasses]
  split <;> rfl

/-- What a router does with the events that are sent: each that passes the filter is delivered once
to each channel; each delivery that is completed is counted once, as what its channel returned; what
one delivery comes to does not concern another; and a stop leaves nothing in flight.  A run with one
stop is calm; in others no stop may follow a send that was made while the router was stopped. -/
theorem routed_run (carrier : Carrier κ σ) (outside : σ) (channels : List κ)
    (operations : List Text) (met : Nat → σ) (turns : List RouterTurn) :
    let fresh := ofRouter carrier outside (.filtered channels operations)
    let r := fresh.routerRun met turns
    (r.deliveries.map (fun d => (d.channel, d.event)) =
      (turns.filterMap RouterTurn.sent?).flatMap fun e =>
        if operations = [] ∨ ∃ op ∈ operations, op.upper = e.operation.name then
          channels.map fun channel => (channel, e)
        else []) ∧
    r.counts.Perm (r.deliveries.zipIdx.filterMap fun entry =>
      if entry.1.phase = .done then some (.notifications (carrier.name entry.1.channel)
        (entry.1.outcome carrier (met entry.2) = some .sent))
      else none) ∧
    (∀ id (d : DeliveryTask κ), r.deliveries[id]? = some d → d.phase = .done →
      d.outcome carrier (met id) ≠ none) ∧
    (∀ met' : Nat → σ, fresh.Calm met turns → fresh.Calm met' turns →
      let r' := fresh.routerRun met' turns
      r'.deliveries.length = r.deliveries.length ∧ ∀ id, met' id = met id →
        (r'.deliveries[id]?.map fun d => (d.channel, d.event, d.phase)) =
          r.deliveries[id]?.map fun d => (d.channel, d.event, d.phase)) ∧
    (∀ before caller during, turns = before ++ .stop caller :: during → fresh.Calm met turns →
      (∀ t ∈ during, t.isSend = false) → r.isWaiting caller = false →
        (∀ d ∈ r.deliveries, d.phase = .done ∨ d.phase = .cancelled) ∧ r.pending = []) ∧
    (turns.countP RouterTurn.isStop ≤ 1 → fresh.Calm met turns) := by
  intro fresh r
  have hsettled : fresh.Settled met := settled_ofRouter met
  have hwired : Wired fresh r := wired_run met rfl turns
  refine ⟨?_, ?_, ?_, fun met' hcalm hcalm' => ?_, fun before caller during heq => ?_,
    calm_of_countP_le_one rfl rfl⟩
  · have hscheduled := scheduled_run met (r := fresh) rfl turns
    rw [scheduled_eq] at hscheduled
    rw [hscheduled]
    exact List.flatMap_congr fun e _ => audience_ofRouter channels operations e
  · have hcounts := (hsettled.run turns).accounted.counts
    rw [tally, hwired.carrier] at hcounts
    exact hcounts
  · have hsincere := (hsettled.run turns).accounted.sincere
    rw [hwired.carrier] at hsincere
    exact hsincere
  · have halike : Alike (fun id => met' id = met id) fresh fresh := ⟨rfl, rfl, rfl, fun _ _ => rfl⟩
    have hrun := halike.run (fun _ hid => hid) hsettled (settled_ofRouter met')
      (fun _ => ⟨attended_ofRouter, attended_ofRouter⟩) hcalm hcalm'
    refine ⟨hrun.length, fun id hid => ?_⟩
    have hbare := congrArg (fun v => v.1.map fun d : DeliveryTask κ =>
      (d.channel, d.event, d.phase)) (hrun.view id hid)
    simpa [view, bare, Function.comp_def] using hbare
  · intro hcalm hsend hreturned
    have hattended := attended_ofRouter.of_calm hsettled rfl (heq ▸ hcalm)
    have hsplit : r = (fresh.routerRun met before).routerRun met (.stop caller :: during) := by
      show fresh.routerRun met turns = _
      rw [heq, routerRun, List.foldl_append]
      rfl
    rw [hsplit] at hreturned ⊢
    obtain ⟨hended, hpending⟩ := hattended.ended_run (hsettled.run before) hsend hreturned
    refine ⟨fun d hd => ?_, hpending⟩
    obtain ⟨id, hget⟩ := List.mem_iff_getElem?.mp hd
    exact phase_of_hasEnded (Bool.of_not_eq_false fun hflight => hended id d ⟨hget, hflight⟩)

/-- Each delivery comes to what it finds outside. -/
def exampleCarrier : Carrier Text (Option DeliveryEnd) where
  name channel := channel
  deliver _ _ outside := pure (outside, outside)

/-- The third delivery hangs; what the second comes to is left open. -/
def exampleEnds (second : Option DeliveryEnd) : Nat → Option DeliveryEnd
  | 1 => second
  | 2 => none
  | _ => some .sent

/-- Of two events to two channels four deliveries come; the one between them is not to be sent. -/
def exampleSends : List RouterTurn :=
  [.send (exampleEvent "a"), .send { exampleEvent "b" with operation := .delete },
    .send (exampleEvent "c"), .job (.deliver 1), .job (.deliver 0), .job (.deliver 2),
    .job (.retire 0)]

/-- The router is stopped before the fourth is begun. -/
def exampleStop : List RouterTurn :=
  [.job (.deliver 3), .job (.deliver 2), .job (.report 0), .job (.report 0), .job (.report 0),
    .job (.resumeRouter 0)]

theorem routed_run_exampleStop :
    let fresh := ofRouter exampleCarrier none (.filtered ["slack", "mail"] ["create"])
    let turns := exampleSends ++ .stop 0 :: exampleStop
    let r := fresh.routerRun (exampleEnds (some (.broken "down"))) turns
    let r' := fresh.routerRun (exampleEnds none) turns
    r.isWaiting 0 = false ∧
      (∀ d ∈ r.deliveries, d.phase = .done ∨ d.phase = .cancelled) ∧ r.pending = [] ∧
      r.deliveries.map (·.phase) = [.done, .done, .cancelled, .cancelled] ∧
      r.counts = [.notifications "mail" false, .notifications "slack" true] ∧
      (r'.deliveries[0]?.map fun d => (d.channel, d.event, d.phase)) =
        r.deliveries[0]?.map fun d => (d.channel, d.event, d.phase) := by
  intro fresh turns r r'
  obtain ⟨-, -, -, hisolated, hstopped, hcalm⟩ := routed_run exampleCarrier none ["slack", "mail"]
    ["create"] (exampleEnds (some (.broken "down"))) turns
  obtain ⟨-, -, -, -, -, hcalm'⟩ := routed_run exampleCarrier none ["slack", "mail"] ["create"]
    (exampleEnds none) turns
  have hone : turns.countP RouterTurn.isStop ≤ 1 := by decide
  have hreturned : r.isWaiting 0 = false := by decide +kernel
  obtain ⟨hended, hpending⟩ :=
    hstopped exampleSends 0 exampleStop rfl (hcalm hone) (by decide) hreturned
  refine ⟨hreturned, hended, hpending, ?_, ?_, ?_⟩
  · decide +kernel
  · decide +kernel
  · exact (hisolated (exampleEnds none) (hcalm hone) (hcalm' hone)).2 0 rfl

end Relay

end AdmissionLedger
