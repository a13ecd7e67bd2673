import AdmissionLedger.Proofs.Relay.RouterStop
import Mathlib.Logic.Function.Iterate

/-!
# Deliveries and their stops

A stop that returns leaves nothing in flight, if the router knows of every delivery in
flight and all who stop it wait for them.  Only a send that is made while the router is
stopped breaks this: the end of the stop makes the router forget the new deliveries too.
That does no harm where no further stop follows, so a run with one stop is always calm.

## Main definitions

* `Relay.InFlight`, `Relay.Attended` — a delivery is in flight; those in flight are attended to.
* `Relay.Calm` — no stop follows a send that is made while the router is stopped.
* `Relay.Settled` — the invariant of every run.
* `Relay.Closing` — a caller waits, or nothing is in flight.

## Main results

* `Relay.Attended.turn`, `Relay.Attended.of_calm` — in a calm run every stop finds the deliveries
  attended to.
* `Relay.Attended.ended` — a caller that goes on leaves nothing in flight.
* `Relay.Attended.ended_run` — so does a stop when it has returned.
* `Relay.calm_of_countP_le_one` — a run with a single stop is calm.
-/

namespace AdmissionLedger

variable {κ σ : Type}

/-! ### Asked and watched again and again -/

namespace DeliveryTask

/-- A delivery without those who wait for it. -/
def bare (d : DeliveryTask κ) : DeliveryTask κ :=
  { d with watchers := [] }

variable {d : DeliveryTask κ} {n : Nat}

theorem hasEnded_or_asked_ask (d : DeliveryTask κ) : (d.ask.hasEnded || d.ask.asked) = true := by
  unfold ask
  split
  · next h => simp [h]
  · simp

/-- A delivery need not be asked twice, and one that has ended need not be asked. -/
theorem iterate_ask (h : d.hasEnded = true ∨ 0 < n) : ask^[n] d = d.ask := by
  cases n with
  | zero =>
    have hended : d.hasEnded = true := h.resolve_right (Nat.lt_irrefl 0)
    exact (ask_eq_self (d := d) (by rw [hended, Bool.true_or])).symm
  | succ n => rw [Function.iterate_succ_apply,
    Function.iterate_fixed (ask_eq_self d.hasEnded_or_asked_ask)]

theorem bare_watchedBy (caller : Nat) (d : DeliveryTask κ) :
    (d.watchedBy caller).bare = d.bare := by
  unfold watchedBy
  split <;> rfl

theorem bare_iterate_watchedBy (caller n : Nat) (d : DeliveryTask κ) :
    ((watchedBy caller)^[n] d).bare = d.bare := by
  induction n with
  | zero => rfl
  | succ n ih => rw [Function.iterate_succ_apply', bare_watchedBy, ih]

theorem subset_watchers_iterate (caller n : Nat) (d : DeliveryTask κ) :
    d.watchers ⊆ ((watchedBy caller)^[n] d).watchers := by
  induction n with
  | zero => exact List.Subset.refl _
  | succ n ih =>
    rw [Function.iterate_succ_apply']
    refine List.Subset.trans ih ?_
    unfold watchedBy
    split
    · exact List.Subset.refl _
    · exact List.subset_append_left _ _

/-- Who waits for a delivery in flight is among those who do. -/
theorem mem_watchers_iterate {caller : Nat} (hflight : d.hasEnded = false) (hn : 0 < n) :
    caller ∈ ((watchedBy caller)^[n] d).watchers := by
  obtain ⟨n, rfl⟩ := Nat.exists_eq_add_one.mpr hn
  rw [Function.iterate_succ_apply]
  refine subset_watchers_iterate caller n _ ?_
  rw [watchedBy, if_neg (by simp [hflight])]
  exact List.mem_append_right _ List.mem_cons_self

/-- A delivery that is in flight after a stretch was so before. -/
theorem flight_of_advance {carrier : Carrier κ σ} {outside : σ}
    (h : (d.advance carrier outside).hasEnded = false) : d.hasEnded = false ∧
      (d.advance carrier outside).watchers = d.watchers ∧
      (d.advance carrier outside).asked = d.asked := by
  cases hended : d.hasEnded with
  | true => rw [advance_of_hasEnded hended, hended] at h; cases h
  | false =>
    rw [advance_of_next hended rfl] at h ⊢
    rw [hasEnded_eq] at h
    exact ⟨rfl, if_neg (by simpa using h), rfl⟩

end DeliveryTask

namespace Relay

open DeliveryTask

variable {r r' : Relay κ σ} {met : Nat → σ} {id caller c : Nat} {d d' : DeliveryTask κ}

/-- A change is made again and again where it names a delivery again and again. -/
theorem getElem?_foldl {step : Relay κ σ → Nat → Relay κ σ} {f : DeliveryTask κ → DeliveryTask κ}
    (h : ∀ r id, (step r id).deliveries = r.deliveries.modify id f) (ids : List Nat)
    (r : Relay κ σ) (i : Nat) :
    (ids.foldl step r).deliveries[i]? = r.deliveries[i]?.map f^[ids.count i] := by
  induction ids generalizing r with
  | nil => simp
  | cons id ids ih =>
    rw [List.foldl_cons, ih, h, List.getElem?_modify, List.count_cons]
    by_cases hid : id = i
    · subst hid
      cases r.deliveries[id]? <;> simp
    · cases r.deliveries[i]? <;> simp [hid]

/-- What a stop makes of the deliveries. -/
theorem getElem?_beginRouterStop (r : Relay κ σ) (caller i : Nat) :
    (r.beginRouterStop caller).deliveries[i]? = r.deliveries[i]?.map fun d =>
      (watchedBy caller)^[r.pending.count i] (ask^[r.pending.count i] d) := by
  by_cases hpending : r.pending = []
  · rw [beginRouterStop_eq, if_pos hpending, hpending]
    simp
  · rw [beginRouterStop_of_pending hpending,
      getElem?_foldl (fun r id => (changes_watch r caller id).deliveries)]
    show (r.askAll.deliveries[i]?).map _ = _
    rw [askAll, getElem?_foldl (fun r id => (changes_cancelDelivery r id).deliveries),
      Option.map_map]
    rfl

/-! ### Deliveries that are attended to -/

/-- A delivery is in flight. -/
def InFlight (r : Relay κ σ) (id : Nat) (d : DeliveryTask κ) : Prop :=
  r.deliveries[id]? = some d ∧ d.hasEnded = false

/-- The router knows of every delivery in flight; while it is stopped, these were asked to end, and
all who stop it wait for them. -/
structure Attended (r : Relay κ σ) : Prop where
  known : ∀ id d, r.InFlight id d → id ∈ r.pending
  watched : ∀ id d, r.InFlight id d → ∀ caller, (r.routerStops.lookup caller).isSome = true →
    caller ∈ d.watchers
  asked : ∀ id d, r.InFlight id d → r.routerStops ≠ [] → d.asked = true

theorem attended_of_ended (h : ∀ id d, ¬ r.InFlight id d) : r.Attended :=
  ⟨fun id d hd => absurd hd (h id d), fun id d hd => absurd hd (h id d),
    fun id d hd => absurd hd (h id d)⟩

/-- Deliveries in flight are attended to if they were before. -/
theorem Attended.mono (h : r.Attended)
    (hflight : ∀ id d', r'.InFlight id d' → ∃ d, r.InFlight id d ∧ d.watchers ⊆ d'.watchers ∧
      (d.asked = true → d'.asked = true))
    (hpending : ∀ id d', r'.InFlight id d' → id ∈ r.pending → id ∈ r'.pending)
    (hstops : ∀ caller, (r'.routerStops.lookup caller).isSome = true →
      (r.routerStops.lookup caller).isSome = true)
    (hnone : r.routerStops = [] → r'.routerStops = []) : r'.Attended where
  known := fun id d' hd' => by
    obtain ⟨d, hd, -⟩ := hflight id d' hd'
    exact hpending id d' hd' (h.known id d hd)
  watched := fun id d' hd' caller hcaller => by
    obtain ⟨d, hd, hwatchers, -⟩ := hflight id d' hd'
    exact hwatchers (h.watched id d hd caller (hstops caller hcaller))
  asked := fun id d' hd' hstopping => by
    obtain ⟨d, hd, -, hasked⟩ := hflight id d' hd'
    exact hasked (h.asked id d hd (mt hnone hstopping))

/-- With the same deliveries it is enough to look at those that are forgotten, and at callers. -/
theorem Attended.rests (h : r.Attended) (hrests : Rests r r')
    (hpending : ∀ id d', r'.InFlight id d' → id ∈ r.pending → id ∈ r'.pending)
    (hstops : ∀ caller, (r'.routerStops.lookup caller).isSome = true →
      (r.routerStops.lookup caller).isSome = true)
    (hnone : r.routerStops = [] → r'.routerStops = []) : r'.Attended := by
  refine h.mono (fun id d' hd' => ⟨d', ?_, List.Subset.refl _, fun hasked => hasked⟩) hpending
    hstops hnone
  rwa [InFlight, ← hrests.deliveries]

/-- A delivery that goes on and is in flight was so before. -/
theorem Changes.inFlight {carrier : Carrier κ σ} {outside : σ}
    {acts : DeliveryTask κ → List Act} (h : Changes r r' id (advance carrier outside)
      (advanceJobs carrier outside id) acts) {i : Nat} (hd' : r'.InFlight i d') :
    ∃ d, r.InFlight i d ∧ d.watchers ⊆ d'.watchers ∧ (d.asked = true → d'.asked = true) := by
  obtain ⟨hget, hflight⟩ := hd'
  rw [h.getElem?, Option.map_eq_some_iff] at hget
  obtain ⟨d, hget, rfl⟩ := hget
  split at hflight
  · next hid =>
    obtain ⟨hd, hwatchers, hasked⟩ := flight_of_advance hflight
    refine ⟨d, ⟨hget, hd⟩, ?_⟩
    rw [if_pos hid, hwatchers, hasked]
    exact ⟨List.Subset.refl _, fun hasked => hasked⟩
  · next hid =>
    refine ⟨d, ⟨hget, hflight⟩, ?_⟩
    rw [if_neg hid]
    exact ⟨List.Subset.refl _, fun hasked => hasked⟩

theorem Attended.deliver {carrier : Carrier κ σ} {outside : σ} {acts : DeliveryTask κ → List Act}
    (h : r.Attended) (hchanges : Changes r r' id (advance carrier outside)
      (advanceJobs carrier outside id) acts) : r'.Attended :=
  h.mono (fun _ _ hd' => hchanges.inFlight hd') (fun _ _ _ hi => by rwa [hchanges.pending])
    (fun _ hcaller => by rwa [hchanges.routerStops] at hcaller)
    fun hnone => by rw [hchanges.routerStops, hnone]

theorem Attended.retire (h : r.Attended) (hended : ∀ d, ¬ r.InFlight id d) :
    (r.retire id).Attended := by
  have hrests := rests_retire r id
  have hpending : (r.retire id).pending = r.pending.filter (· ≠ id) := by
    unfold Relay.retire Relay.pending
    cases r.dispatch <;> rfl
  refine h.rests hrests (fun i d' hd' hi => ?_) (fun _ hcaller => hcaller) fun hnone => hnone
  have hne : i ≠ id := by
    rintro rfl
    refine hended d' ?_
    rwa [InFlight, ← hrests.deliveries]
  rw [hpending]
  exact List.mem_filter.mpr ⟨hi, by simpa using hne⟩

theorem Attended.report (h : r.Attended) (caller : Nat) : (r.report caller).Attended := by
  have hpending : (r.report caller).pending = r.pending := by
    unfold Relay.report
    split
    · dsimp only
      split <;> rfl
    · rfl
  refine h.rests (rests_report r caller) (fun _ _ _ hi => by rwa [hpending])
    (fun c hc => by rwa [isSome_lookup_report] at hc) fun hnone => ?_
  rw [Relay.report, hnone, List.lookup_nil]
  exact hnone

/-- After the ends of all deliveries that a caller waited for none is in flight. -/
theorem Attended.ended (h : r.Attended) (hstanding : r.Standing caller)
    (hready : .resumeRouter caller ∈ r.ready) (id : Nat) (d : DeliveryTask κ) :
    ¬ r.InFlight id d := by
  intro hd
  obtain ⟨hlookup, htold, -⟩ := hstanding.told hready
  have hwatched := h.watched id d hd caller (by rw [hlookup, Option.isSome_some])
  have hcount : 0 < (r.deliveries.flatMap (·.watchers)).count caller :=
    List.count_pos_iff.mpr (List.mem_flatMap.mpr ⟨d, List.mem_of_getElem? hd.1, hwatched⟩)
  unfold awaited at htold
  omega

/-- All deliveries in flight are asked to end by a stop, and its caller waits for them. -/
theorem Attended.inFlight_beginRouterStop (h : r.Attended)
    (hd' : (r.beginRouterStop caller).InFlight id d') : ∃ d, r.InFlight id d ∧
      d.watchers ⊆ d'.watchers ∧ d'.asked = true ∧ caller ∈ d'.watchers := by
  obtain ⟨hget, hflight⟩ := hd'
  rw [getElem?_beginRouterStop, Option.map_eq_some_iff] at hget
  obtain ⟨d, hget, rfl⟩ := hget
  have hbare := bare_iterate_watchedBy caller (r.pending.count id) (ask^[r.pending.count id] d)
  have hflight' : (ask^[r.pending.count id] d).hasEnded = false :=
    (congrArg DeliveryTask.hasEnded hbare).symm.trans hflight
  have hd : d.hasEnded = false := by
    cases hended : d.hasEnded with
    | true => rwa [iterate_ask (.inl hended), hasEnded_ask, hended] at hflight'
    | false => rfl
  have hpending : 0 < r.pending.count id := List.count_pos_iff.mpr (h.known id d ⟨hget, hd⟩)
  have hask : ask^[r.pending.count id] d = { d with asked := true } := by
    rw [iterate_ask (.inr hpending), ask, if_neg (by simp [hd])]
  rw [hask] at hbare hflight' ⊢
  exact ⟨d, ⟨hget, hd⟩, subset_watchers_iterate caller _ { d with asked := true },
    congrArg DeliveryTask.asked hbare, mem_watchers_iterate hflight' hpending⟩

theorem Attended.beginRouterStop (h : r.Attended) (caller : Nat) :
    (r.beginRouterStop caller).Attended := by
  by_cases hpending : r.pending = []
  · rwa [beginRouterStop_eq, if_pos hpending]
  refine ⟨fun id d' hd' => ?_, fun id d' hd' c hc => ?_, fun id d' hd' _ => ?_⟩
  · obtain ⟨d, hd, -⟩ := h.inFlight_beginRouterStop hd'
    rw [(stirs_beginRouterStop hpending caller).pending]
    exact (stirs_askAll r).pending ▸ h.known id d hd
  · obtain ⟨d, hd, hwatchers, -, hcaller⟩ := h.inFlight_beginRouterStop hd'
    rw [routerStops_beginRouterStop hpending, List.lookup_append, Option.isSome_or,
      Bool.or_eq_true] at hc
    rcases hc with hc | hc
    · exact hwatchers (h.watched id d hd c hc)
    · obtain rfl : c = caller := by simpa [List.lookup_singleton] using hc
      exact hcaller
  · obtain ⟨d, -, -, hasked, -⟩ := h.inFlight_beginRouterStop hd'
    exact hasked

theorem Attended.send (h : r.Attended) (hnone : r.routerStops = []) (e : Event) :
    (r.send e).2.Attended := by
  have hsends := sends_send r e
  have hnone' : (r.send e).2.routerStops = [] := hsends.routerStops.trans hnone
  refine ⟨fun id d hd => ?_, fun id d _ c hc => ?_, fun id d _ hstopping => absurd hnone' hstopping⟩
  · obtain ⟨hget, hflight⟩ := hd
    rw [hsends.deliveries] at hget
    rw [hsends.pending, List.mem_append]
    by_cases hid : id < r.deliveries.length
    · rw [List.getElem?_append_left hid] at hget
      exact .inl (h.known id d ⟨hget, hflight⟩)
    · have hlength := (List.getElem?_eq_some_iff.mp hget).1
      rw [List.length_append] at hlength
      exact .inr (List.mem_range'_1.mpr ⟨Nat.le_of_not_lt hid, hlength⟩)
  · rw [hnone'] at hc
    cases hc

/-! ### Runs that are calm -/

/-- No stop follows a send that is made while the router is stopped. -/
def Calm (met : Nat → σ) : Relay κ σ → List RouterTurn → Prop
  | _, [] => True
  | r, t :: turns => (t.isSend = true → turns.any RouterTurn.isStop = true → r.routerStops = []) ∧
      Calm met (r.routerTurn met t) turns

instance decidableCalm (met : Nat → σ) : ∀ (r : Relay κ σ) turns, Decidable (r.Calm met turns)
  | _, [] => .isTrue trivial
  | r, t :: turns =>
    have := decidableCalm met (r.routerTurn met t) turns
    inferInstanceAs (Decidable ((t.isSend = true → turns.any RouterTurn.isStop = true →
      r.routerStops = []) ∧ (r.routerTurn met t).Calm met turns))

/-- What every turn keeps of all callers and deliveries. -/
structure Settled (r : Relay κ σ) (met : Nat → σ) : Prop where
  accounted : r.Accounted met
  standing : ∀ caller, r.Standing caller

theorem Settled.turn (h : r.Settled met) (t : RouterTurn) : (r.routerTurn met t).Settled met :=
  ⟨h.accounted.turn t, Standing.turn h.accounted h.standing t⟩

theorem Settled.run (h : r.Settled met) (turns : List RouterTurn) :
    (r.routerRun met turns).Settled met :=
  List.foldlRecOn (motive := (Settled · met)) turns _ h fun _ h t _ => h.turn t

theorem Attended.taking (h : r.Attended) (job : Job) : (r.taking met job).Attended :=
  ⟨h.known, h.watched, h.asked⟩

/-- Deliveries stay attended to, as long as nothing is sent while the router is stopped. -/
theorem Attended.turn (h : r.Attended) (hsettled : r.Settled met) {t : RouterTurn}
    (hsend : t.isSend = true → r.routerStops = []) : (r.routerTurn met t).Attended := by
  cases t with
  | send e => exact h.send (hsend rfl) e
  | stop caller =>
    rw [routerTurn]
    split
    · exact h
    · exact h.beginRouterStop caller
  | job job =>
    rw [routerTurn]
    split
    · next hready =>
      have hworker : (r.taking met job).worker = {} := hsettled.accounted.worker
      have htaken : (r.taking met job).Attended := h.taking job
      cases job with
      | deliver id => exact htaken.deliver (changes_deliver _ id)
      | retire id =>
        obtain ⟨d, hget, hended⟩ := hsettled.accounted.retired id hready
        refine htaken.retire fun d' hd' => ?_
        obtain rfl : d = d' := Option.some.inj (hget.symm.trans hd'.1)
        rw [hd'.2] at hended
        cases hended
      | report caller => exact htaken.report caller
      | resumeRouter caller =>
        have hnone := h.ended (hsettled.standing caller) hready
        refine attended_of_ended fun id d hd => hnone id d ⟨?_, hd.2⟩
        rw [← hd.1]
        exact congrArg (·[id]?) (rests_resumeRouter _ caller).deliveries.symm
      | consume id =>
        rw [perform_consume hworker]
        exact htaken
      | resume caller =>
        rw [perform_resume hworker]
        exact htaken
    · exact h

/-! ### Stops that end -/

/-- A caller waits, or there is nothing to wait for. -/
def Closing (r : Relay κ σ) (caller : Nat) : Prop :=
  (r.routerStops.lookup caller).isSome = true ∨
    (∀ id d, ¬ r.InFlight id d) ∧ r.pending = []

/-- A stop leaves its caller waiting unless nothing is in flight. -/
theorem Attended.closing_stop (h : r.Attended) (hsettled : r.Settled met) (caller : Nat) :
    (r.routerTurn met (.stop caller)).Closing caller := by
  rw [routerTurn]
  split
  · next hwaiting =>
    rw [hsettled.accounted.isWaiting_eq] at hwaiting
    exact .inl hwaiting
  · by_cases hpending : r.pending = []
    · rw [beginRouterStop_eq, if_pos hpending]
      refine .inr ⟨fun id d hd => ?_, hpending⟩
      have hknown := h.known id d hd
      rw [hpending] at hknown
      cases hknown
    · refine .inl ?_
      rw [routerStops_beginRouterStop hpending, List.lookup_append, List.lookup_cons_self]
      cases r.routerStops.lookup caller <;> rfl

theorem pending_resumeRouter (r : Relay κ σ) (caller : Nat) :
    (r.resumeRouter caller).pending = [] := by
  unfold resumeRouter endRouterStop pending
  cases r.dispatch <;> rfl

theorem Closing.rests (h : r.Closing caller) (hrests : Rests r r')
    (hstops : (r.routerStops.lookup caller).isSome = true →
      (r'.routerStops.lookup caller).isSome = true) : r'.Closing caller := by
  rcases h with hwaits | ⟨hnone, hpending⟩
  · exact .inl (hstops hwaits)
  · refine .inr ⟨fun id d hd => hnone id d ?_, List.subset_nil.mp (hpending ▸ hrests.pending)⟩
    rwa [InFlight, ← hrests.deliveries]

/-- A caller that waits goes on only when no delivery is in flight, and none comes to be without a
send. -/
theorem Closing.turn (h : r.Closing caller) (hattended : r.Attended) (hsettled : r.Settled met)
    {t : RouterTurn} (hsend : t.isSend = false) : (r.routerTurn met t).Closing caller := by
  cases t with
  | send e => cases hsend
  | stop other =>
    rw [routerTurn]
    split
    · exact h
    · by_cases hpending : r.pending = []
      · rwa [beginRouterStop_eq, if_pos hpending]
      · refine .inl ?_
        have hwaits := h.resolve_right fun hnone => hpending hnone.2
        rw [routerStops_beginRouterStop hpending, List.lookup_append, Option.isSome_or, hwaits,
          Bool.true_or]
  | job job =>
    rw [routerTurn]
    split
    · next hready =>
      have hworker : (r.taking met job).worker = {} := hsettled.accounted.worker
      have htaken : (r.taking met job).Closing caller := h
      cases job with
      | deliver id =>
        have hchanges := changes_deliver (r.taking met (.deliver id)) id
        rcases htaken with hwaits | ⟨hnone, hpending⟩
        · refine .inl ?_
          rwa [perform, hchanges.routerStops]
        · refine .inr ⟨fun i d' hd' => ?_, hchanges.pending.trans hpending⟩
          obtain ⟨d, hd, -⟩ := hchanges.inFlight hd'
          exact hnone i d hd
      | retire id => exact htaken.rests (rests_retire _ id) fun hwaits => hwaits
      | report other =>
        exact htaken.rests (rests_report _ other) (isSome_lookup_report _ other caller).trans
      | resumeRouter other =>
        have hrests := rests_resumeRouter (r.taking met (.resumeRouter other)) other
        by_cases hother : caller = other
        · subst hother
          have hnone := hattended.ended (hsettled.standing caller) hready
          refine .inr ⟨fun id d hd => hnone id d ⟨?_, hd.2⟩, ?_⟩
          · rw [← hd.1]
            exact congrArg (·[id]?) hrests.deliveries.symm
          · exact pending_resumeRouter _ caller
        · exact htaken.rests hrests
            (congrArg Option.isSome (lookup_filter_ne_of_ne hother r.routerStops)).trans
      | consume id =>
        rw [perform_consume hworker]
        exact htaken
      | resume other =>
        rw [perform_resume hworker]
        exact htaken
    · exact h

theorem Closing.run (h : r.Closing caller) (hattended : r.Attended) (hsettled : r.Settled met)
    {turns : List RouterTurn} (hsend : ∀ t ∈ turns, t.isSend = false) :
    (r.routerRun met turns).Closing caller := by
  induction turns generalizing r with
  | nil => exact h
  | cons t turns ih =>
    obtain ⟨ht, hturns⟩ := List.forall_mem_cons.mp hsend
    exact ih (h.turn hattended hsettled ht) (hattended.turn hsettled (by simp [ht]))
      (hsettled.turn t) hturns

/-- When a stop returns and nothing was sent while it ran, no delivery is in flight. -/
theorem Attended.ended_run (h : r.Attended) (hsettled : r.Settled met)
    {during : List RouterTurn} (hsend : ∀ t ∈ during, t.isSend = false)
    (hreturned : (r.routerRun met (.stop caller :: during)).isWaiting caller = false) :
    (∀ id d, ¬ (r.routerRun met (.stop caller :: during)).InFlight id d) ∧
      (r.routerRun met (.stop caller :: during)).pending = [] := by
  have hstop : (r.routerTurn met (.stop caller)).Attended :=
    h.turn hsettled (by simp [RouterTurn.isSend])
  have hclosing : (r.routerRun met (.stop caller :: during)).Closing caller :=
    (h.closing_stop hsettled caller).run hstop (hsettled.turn _) hsend
  rw [(hsettled.run (.stop caller :: during)).accounted.isWaiting_eq] at hreturned
  exact hclosing.resolve_left fun hwaits => Bool.false_ne_true (hreturned.symm.trans hwaits)

/-- Before each stop of a calm run the deliveries are attended to. -/
theorem Attended.of_calm (h : r.Attended) (hsettled : r.Settled met) {before : List RouterTurn}
    {t : RouterTurn} {during : List RouterTurn} (ht : t.isStop = true)
    (hcalm : r.Calm met (before ++ t :: during)) : (r.routerRun met before).Attended := by
  induction before generalizing r with
  | nil => exact h
  | cons t' before ih =>
    obtain ⟨hsend, hcalm⟩ := hcalm
    exact ih (h.turn hsettled fun hsent => hsend hsent (by simp [ht])) (hsettled.turn t') hcalm

/-- Without a stop nobody waits. -/
theorem routerStops_turn (hworker : r.worker = {}) (hnone : r.routerStops = []) {t : RouterTurn}
    (ht : t.isStop = false) : (r.routerTurn met t).routerStops = [] := by
  cases t with
  | send e => exact (sends_send r e).routerStops.trans hnone
  | stop caller => cases ht
  | job job =>
    rw [routerTurn]
    split
    · have hworker' : (r.taking met job).worker = {} := hworker
      cases job with
      | deliver id => exact (changes_deliver _ id).routerStops.trans hnone
      | retire id => exact hnone
      | report caller =>
        have hlookup : (r.taking met (.report caller)).routerStops.lookup caller = none := by
          rw [taking, hnone, List.lookup_nil]
        rw [perform, Logged.value_pure, report, hlookup]
        exact hnone
      | resumeRouter caller =>
        show r.routerStops.filter _ = []
        rw [hnone, List.filter_nil]
      | consume id =>
        rw [perform_consume hworker']
        exact hnone
      | resume caller =>
        rw [perform_resume hworker']
        exact hnone
    · exact hnone

/-- A run with a single stop is calm. -/
theorem calm_of_countP_le_one (hworker : r.worker = {}) (hnone : r.routerStops = [])
    {turns : List RouterTurn} (hone : turns.countP RouterTurn.isStop ≤ 1) :
    r.Calm met turns := by
  -- after the only stop no other one follows
  have hafter : ∀ (turns : List RouterTurn) (r : Relay κ σ),
      turns.any RouterTurn.isStop = false → r.Calm met turns := by
    intro turns
    induction turns with
    | nil => exact fun _ _ => trivial
    | cons t turns ih =>
      intro r hstop
      rw [List.any_cons, Bool.or_eq_false_iff] at hstop
      exact ⟨fun _ hany => absurd (hstop.2.symm.trans hany) Bool.false_ne_true, ih _ hstop.2⟩
  induction turns generalizing r with
  | nil => trivial
  | cons t turns ih =>
    refine ⟨fun _ _ => hnone, ?_⟩
    rw [List.countP_cons] at hone
    cases ht : t.isStop with
    | true =>
      rw [ht, if_pos rfl] at hone
      refine hafter turns _ ?_
      rw [List.any_eq_false]
      exact List.countP_eq_zero.mp (by omega)
    | false =>
      rw [ht, if_neg Bool.false_ne_true] at hone
      exact ih ((wired_turn met hworker t).worker.trans hworker)
        (routerStops_turn hworker hnone ht) hone

end Relay

end AdmissionLedger
