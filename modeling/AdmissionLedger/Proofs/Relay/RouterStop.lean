import AdmissionLedger.Proofs.Relay.Router

/-!
# Stops of a router

A caller that stops the router is told of the end of every delivery it waits for, and goes
on after the last.  It knows their number only, so the number must at all times be that of
the deliveries it still waits for and of the ends it is about to be told of.

## Main definitions

* `Relay.awaited` — the ends that a caller has not been told of.
* `Relay.Standing` — the invariant: these are as many as the caller reckons with.
* `Relay.Stirs` — nothing that concerns callers who go on or come.
* `Relay.askAll`, `Relay.enlist` — how a stop begins.

## Main results

* `Relay.Standing.turn` — every turn keeps the numbers of all callers right.
* `Relay.Standing.told` — a caller that goes on was told of all ends.
-/

namespace AdmissionLedger.Relay

open DeliveryTask

variable {κ σ : Type} {r r' r'' : Relay κ σ} {met : Nat → σ} {id caller c : Nat} {job : Job}

/-! ### What a caller waits for -/

/-- The ends of deliveries that a caller has not been told of. -/
def awaited (r : Relay κ σ) (caller : Nat) : Nat :=
  (r.deliveries.flatMap (·.watchers)).count caller + r.ready.count (.report caller)

/-- A caller knows how many ends it has not been told of, and after the last one a job stands in
line that lets it go on. -/
structure Standing (r : Relay κ σ) (caller : Nat) : Prop where
  awaited : r.awaited caller = (r.routerStops.lookup caller).getD 0
  resume : r.ready.count (.resumeRouter caller) =
    if r.routerStops.lookup caller = some 0 then 1 else 0

/-- What a caller waits for is in its number, the deliveries and the jobs that refer to it. -/
theorem Standing.of_same (h : r.Standing caller) (hawaited : r'.awaited caller = r.awaited caller)
    (hstops : r'.routerStops.lookup caller = r.routerStops.lookup caller)
    (hresume : r'.ready.count (.resumeRouter caller) = r.ready.count (.resumeRouter caller)) :
    r'.Standing caller where
  awaited := by rw [hawaited, hstops, h.awaited]
  resume := by rw [hresume, hstops, h.resume]

/-- No caller goes on or comes. -/
structure Stirs (r r' : Relay κ σ) : Prop where
  length : r'.deliveries.length = r.deliveries.length
  pending : r'.pending = r.pending
  routerStops : r'.routerStops = r.routerStops
  resume : ∀ c, r'.ready.count (.resumeRouter c) = r.ready.count (.resumeRouter c)

namespace Stirs

theorem refl (r : Relay κ σ) : Stirs r r :=
  ⟨rfl, rfl, rfl, fun _ => rfl⟩

theorem trans (h : Stirs r r') (h' : Stirs r' r'') : Stirs r r'' :=
  ⟨h'.length.trans h.length, h'.pending.trans h.pending, h'.routerStops.trans h.routerStops,
    fun c => (h'.resume c).trans (h.resume c)⟩

theorem foldl {step : Relay κ σ → Nat → Relay κ σ} (h : ∀ r id, Stirs r (step r id))
    (ids : List Nat) (r : Relay κ σ) : Stirs r (ids.foldl step r) :=
  List.foldlRecOn (motive := Stirs r) ids step (.refl r) fun r' hr' id _ => hr'.trans (h r' id)

end Stirs

/-! ### One delivery changes -/

section

variable {f : DeliveryTask κ → DeliveryTask κ} {jobs : DeliveryTask κ → List Job}
  {acts : DeliveryTask κ → List Act}

theorem Changes.stirs (h : Changes r r' id f jobs acts)
    (hjobs : ∀ d c, .resumeRouter c ∉ jobs d) : Stirs r r' := by
  refine ⟨h.length, h.pending, h.routerStops, fun c => ?_⟩
  rw [h.count]
  cases r.deliveries[id]? with
  | none => rfl
  | some d => rw [Option.elim_some, List.count_eq_zero.mpr (hjobs d c), Nat.add_zero]

theorem Changes.awaited (h : Changes r r' id f jobs acts) (caller : Nat) :
    r'.awaited caller + r.deliveries[id]?.elim 0 (fun d => d.watchers.count caller) =
      r.awaited caller + r.deliveries[id]?.elim 0 fun d =>
        (f d).watchers.count caller + (jobs d).count (.report caller) := by
  have hwatching := count_flatMap_modify r.deliveries id f (·.watchers) caller
  have hcount := h.count (.report caller)
  rw [← h.deliveries] at hwatching
  unfold Relay.awaited
  cases hget : r.deliveries[id]? with
  | none =>
    simp only [hget, Option.elim_none] at hwatching hcount ⊢
    omega
  | some d =>
    simp only [hget, Option.elim_some] at hwatching hcount ⊢
    omega

/-- A delivery that passes those who wait for it on changes nothing for them. -/
theorem Changes.awaited_eq (h : Changes r r' id f jobs acts) {caller : Nat}
    (hpass : ∀ d, (f d).watchers.count caller + (jobs d).count (.report caller) =
      d.watchers.count caller) : r'.awaited caller = r.awaited caller := by
  have hawaited := h.awaited caller
  simp only [hpass] at hawaited
  omega

end

theorem not_mem_advanceJobs (carrier : Carrier κ σ) (outside : σ) (id : Nat) (d : DeliveryTask κ)
    (c : Nat) : .resumeRouter c ∉ d.advanceJobs carrier outside id := by
  unfold advanceJobs
  simp only
  split_ifs <;> simp

theorem count_advance (carrier : Carrier κ σ) (outside : σ) (id caller : Nat)
    (d : DeliveryTask κ) : (d.advance carrier outside).watchers.count caller +
      (d.advanceJobs carrier outside id).count (.report caller) = d.watchers.count caller := by
  cases hended : d.hasEnded with
  | true => rw [advance_of_hasEnded hended, advanceJobs_of_hasEnded hended, List.count_nil,
      Nat.add_zero]
  | false =>
    rw [advance_of_next hended rfl, advanceJobs_of_next hended rfl]
    dsimp only
    split
    · have hinjective : Function.Injective Job.report := fun _ _ h => Job.report.inj h
      rw [List.count_nil, Nat.zero_add, List.count_cons_of_ne (by simp),
        List.count_map_of_injective _ _ hinjective]
    · split <;> simp

theorem Standing.deliver {carrier : Carrier κ σ} {outside : σ} {acts : DeliveryTask κ → List Act}
    (h : r.Standing caller) (hchanges : Changes r r' id (advance carrier outside)
      (advanceJobs carrier outside id) acts) : r'.Standing caller := by
  have hstirs := hchanges.stirs (not_mem_advanceJobs carrier outside id)
  exact h.of_same (hchanges.awaited_eq (count_advance carrier outside id caller))
    (by rw [hstirs.routerStops]) (hstirs.resume caller)

theorem stirs_cancelDelivery (r : Relay κ σ) (id : Nat) : Stirs r (r.cancelDelivery id) := by
  refine (changes_cancelDelivery r id).stirs fun d c => ?_
  rw [askJobs]
  split <;> simp

theorem awaited_cancelDelivery (r : Relay κ σ) (id caller : Nat) :
    (r.cancelDelivery id).awaited caller = r.awaited caller := by
  refine (changes_cancelDelivery r id).awaited_eq fun d => ?_
  have hwatchers : d.ask.watchers = d.watchers := by
    unfold ask
    split <;> rfl
  rw [hwatchers, askJobs]
  split <;> simp

theorem stirs_watch (caller : Nat) (r : Relay κ σ) (id : Nat) : Stirs r (r.watch caller id) := by
  refine (changes_watch r caller id).stirs fun d c => ?_
  rw [watchJobs]
  split <;> simp

theorem count_watchedBy (caller c : Nat) (d : DeliveryTask κ) :
    (d.watchedBy caller).watchers.count c + (d.watchJobs caller).count (.report c) =
      d.watchers.count c + if c = caller then 1 else 0 := by
  unfold watchedBy watchJobs
  by_cases hc : c = caller
  · subst hc
    split <;> simp
  · split <;> simp [Ne.symm hc]

/-- A caller that begins to wait for deliveries waits for one end of each. -/
theorem awaited_foldl_watch (caller c : Nat) {ids : List Nat} {r : Relay κ σ}
    (hids : ∀ id ∈ ids, id < r.deliveries.length) :
    (ids.foldl (watch · caller) r).awaited c =
      r.awaited c + if c = caller then ids.length else 0 := by
  induction ids generalizing r with
  | nil => simp
  | cons id ids ih =>
    obtain ⟨hid, hids⟩ := List.forall_mem_cons.mp hids
    have hchanges := changes_watch r caller id
    have hawaited := hchanges.awaited c
    rw [List.foldl_cons, ih (by rwa [hchanges.length])]
    simp only [List.getElem?_eq_getElem hid, Option.elim_some, count_watchedBy] at hawaited
    rw [List.length_cons]
    split_ifs at hawaited ⊢ <;> omega

/-! ### The beginning of a stop -/

/-- All deliveries that the router knows of are asked to end. -/
def askAll (r : Relay κ σ) : Relay κ σ :=
  r.pending.foldl cancelDelivery r

/-- A caller is going to wait for the ends of the deliveries that the router knows of. -/
def enlist (r : Relay κ σ) (caller : Nat) : Relay κ σ :=
  { r with routerStops := r.routerStops ++ [(caller, r.pending.length)] }

theorem stirs_askAll (r : Relay κ σ) : Stirs r r.askAll :=
  .foldl stirs_cancelDelivery r.pending r

theorem awaited_askAll (r : Relay κ σ) (c : Nat) : r.askAll.awaited c = r.awaited c :=
  List.foldlRecOn (motive := fun r' : Relay κ σ => r'.awaited c = r.awaited c) r.pending _ rfl
    fun r' hr' id _ => (awaited_cancelDelivery r' id c).trans hr'

/-- A stop of a router that knows of deliveries. -/
theorem beginRouterStop_of_pending (hpending : r.pending ≠ []) (caller : Nat) :
    r.beginRouterStop caller =
      r.pending.foldl (watch · caller) (r.askAll.enlist caller) := by
  rw [beginRouterStop_eq, if_neg hpending, enlist, (stirs_askAll r).pending]
  rfl

theorem stirs_beginRouterStop (hpending : r.pending ≠ []) (caller : Nat) :
    Stirs (r.askAll.enlist caller) (r.beginRouterStop caller) := by
  rw [beginRouterStop_of_pending hpending]
  exact .foldl (stirs_watch caller) r.pending _

theorem routerStops_beginRouterStop (hpending : r.pending ≠ []) (caller : Nat) :
    (r.beginRouterStop caller).routerStops = r.routerStops ++ [(caller, r.pending.length)] := by
  have hask := stirs_askAll r
  rw [(stirs_beginRouterStop hpending caller).routerStops, enlist, hask.routerStops, hask.pending]

theorem awaited_beginRouterStop (hpending : r.pending ≠ [])
    (hvalid : ∀ id ∈ r.pending, id < r.deliveries.length) (caller c : Nat) :
    (r.beginRouterStop caller).awaited c =
      r.awaited c + if c = caller then r.pending.length else 0 := by
  have hvalid' : ∀ id ∈ r.pending, id < (r.askAll.enlist caller).deliveries.length :=
    fun id hid => lt_of_lt_of_eq (hvalid id hid) (stirs_askAll r).length.symm
  rw [beginRouterStop_of_pending hpending, awaited_foldl_watch caller c hvalid',
    ← awaited_askAll r c]
  rfl

/-- A stop counts the deliveries that its caller begins to wait for. -/
theorem Standing.beginRouterStop (h : r.Standing c)
    (hvalid : ∀ id ∈ r.pending, id < r.deliveries.length)
    (hidle : r.routerStops.lookup caller = none) : (r.beginRouterStop caller).Standing c := by
  by_cases hpending : r.pending = []
  · rwa [beginRouterStop_eq, if_pos hpending]
  have hawaited := awaited_beginRouterStop hpending hvalid caller c
  have hresume : (r.beginRouterStop caller).ready.count (.resumeRouter c) =
      r.ready.count (.resumeRouter c) :=
    ((stirs_beginRouterStop hpending caller).resume c).trans ((stirs_askAll r).resume c)
  have hstops := routerStops_beginRouterStop hpending caller
  by_cases hc : c = caller
  · subst hc
    have hlookup : (r.beginRouterStop c).routerStops.lookup c = some r.pending.length := by
      rw [hstops, List.lookup_append, hidle, List.lookup_cons_self, Option.none_or]
    have hlength : r.pending.length ≠ 0 := mt List.length_eq_zero_iff.mp hpending
    constructor
    · rw [hawaited, hlookup, h.awaited, hidle, if_pos rfl, Option.getD_none, Nat.zero_add,
        Option.getD_some]
    · rw [hresume, hlookup, h.resume, hidle, if_neg (by simp), if_neg (by simpa using hlength)]
  · refine h.of_same (by rw [hawaited, if_neg hc, Nat.add_zero]) ?_ hresume
    rw [hstops, List.lookup_append, List.lookup_singleton, if_neg (by simpa using hc),
      Option.or_none]

/-! ### Callers that are told -/

theorem ready_report {left : Nat} (h : r.routerStops.lookup caller = some left) :
    (r.report caller).ready = r.ready ++ if left ≤ 1 then [.resumeRouter caller] else [] := by
  unfold report
  rw [h]
  dsimp only
  split
  · rfl
  · rw [List.append_nil]

theorem lookup_report {left : Nat} (h : r.routerStops.lookup caller = some left) (c : Nat) :
    (r.report caller).routerStops.lookup c =
      if c = caller then some (left - 1) else r.routerStops.lookup c := by
  have hstops : (r.report caller).routerStops =
      r.routerStops.map fun entry => (entry.1, if entry.1 = caller then left - 1 else entry.2) := by
    unfold report
    rw [h]
    dsimp only
    split <;> rfl
  rw [hstops, lookup_map fun c n => if c = caller then left - 1 else n]
  by_cases hc : c = caller
  · simp [hc, h]
  · simp [hc]

theorem isSome_lookup_report (r : Relay κ σ) (caller c : Nat) :
    ((r.report caller).routerStops.lookup c).isSome = (r.routerStops.lookup c).isSome := by
  cases hlookup : r.routerStops.lookup caller with
  | none => rw [report, hlookup]
  | some left =>
    rw [lookup_report hlookup]
    split
    · next hc => rw [hc, hlookup, Option.isSome_some, Option.isSome_some]
    · rfl

/-- A caller is told of an end. -/
theorem Standing.report (h : ∀ c, r.Standing c) (hready : .report caller ∈ r.ready) (c : Nat) :
    ((r.taking met (.report caller)).report caller).Standing c := by
  have hcount : 0 < r.ready.count (.report caller) := List.count_pos_iff.mpr hready
  have hawaited := (h caller).awaited
  have hresume := (h caller).resume
  have hdeliveries := (rests_report (r.taking met (.report caller)) caller).deliveries
  cases hlookup : r.routerStops.lookup caller with
  | none =>
    rw [hlookup, Relay.awaited, Option.getD_none] at hawaited
    omega
  | some left =>
    rw [hlookup, Relay.awaited, Option.getD_some] at hawaited
    rw [hlookup, if_neg (by simp; omega)] at hresume
    have htaken : (r.taking met (.report caller)).routerStops.lookup caller = some left := hlookup
    have hreports : ∀ c, ((r.taking met (.report caller)).report caller).ready.count (.report c) =
        (r.ready.erase (.report caller)).count (.report c) := fun c => by
      rw [ready_report htaken, List.count_append, taking]
      split <;> simp
    by_cases hc : c = caller
    · subst hc
      constructor
      · rw [lookup_report htaken, if_pos rfl, Option.getD_some, Relay.awaited, hdeliveries,
          hreports, List.count_erase_self]
        show (r.deliveries.flatMap _).count _ + _ = _
        omega
      · rw [lookup_report htaken, if_pos rfl, ready_report htaken, List.count_append, taking,
          List.count_erase_of_ne (by simp), hresume]
        by_cases hlast : left ≤ 1
        · rw [if_pos hlast, if_pos (congrArg some (by omega)), List.count_singleton_self]
        · rw [if_neg hlast, if_neg fun heq => hlast (by have := Option.some.inj heq; omega),
            List.count_nil]
    · refine (h c).of_same ?_ (by rw [lookup_report htaken, if_neg hc]; rfl) ?_
      · rw [Relay.awaited, hdeliveries, hreports, List.count_erase_of_ne (by simpa using hc)]
        rfl
      · rw [ready_report htaken, List.count_append, taking, List.count_erase_of_ne (by simp)]
        split <;> simp [Ne.symm hc]

/-- A caller that goes on was told of all ends. -/
theorem Standing.told (h : r.Standing caller) (hready : .resumeRouter caller ∈ r.ready) :
    r.routerStops.lookup caller = some 0 ∧ r.awaited caller = 0 ∧
      r.ready.count (.resumeRouter caller) = 1 := by
  have hcount : r.ready.count (.resumeRouter caller) ≠ 0 :=
    Nat.pos_iff_ne_zero.mp (List.count_pos_iff.mpr hready)
  have hlookup : r.routerStops.lookup caller = some 0 := by
    by_contra hne
    exact hcount (h.resume.trans (if_neg hne))
  exact ⟨hlookup, by rw [h.awaited, hlookup, Option.getD_some],
    by rw [h.resume, if_pos hlookup]⟩

/-- A caller goes on. -/
theorem Standing.resumeRouter (h : ∀ c, r.Standing c) (hready : .resumeRouter caller ∈ r.ready)
    (c : Nat) : ((r.taking met (.resumeRouter caller)).resumeRouter caller).Standing c := by
  obtain ⟨-, htold, hone⟩ := (h caller).told hready
  have hawaited : ((r.taking met (.resumeRouter caller)).resumeRouter caller).awaited c =
      r.awaited c := by
    rw [Relay.awaited, (rests_resumeRouter (r.taking met (.resumeRouter caller)) caller).deliveries]
    show _ + (r.ready.erase (.resumeRouter caller)).count (.report c) = _
    rw [List.count_erase_of_ne (by simp)]
    rfl
  by_cases hc : c = caller
  · subst hc
    have hlookup : ((r.taking met (.resumeRouter c)).resumeRouter c).routerStops.lookup c = none :=
      lookup_filter_ne_self c r.routerStops
    constructor
    · rw [hawaited, hlookup, htold, Option.getD_none]
    · show (r.ready.erase (.resumeRouter c)).count (.resumeRouter c) = _
      rw [hlookup, List.count_erase_self, hone, if_neg (by simp)]
  · exact (h c).of_same hawaited (lookup_filter_ne_of_ne hc r.routerStops)
      (List.count_erase_of_ne (by simpa using hc))

theorem Standing.taking (h : r.Standing c) (hreport : job ≠ .report c)
    (hresume : job ≠ .resumeRouter c) : (r.taking met job).Standing c := by
  refine h.of_same ?_ rfl (List.count_erase_of_ne hresume.symm)
  show _ + (r.ready.erase job).count (.report c) = _
  rw [List.count_erase_of_ne hreport.symm]
  rfl

theorem Standing.send (h : r.Standing c) (e : Event) : (r.send e).2.Standing c := by
  have hsends := sends_send r e
  have hjobs : ∀ job, (∀ id, job ≠ .deliver id) →
      (r.send e).2.ready.count job = r.ready.count job := fun job hjob => by
    have hnone : job ∉ (r.newIds e).map .deliver := by
      simpa using fun id _ => (hjob id).symm
    rw [hsends.ready, List.count_append, List.count_eq_zero.mpr hnone, Nat.add_zero]
  refine h.of_same ?_ (by rw [hsends.routerStops]) (hjobs _ (by simp))
  -- nobody waits for a new delivery
  have hnew : (r.tasks e).flatMap (·.watchers) = [] := by
    rw [List.flatMap_eq_nil_iff]
    intro d hd
    obtain ⟨entry, -, rfl⟩ := List.mem_map.mp hd
    rfl
  rw [Relay.awaited, Relay.awaited, hsends.deliveries, List.flatMap_append, hnew,
    List.append_nil, hjobs _ (by simp)]

theorem Accounted.isWaiting_eq (h : r.Accounted met) (caller : Nat) :
    r.isWaiting caller = (r.routerStops.lookup caller).isSome := by
  rw [isWaiting, h.worker]
  rfl

/-- The number and the jobs of a caller are right whatever happens. -/
theorem Standing.turn (hacc : r.Accounted met) (h : ∀ c, r.Standing c) (t : RouterTurn) (c : Nat) :
    (r.routerTurn met t).Standing c := by
  cases t with
  | send e => exact (h c).send e
  | stop caller =>
    rw [routerTurn]
    split
    · exact h c
    · next hidle =>
      rw [hacc.isWaiting_eq, Bool.not_eq_true, Option.isSome_eq_false_iff,
        Option.isNone_iff_eq_none] at hidle
      exact (h c).beginRouterStop hacc.pending hidle
  | job job =>
    rw [routerTurn]
    split
    · next hready =>
      have hworker : (r.taking met job).worker = {} := hacc.worker
      cases job with
      | report caller => exact Standing.report h hready c
      | resumeRouter caller => exact Standing.resumeRouter h hready c
      | deliver id =>
        exact ((h c).taking (by simp) (by simp)).deliver (changes_deliver _ id)
      | retire id =>
        have htaken : (r.taking met (.retire id)).Standing c := (h c).taking (by simp) (by simp)
        have hdeliveries := (rests_retire (r.taking met (.retire id)) id).deliveries
        refine htaken.of_same ?_ rfl rfl
        show (((r.taking met (.retire id)).retire id).deliveries.flatMap _).count _ + _ = _
        rw [hdeliveries]
        rfl
      | consume id =>
        rw [perform_consume hworker]
        exact (h c).taking (by simp) (by simp)
      | resume id =>
        rw [perform_resume hworker]
        exact (h c).taking (by simp) (by simp)
    · exact h c

end AdmissionLedger.Relay
