import AdmissionLedger.Proofs.Lookup
import AdmissionLedger.Proofs.Relay.Delivery

/-!
# Routers at work

Events are sent, callers stop the router, and between this jobs run in any order.  Each
turn changes one delivery, lets some come to be, or leaves all of them as they are; from
this follows what the whole run has scheduled and what it has counted.

## Main definitions

* `RouterTurn`, `Relay.routerTurn`, `Relay.routerRun` — what can happen to a router, and its runs.
* `Relay.tally` — what the completed deliveries add to the counters.
* `Relay.Accounted` — the invariant: the counters say that, and nothing hangs that is completed.
* `Relay.Rests`, `Relay.Sends` — no delivery changes; the deliveries of an event come.

## Main results

* `Relay.perform_cases`, `Relay.beginRouterStop_eq` — what a job and a stop do.
* `Relay.Accounted.turn` — every turn keeps the accounts.
* `Relay.scheduled_run` — a run schedules the deliveries of what is sent, and no others.
-/

namespace AdmissionLedger

/-- What can happen to a router. -/
inductive RouterTurn
  | send (e : Event)
  /-- A caller stops the router. -/
  | stop (caller : Nat)
  /-- A job runs, if it stands in line. -/
  | job (job : Job)

namespace RouterTurn

/-- The event that is sent, if one is. -/
def sent? : RouterTurn → Option Event
  | send e => some e
  | _ => none

/-- Whether an event is sent. -/
def isSend : RouterTurn → Bool
  | send _ => true
  | _ => false

/-- Whether a caller stops the router. -/
def isStop : RouterTurn → Bool
  | stop _ => true
  | _ => false

end RouterTurn

variable {κ σ : Type}

/-- What a job finds outside: for each delivery it is given what that meets. -/
def Job.facing (met : Nat → σ) (outside : σ) : Job → σ
  | deliver id => met id
  | _ => outside

/-- What a delivery adds to the counters: once completed, one for its channel. -/
def DeliveryTask.tally (carrier : Carrier κ σ) (outside : σ) (d : DeliveryTask κ) :
    Option Counter :=
  if d.phase = .done then
    some (.notifications (carrier.name d.channel) (d.outcome carrier outside = some .sent))
  else none

/-- A delivery that is completed does not hang. -/
def DeliveryTask.Sincere (carrier : Carrier κ σ) (outside : σ) (d : DeliveryTask κ) : Prop :=
  d.phase = .done → d.outcome carrier outside ≠ none

namespace Relay

/-- A relay that is a router and nothing else. -/
def ofRouter (carrier : Carrier κ σ) (outside : σ) (router : Router κ) : Relay κ σ where
  carrier
  outside
  storage := .nowhere
  dispatch := some { router }

/-- A job leaves the line. -/
def taking (met : Nat → σ) (r : Relay κ σ) (job : Job) : Relay κ σ :=
  { r with ready := r.ready.erase job, outside := job.facing met r.outside }

/-- A turn of a router.  A caller that waits can do nothing else. -/
def routerTurn (met : Nat → σ) (r : Relay κ σ) : RouterTurn → Relay κ σ
  | .send e => (r.send e).2
  | .stop caller => if r.isWaiting caller then r else r.beginRouterStop caller
  | .job job => if job ∈ r.ready then ((r.taking met job).perform job).value else r

/-- Turn after turn. -/
def routerRun (met : Nat → σ) (r : Relay κ σ) (turns : List RouterTurn) : Relay κ σ :=
  turns.foldl (routerTurn met) r

/-- What the completed deliveries add to the counters. -/
def tally (r : Relay κ σ) (met : Nat → σ) : List Counter :=
  r.deliveries.zipIdx.filterMap fun entry => entry.1.tally r.carrier (met entry.2)

/-- What every turn keeps. -/
structure Accounted (r : Relay κ σ) (met : Nat → σ) : Prop where
  worker : r.worker = {}
  pending : ∀ id ∈ r.pending, id < r.deliveries.length
  retired : ∀ id, .retire id ∈ r.ready → ∃ d, r.deliveries[id]? = some d ∧ d.hasEnded = true
  counts : r.counts.Perm (r.tally met)
  sincere : ∀ id (d : DeliveryTask κ), r.deliveries[id]? = some d → d.Sincere r.carrier (met id)

variable {r r' : Relay κ σ} {met : Nat → σ} {id caller : Nat}

/-! ### Lists with one element changed -/

section

variable {α β : Type} {l : List α} {i : Nat} {a : α}

theorem exists_modify_eq (h : l[i]? = some a) (f : α → α) : ∃ before after,
    l = before ++ a :: after ∧ before.length = i ∧ l.modify i f = before ++ f a :: after := by
  obtain ⟨hlength, rfl⟩ := List.getElem?_eq_some_iff.mp h
  refine ⟨l.take i, l.drop (i + 1), ?_, ?_, List.modify_eq_take_cons_drop hlength⟩
  · rw [← List.drop_eq_getElem_cons hlength, List.take_append_drop]
  · rw [List.length_take]
    omega

theorem count_flatMap_modify [BEq β] (l : List α) (i : Nat) (f : α → α) (g : α → List β)
    (b : β) : ((l.modify i f).flatMap g).count b + l[i]?.elim 0 (fun a => (g a).count b) =
      (l.flatMap g).count b + l[i]?.elim 0 fun a => (g (f a)).count b := by
  cases hget : l[i]? with
  | none => rw [List.modify_eq_self (List.getElem?_eq_none_iff.mp hget), Option.elim, Option.elim]
  | some a =>
    obtain ⟨before, after, heq, -, hmodify⟩ := exists_modify_eq hget f
    rw [hmodify, heq]
    simp only [List.flatMap_append, List.flatMap_cons, List.count_append, Option.elim_some]
    omega

theorem perm_filterMap_zipIdx_modify {f : α → α} {g : α × Nat → Option β} {more : α → List β}
    (h : ∀ a, (g (f a, i)).toList = (g (a, i)).toList ++ more a) (l : List α) :
    ((l.modify i f).zipIdx.filterMap g).Perm (l.zipIdx.filterMap g ++ l[i]?.elim [] more) := by
  cases hget : l[i]? with
  | none =>
    rw [List.modify_eq_self (List.getElem?_eq_none_iff.mp hget), Option.elim_none,
      List.append_nil]
  | some a =>
    obtain ⟨before, after, heq, hlength, hmodify⟩ := exists_modify_eq hget f
    rw [hmodify, heq]
    simp only [List.filterMap_eq_flatMap_toList, List.zipIdx_append, List.zipIdx_cons, hlength,
      Nat.zero_add, List.flatMap_append, List.flatMap_cons, h, Option.elim_some, List.append_assoc]
    have hswap : (more a ++ (after.zipIdx (i + 1)).flatMap fun entry => (g entry).toList).Perm _ :=
      List.perm_append_comm
    exact (hswap.append_left _).append_left _

end

/-! ### One delivery changes -/

namespace Changes

variable {f : DeliveryTask κ → DeliveryTask κ} {jobs : DeliveryTask κ → List Job}
  {acts : DeliveryTask κ → List Act}

theorem length (h : Changes r r' id f jobs acts) :
    r'.deliveries.length = r.deliveries.length := by
  rw [h.deliveries, List.length_modify]

theorem getElem? (h : Changes r r' id f jobs acts) (i : Nat) :
    r'.deliveries[i]? = r.deliveries[i]?.map fun d => if id = i then f d else d := by
  rw [h.deliveries, List.getElem?_modify]
  rfl

theorem count (h : Changes r r' id f jobs acts) (job : Job) :
    r'.ready.count job =
      r.ready.count job + r.deliveries[id]?.elim 0 fun d => (jobs d).count job := by
  rw [h.ready, List.count_append]
  cases r.deliveries[id]? <;> rfl

theorem counts (h : Changes r r' id f jobs acts) :
    r'.counts = r.counts ++ r.deliveries[id]?.elim [] fun d => (acts d).flatMap Act.counts := by
  rw [Relay.counts, h.history, List.flatMap_append]
  cases r.deliveries[id]? <;> rfl

end Changes

/-- The delivery itself says what has become of it, and to whom a job refers that forgets one. -/
theorem Accounted.changes {f : DeliveryTask κ → DeliveryTask κ}
    {jobs : DeliveryTask κ → List Job} {acts : DeliveryTask κ → List Act}
    (h : r.Accounted met) (hchanges : Changes r r' id f jobs acts)
    (hended : ∀ d, d.hasEnded = true → (f d).hasEnded = true)
    (hretire : ∀ d i, .retire i ∈ jobs d → i = id ∧ (f d).hasEnded = true)
    (htally : ∀ d, ((f d).tally r.carrier (met id)).toList =
      (d.tally r.carrier (met id)).toList ++ (acts d).flatMap Act.counts)
    (hsincere : ∀ d, d.Sincere r.carrier (met id) → (f d).Sincere r.carrier (met id)) :
    r'.Accounted met where
  worker := hchanges.wired.worker.trans h.worker
  pending := by
    rw [hchanges.pending, hchanges.length]
    exact h.pending
  retired := by
    intro i hi
    rw [hchanges.getElem?]
    rw [hchanges.ready, List.mem_append] at hi
    rcases hi with hi | hi
    · obtain ⟨d, hget, hd⟩ := h.retired i hi
      refine ⟨_, by rw [hget]; rfl, ?_⟩
      split
      · exact hended d hd
      · exact hd
    · cases hget : r.deliveries[id]? with
      | none => simp [hget] at hi
      | some d =>
        rw [hget] at hi
        obtain ⟨rfl, hd⟩ := hretire d i hi
        exact ⟨f d, by rw [hget, Option.map_some, if_pos rfl], hd⟩
  counts := by
    rw [hchanges.counts, tally, hchanges.deliveries, hchanges.wired.carrier]
    exact (h.counts.append_right _).trans
      (perm_filterMap_zipIdx_modify htally r.deliveries).symm
  sincere := by
    intro i d' hget
    rw [hchanges.getElem?, Option.map_eq_some_iff] at hget
    obtain ⟨d, hget, rfl⟩ := hget
    have hd := h.sincere i d hget
    rw [hchanges.wired.carrier]
    split
    · next hid =>
      rw [← hid] at hd ⊢
      exact hsincere d hd
    · exact hd

/-! ### No delivery changes -/

/-- The deliveries are as before, the router knows of no other one, and the jobs that come in line
let callers go on. -/
structure Rests (r r' : Relay κ σ) : Prop where
  wired : Wired r r'
  deliveries : r'.deliveries = r.deliveries
  pending : r'.pending ⊆ r.pending
  history : r'.history = r.history
  ready : ∃ callers : List Nat, r'.ready = r.ready ++ callers.map .resumeRouter

theorem rests_refl (r : Relay κ σ) : Rests r r :=
  ⟨.refl r, rfl, List.Subset.refl _, rfl, [], by simp⟩

/-- A router forgets deliveries. -/
theorem rests_dispatch {f : Dispatch κ → Dispatch κ} (hrouter : ∀ p, (f p).router = p.router)
    (hdeliveries : ∀ p, (f p).deliveries = p.deliveries)
    (hpending : ∀ p, (f p).pending ⊆ p.pending) (stops : List (Nat × Nat)) :
    Rests r { r with dispatch := r.dispatch.map f, routerStops := stops } := by
  refine ⟨⟨rfl, ?_, rfl⟩, ?_, ?_, rfl, [], by simp⟩
  · funext e
    cases h : r.dispatch <;> simp [audience, h, hrouter]
  · cases h : r.dispatch <;> simp [deliveries, h, hdeliveries]
  · cases h : r.dispatch with
    | none => simp [pending, h]
    | some p => simpa [pending, h] using hpending p

theorem rests_retire (r : Relay κ σ) (id : Nat) : Rests r (r.retire id) :=
  rests_dispatch (f := fun p => { p with pending := p.pending.filter (· ≠ id) }) (fun _ => rfl)
    (fun _ => rfl) (fun _ _ h => List.mem_of_mem_filter h) r.routerStops

theorem rests_resumeRouter (r : Relay κ σ) (caller : Nat) : Rests r (r.resumeRouter caller) :=
  rests_dispatch (f := fun p => { p with pending := [] }) (fun _ => rfl) (fun _ => rfl)
    (fun _ => List.nil_subset _) _

theorem rests_report (r : Relay κ σ) (caller : Nat) : Rests r (r.report caller) := by
  unfold report
  cases r.routerStops.lookup caller with
  | none => exact rests_refl r
  | some left =>
    dsimp only
    split
    · exact ⟨⟨rfl, rfl, rfl⟩, rfl, List.Subset.refl _, rfl, [caller], rfl⟩
    · exact ⟨⟨rfl, rfl, rfl⟩, rfl, List.Subset.refl _, rfl, [], by simp⟩

/-- Where there are no consumers, jobs of consumers do nothing. -/
theorem perform_consume (hworker : r.worker = {}) (id : Nat) :
    (r.perform (.consume id)).value = r := by
  have hget : r.worker.get? id = none := by rw [hworker]; rfl
  rw [perform, consume, hget]
  rfl

theorem perform_resume (hworker : r.worker = {}) (caller : Nat) :
    (r.perform (.resume caller)).value = r := by
  have hover : r.worker.mayEndStop caller = false := by rw [hworker]; rfl
  rw [perform, resume, hover]
  rfl

/-- Where there are no consumers, only jobs of deliveries change deliveries. -/
theorem rests_perform (hworker : r.worker = {}) {job : Job} (hjob : ∀ id, job ≠ .deliver id) :
    Rests r (r.perform job).value := by
  cases job with
  | consume id =>
    rw [perform_consume hworker]
    exact rests_refl r
  | deliver id => exact absurd rfl (hjob id)
  | retire id => exact rests_retire r id
  | report caller => exact rests_report r caller
  | resume caller =>
    rw [perform_resume hworker]
    exact rests_refl r
  | resumeRouter caller => exact rests_resumeRouter r caller

theorem Accounted.rests (h : r.Accounted met) (hrests : Rests r r') : r'.Accounted met where
  worker := hrests.wired.worker.trans h.worker
  pending := fun id hid => by
    rw [hrests.deliveries]
    exact h.pending id (hrests.pending hid)
  retired := fun id hid => by
    obtain ⟨callers, hready⟩ := hrests.ready
    rw [hrests.deliveries]
    rw [hready] at hid
    exact h.retired id (by simpa using hid)
  counts := by
    rw [tally, hrests.deliveries, hrests.wired.carrier, Relay.counts, hrests.history]
    exact h.counts
  sincere := by
    rw [hrests.deliveries, hrests.wired.carrier]
    exact h.sincere

/-! ### Deliveries come -/

/-- The deliveries of an event. -/
def tasks (r : Relay κ σ) (e : Event) : List (DeliveryTask κ) :=
  (r.audience e).map fun entry => { channel := entry.1, event := entry.2 }

/-- The numbers that they get. -/
def newIds (r : Relay κ σ) (e : Event) : List Nat :=
  List.range' r.deliveries.length (r.tasks e).length

/-- What a send does. -/
structure Sends (r r' : Relay κ σ) (e : Event) : Prop where
  wired : Wired r r'
  deliveries : r'.deliveries = r.deliveries ++ r.tasks e
  pending : r'.pending = r.pending ++ r.newIds e
  routerStops : r'.routerStops = r.routerStops
  ready : r'.ready = r.ready ++ (r.newIds e).map .deliver
  history : r'.history = r.history

theorem sends_send (r : Relay κ σ) (e : Event) : Sends r (r.send e).2 e := by
  unfold send
  cases h : r.dispatch with
  | none => exact ⟨.refl r, by simp [tasks, audience, h], by simp [newIds, tasks, audience, h],
      rfl, by simp [newIds, tasks, audience, h], rfl⟩
  | some p => exact ⟨⟨rfl, by funext e; simp [audience, push, h], rfl⟩,
      by simp [deliveries, tasks, audience, push, h, Function.comp_def],
      by simp [pending, newIds, deliveries, tasks, audience, push, h], rfl,
      by simp [newIds, deliveries, tasks, audience, push, h], rfl⟩

theorem Accounted.sends {e : Event} (h : r.Accounted met) (hsends : Sends r r' e) :
    r'.Accounted met where
  worker := hsends.wired.worker.trans h.worker
  pending := by
    rw [hsends.pending, hsends.deliveries, List.length_append]
    intro id hid
    rcases List.mem_append.mp hid with hid | hid
    · exact Nat.lt_add_right _ (h.pending id hid)
    · exact (List.mem_range'_1.mp hid).2
  retired := by
    intro id hid
    rw [hsends.ready] at hid
    obtain ⟨d, hget, hd⟩ := h.retired id (by simpa using hid)
    refine ⟨d, ?_, hd⟩
    rw [hsends.deliveries, List.getElem?_append_left (List.getElem?_eq_some_iff.mp hget).1, hget]
  counts := by
    -- a delivery that was not begun counts for nothing
    have hnew : (((r.tasks e).zipIdx (0 + r.deliveries.length)).filterMap fun entry =>
        entry.1.tally r.carrier (met entry.2)) = [] := by
      rw [List.filterMap_eq_nil_iff]
      intro entry hentry
      obtain ⟨pair, -, hpair⟩ := List.mem_map.mp (List.fst_mem_of_mem_zipIdx hentry)
      rw [← hpair]
      rfl
    rw [tally, hsends.deliveries, hsends.wired.carrier, Relay.counts, hsends.history,
      List.zipIdx_append, List.filterMap_append, hnew, List.append_nil]
    exact h.counts
  sincere := by
    intro id d hget
    rw [hsends.deliveries, List.getElem?_append] at hget
    rw [hsends.wired.carrier]
    split at hget
    · exact h.sincere id d hget
    · obtain ⟨entry, -, rfl⟩ := List.mem_map.mp (List.mem_of_getElem? hget)
      exact fun hdone => by cases hdone

/-! ### Turns -/

open DeliveryTask

/-- A delivery is counted when it is completed, for what its channel returned. -/
theorem tally_advance (carrier : Carrier κ σ) (outside : σ) (d : DeliveryTask κ) :
    ((d.advance carrier outside).tally carrier outside).toList =
      (d.tally carrier outside).toList ++
        (d.advanceActs carrier outside).flatMap Act.counts := by
  cases hended : d.hasEnded with
  | true => rw [advance_of_hasEnded hended, advanceActs_of_hasEnded hended, List.flatMap_nil,
      List.append_nil]
  | false =>
    have hnone : d.tally carrier outside = none := by
      refine if_neg fun hdone => ?_
      rw [hasEnded_eq, hdone] at hended
      cases hended
    rw [advance_of_next hended rfl, advanceActs_of_next hended rfl, hnone]
    unfold DeliveryTask.tally
    dsimp only
    split
    · next hdone =>
      obtain ⟨result, hresult⟩ := exists_outcome_of_next hdone
      rw [outcome] at hresult
      simp only [outcome, hresult]
      cases result <;> rfl
    · rfl

theorem sincere_advance (carrier : Carrier κ σ) (outside : σ) (d : DeliveryTask κ)
    (h : d.Sincere carrier outside) : (d.advance carrier outside).Sincere carrier outside := by
  cases hended : d.hasEnded with
  | true => rwa [advance_of_hasEnded hended]
  | false =>
    rw [advance_of_next hended rfl]
    intro hdone
    obtain ⟨result, hresult⟩ := exists_outcome_of_next hdone
    exact fun hnone => by cases hresult.symm.trans hnone

theorem tally_ask (carrier : Carrier κ σ) (outside : σ) (d : DeliveryTask κ) :
    d.ask.tally carrier outside = d.tally carrier outside := by
  unfold ask
  split <;> rfl

theorem tally_watchedBy (carrier : Carrier κ σ) (outside : σ) (caller : Nat)
    (d : DeliveryTask κ) :
    (d.watchedBy caller).tally carrier outside = d.tally carrier outside := by
  unfold watchedBy
  split <;> rfl

theorem Accounted.deliver (h : r.Accounted met)
    (hchanges : Changes r r' id (advance r.carrier (met id)) (advanceJobs r.carrier (met id) id)
      (advanceActs r.carrier (met id))) : r'.Accounted met := by
  refine h.changes hchanges (fun d hd => ?_) (fun d i => mem_advanceJobs_retire)
    (tally_advance r.carrier (met id)) (sincere_advance r.carrier (met id))
  rwa [advance_of_hasEnded hd]

theorem Accounted.cancelDelivery (h : r.Accounted met) (id : Nat) :
    (r.cancelDelivery id).Accounted met := by
  refine h.changes (changes_cancelDelivery r id) (fun d hd => ?_) (fun d i hi => ?_)
    (fun d => ?_) fun d hd => ?_
  · rwa [hasEnded_ask]
  · simp [askJobs] at hi
  · rw [tally_ask, List.flatMap_nil, List.append_nil]
  · unfold ask
    split <;> exact hd

theorem Accounted.watch (h : r.Accounted met) (caller id : Nat) :
    (r.watch caller id).Accounted met := by
  refine h.changes (changes_watch r caller id) (fun d hd => ?_) (fun d i hi => ?_)
    (fun d => ?_) fun d hd => ?_
  · rwa [hasEnded_watchedBy]
  · simp [watchJobs] at hi
  · rw [tally_watchedBy, List.flatMap_nil, List.append_nil]
  · unfold watchedBy
    split <;> exact hd

/-- A stop asks all deliveries that the router knows of to end, and begins to wait for them. -/
theorem beginRouterStop_eq (r : Relay κ σ) (caller : Nat) : r.beginRouterStop caller =
    if r.pending = [] then r
    else r.pending.foldl (fun r id => r.watch caller id)
      { r.pending.foldl cancelDelivery r with routerStops :=
          (r.pending.foldl cancelDelivery r).routerStops ++ [(caller, r.pending.length)] } := by
  unfold beginRouterStop pending
  cases r.dispatch with
  | none => rfl
  | some p => cases hpending : p.pending <;> simp [hpending]

theorem Accounted.beginRouterStop (h : r.Accounted met) (caller : Nat) :
    (r.beginRouterStop caller).Accounted met :=
  beginRouterStop_induction (motive := (Accounted · met)) h
    (fun _ id h => h.cancelDelivery id)
    (fun _ _ h => h.rests ⟨⟨rfl, rfl, rfl⟩, rfl, List.Subset.refl _, rfl, [], by simp⟩)
    fun _ id h => h.watch caller id

theorem Accounted.taking (h : r.Accounted met) (job : Job) : (r.taking met job).Accounted met where
  worker := h.worker
  pending := h.pending
  retired := fun id hid => h.retired id (List.mem_of_mem_erase hid)
  counts := h.counts
  sincere := h.sincere

/-- What a job does that has left the line. -/
theorem perform_cases (met : Nat → σ) (hworker : r.worker = {}) (job : Job) :
    (∃ id, job = .deliver id ∧ Changes (r.taking met job) ((r.taking met job).perform job).value id
      (advance r.carrier (met id)) (advanceJobs r.carrier (met id) id)
      (advanceActs r.carrier (met id))) ∨
    (∀ id, job ≠ .deliver id) ∧
      Rests (r.taking met job) ((r.taking met job).perform job).value := by
  by_cases hjob : ∃ id, job = .deliver id
  · obtain ⟨id, rfl⟩ := hjob
    exact .inl ⟨id, rfl, changes_deliver _ id⟩
  · have htaken : (r.taking met job).worker = {} := hworker
    exact .inr ⟨not_exists.mp hjob, rests_perform htaken (not_exists.mp hjob)⟩

theorem Accounted.turn (h : r.Accounted met) (t : RouterTurn) :
    (r.routerTurn met t).Accounted met := by
  cases t with
  | send e => exact h.sends (sends_send r e)
  | stop caller =>
    rw [routerTurn]
    split
    · exact h
    · exact h.beginRouterStop caller
  | job job =>
    rw [routerTurn]
    split
    · rcases perform_cases met h.worker job with ⟨id, rfl, hchanges⟩ | ⟨-, hrests⟩
      · exact (h.taking (.deliver id)).deliver hchanges
      · exact (h.taking job).rests hrests
    · exact h

/-! ### Who delivers, and what is scheduled -/

theorem wired_beginRouterStop (r : Relay κ σ) (caller : Nat) :
    Wired r (r.beginRouterStop caller) :=
  beginRouterStop_induction (.refl r) (fun r' id h => h.trans (changes_cancelDelivery r' id).wired)
    (fun _ _ h => ⟨h.carrier, h.audience, h.worker⟩)
    fun r' id h => h.trans (changes_watch r' caller id).wired

theorem wired_taking (met : Nat → σ) (r : Relay κ σ) (job : Job) : Wired r (r.taking met job) :=
  ⟨rfl, rfl, rfl⟩

theorem wired_turn (met : Nat → σ) (hworker : r.worker = {}) (t : RouterTurn) :
    Wired r (r.routerTurn met t) := by
  cases t with
  | send e => exact (sends_send r e).wired
  | stop caller =>
    rw [routerTurn]
    split
    · exact .refl r
    · exact wired_beginRouterStop r caller
  | job job =>
    rw [routerTurn]
    split
    · have htaken := wired_taking met r job
      rcases perform_cases met hworker job with ⟨id, -, hchanges⟩ | ⟨-, hrests⟩
      · exact htaken.trans hchanges.wired
      · exact htaken.trans hrests.wired
    · exact .refl r

theorem wired_run (met : Nat → σ) (hworker : r.worker = {}) (turns : List RouterTurn) :
    Wired r (r.routerRun met turns) :=
  List.foldlRecOn (motive := Wired r) turns _ (.refl r) fun _ h t _ =>
    h.trans (wired_turn met (h.worker.trans hworker) t)

/-- Only a send schedules deliveries, and those of its event only. -/
theorem scheduled_turn (met : Nat → σ) (hworker : r.worker = {}) (t : RouterTurn) :
    (r.routerTurn met t).scheduled = r.scheduled ++ t.sent?.toList.flatMap r.audience := by
  cases t with
  | send e =>
    rw [routerTurn, scheduled_eq, (sends_send r e).deliveries, List.map_append, ← scheduled_eq]
    simp [tasks, RouterTurn.sent?, Function.comp_def]
  | stop caller =>
    rw [routerTurn]
    split
    · simp [RouterTurn.sent?]
    · simp [RouterTurn.sent?, (aside_beginRouterStop r caller).scheduled]
  | job job =>
    rw [routerTurn]
    split
    · have hperform : ((r.taking met job).perform job).value.scheduled = r.scheduled := by
        rcases perform_cases met hworker job with ⟨id, rfl, -⟩ | ⟨-, hrests⟩
        · exact (aside_deliver _ id).scheduled
        · rw [scheduled_eq, hrests.deliveries, scheduled_eq]
          rfl
      simp [RouterTurn.sent?, hperform]
    · simp [RouterTurn.sent?]

theorem scheduled_run (met : Nat → σ) (hworker : r.worker = {}) (turns : List RouterTurn) :
    (r.routerRun met turns).scheduled =
      r.scheduled ++ (turns.filterMap RouterTurn.sent?).flatMap r.audience := by
  induction turns generalizing r with
  | nil => simp [routerRun]
  | cons t turns ih =>
    have hwired := wired_turn met hworker t
    rw [routerRun, List.foldl_cons]
    refine (ih (hwired.worker.trans hworker)).trans ?_
    rw [scheduled_turn met hworker, hwired.audience, List.append_assoc, List.filterMap_cons]
    cases t.sent? <;> simp

end Relay

end AdmissionLedger
