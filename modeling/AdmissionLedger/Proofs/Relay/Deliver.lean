import AdmissionLedger.Relay.Run

/-!
# Deliveries leave consumers alone

Whatever deliveries and callers that stop the router do, the queue, the store and the
consumers are as before.  No delivery comes or goes by it, jobs that stand in line stay
there, and what is done is done by channels.

## Main definitions

* `Relay.scheduled`, `Relay.audience` — the deliveries that there ever were, and those of an
  event.
* `Relay.Aside` — what stays as it is.

## Main results

* `Relay.aside_deliver`, `Relay.aside_retire`, `Relay.aside_report` — jobs of deliveries.
* `Relay.beginRouterStop_induction` — all that a stop of the router does.
* `Relay.aside_beginRouterStop`, `Relay.aside_resumeRouter` — stops of the router.
-/

namespace AdmissionLedger

/-- Whether a channel does this. -/
def Act.isOfChannel : Act → Bool
  | delivered .. => true
  | _ => false

namespace Relay

variable {κ σ : Type}

/-- All deliveries that were ever scheduled, in the order of their creation. -/
def scheduled (r : Relay κ σ) : List (κ × Event) :=
  r.dispatch.toList.flatMap fun p => p.deliveries.map fun d => (d.channel, d.event)

/-- The deliveries of an event. -/
def audience (r : Relay κ σ) (e : Event) : List (κ × Event) :=
  r.dispatch.toList.flatMap fun p => (p.router.audience e).map fun channel => (channel, e)

variable {r r' r'' : Relay κ σ} {id : Nat}

/-- The queue, the store and the consumers are as before, and so are the deliveries but for how far
they are. -/
structure Aside (r r' : Relay κ σ) : Prop where
  worker : r'.worker = r.worker
  queue : r'.queue = r.queue
  storage : r'.storage = r.storage
  line : r'.line = r.line
  depth : r'.depth = r.depth
  audience : r'.audience = r.audience
  scheduled : r'.scheduled = r.scheduled
  ready : r.ready <+: r'.ready
  history : ∃ acts, r'.history = r.history ++ acts ∧ ∀ act ∈ acts, act.isOfChannel = true

namespace Aside

theorem refl (r : Relay κ σ) : Aside r r :=
  ⟨rfl, rfl, rfl, rfl, rfl, rfl, rfl, List.prefix_refl _, [], by simp⟩

theorem trans (h : Aside r r') (h' : Aside r' r'') : Aside r r'' where
  worker := h'.worker.trans h.worker
  queue := h'.queue.trans h.queue
  storage := h'.storage.trans h.storage
  line := h'.line.trans h.line
  depth := h'.depth.trans h.depth
  audience := h'.audience.trans h.audience
  scheduled := h'.scheduled.trans h.scheduled
  ready := h.ready.trans h'.ready
  history := by
    obtain ⟨acts, heq, hacts⟩ := h.history
    obtain ⟨acts', heq', hacts'⟩ := h'.history
    refine ⟨acts ++ acts', by rw [heq', heq, List.append_assoc], ?_⟩
    exact List.forall_mem_append.mpr ⟨hacts, hacts'⟩

end Aside

theorem aside_push (r : Relay κ σ) (jobs : List Job) : Aside r (r.push jobs) :=
  ⟨rfl, rfl, rfl, rfl, rfl, rfl, rfl, List.prefix_append _ _, [], by simp [push]⟩

theorem aside_routerStops (r : Relay κ σ) (stops : List (Nat × Nat)) :
    Aside r { r with routerStops := stops } :=
  ⟨rfl, rfl, rfl, rfl, rfl, rfl, rfl, List.prefix_refl _, [], by simp⟩

/-- A router may learn or forget what it likes about deliveries but whom they are for. -/
theorem aside_dispatch {f : Dispatch κ → Dispatch κ} (hrouter : ∀ p, (f p).router = p.router)
    (hdeliveries : ∀ p, r.dispatch = some p →
      (f p).deliveries.map (fun d => (d.channel, d.event)) =
        p.deliveries.map fun d => (d.channel, d.event)) :
    Aside r { r with dispatch := r.dispatch.map f } := by
  refine ⟨rfl, rfl, rfl, rfl, rfl, ?_, ?_, List.prefix_refl _, [], by simp⟩
  · funext e
    cases hdispatch : r.dispatch with
    | none => simp [audience, hdispatch]
    | some p => simp [audience, hdispatch, hrouter p]
  · cases hdispatch : r.dispatch with
    | none => simp [scheduled, hdispatch]
    | some p => simp [scheduled, hdispatch, hdeliveries p hdispatch]

theorem aside_setDelivery {d : DeliveryTask κ} (h : r.delivery? id = some d)
    (phase : DeliveryPhase) (asked : Bool) (watchers : List Nat) :
    Aside r (r.setDelivery id { d with phase, asked, watchers }) := by
  refine aside_dispatch (fun p => rfl) fun p hp => ?_
  have hget : p.deliveries[id]? = some d := by simpa [delivery?, hp] using h
  refine List.ext_getElem? fun i => ?_
  rw [List.getElem?_map, List.getElem?_map, List.getElem?_set]
  split
  · next hi =>
    rw [← hi, hget]
    split
    · rfl
    · next hlength => exact absurd (List.getElem?_eq_some_iff.mp hget).1 hlength
  · rfl

theorem aside_endDelivery {d : DeliveryTask κ} (h : r.delivery? id = some d)
    (phase : DeliveryPhase) : Aside r (r.endDelivery id d phase) :=
  (aside_setDelivery h _ _ _).trans (aside_push _ _)

theorem aside_carry {d : DeliveryTask κ} (h : r.delivery? id = some d) :
    Aside r (r.carry id d).value := by
  simp only [carry, Logged.value_bind]
  generalize (r.carrier.deliver d.channel d.event r.outside).value = delivered
  obtain ⟨result?, outside⟩ := delivered
  have houtside : Aside r { r with outside } :=
    ⟨rfl, rfl, rfl, rfl, rfl, rfl, rfl, List.prefix_refl _, [], by simp⟩
  cases result? with
  | none =>
    have hhang := aside_setDelivery (r := { r with outside }) h .hanging d.asked d.watchers
    exact houtside.trans hhang
  | some result =>
    -- the act of the channel is all that is added to the history
    have hrecord : Aside { r with outside }
        ({ r with outside }.record [.delivered (r.carrier.name d.channel) d.event result]) :=
      ⟨rfl, rfl, rfl, rfl, rfl, rfl, rfl, List.prefix_refl _, _, rfl, by simp [Act.isOfChannel]⟩
    have hend := aside_endDelivery (r := { r with outside }.record
      [.delivered (r.carrier.name d.channel) d.event result]) h .done
    exact (houtside.trans hrecord).trans hend

theorem aside_deliver (r : Relay κ σ) (id : Nat) : Aside r (r.deliver id).value := by
  unfold deliver
  cases h : r.delivery? id with
  | none => exact .refl r
  | some d =>
    dsimp only
    -- a delivery that was asked to end does so, and another goes on from where it stands
    split
    · exact aside_endDelivery h .cancelled
    · split
      · split
        · exact (aside_setDelivery h _ _ _).trans (aside_push _ _)
        · exact aside_carry h
      · exact aside_carry h
      all_goals exact .refl r

theorem aside_cancelDelivery (r : Relay κ σ) (id : Nat) : Aside r (r.cancelDelivery id) := by
  unfold cancelDelivery
  cases h : r.delivery? id with
  | none => exact .refl r
  | some d =>
    dsimp only
    split
    · exact .refl r
    · split
      · exact (aside_setDelivery h _ _ _).trans (aside_push _ _)
      · exact aside_setDelivery h _ _ _

theorem aside_watch (r : Relay κ σ) (caller id : Nat) : Aside r (r.watch caller id) := by
  unfold watch
  cases h : r.delivery? id with
  | none => exact .refl r
  | some d =>
    dsimp only
    split
    · exact aside_push _ _
    · exact aside_setDelivery h _ _ _

theorem aside_retire (r : Relay κ σ) (id : Nat) : Aside r (r.retire id) :=
  aside_dispatch (fun _ => rfl) fun _ _ => rfl

theorem aside_report (r : Relay κ σ) (caller : Nat) : Aside r (r.report caller) := by
  unfold report
  cases r.routerStops.lookup caller with
  | none => exact .refl r
  | some left =>
    dsimp only
    split
    · exact (aside_routerStops r _).trans (aside_push _ _)
    · exact aside_routerStops r _

/-- All that a stop does is to ask deliveries to end and to let its caller wait for them. -/
theorem beginRouterStop_induction {motive : Relay κ σ → Prop} {caller : Nat} (h : motive r)
    (hask : ∀ r id, motive r → motive (r.cancelDelivery id))
    (hstops : ∀ (r : Relay κ σ) stops, motive r → motive { r with routerStops := stops })
    (hwatch : ∀ r id, motive r → motive (r.watch caller id)) :
    motive (r.beginRouterStop caller) := by
  unfold beginRouterStop
  split
  · exact h
  · exact h
  · next pending _ _ =>
    -- all are asked to end before the caller waits for the first
    have hasked := List.foldlRecOn pending cancelDelivery h fun r h id _ => hask r id h
    exact List.foldlRecOn pending _ (hstops _ _ hasked) fun r h id _ => hwatch r id h

theorem aside_beginRouterStop (r : Relay κ σ) (caller : Nat) :
    Aside r (r.beginRouterStop caller) :=
  beginRouterStop_induction (.refl r) (fun r' id h => h.trans (aside_cancelDelivery r' id))
    (fun r' stops h => h.trans (aside_routerStops r' stops))
    fun r' id h => h.trans (aside_watch r' caller id)

theorem aside_resumeRouter (r : Relay κ σ) (caller : Nat) : Aside r (r.resumeRouter caller) :=
  (aside_routerStops r _).trans (aside_dispatch (fun _ => rfl) fun _ _ => rfl)

end Relay

end AdmissionLedger
