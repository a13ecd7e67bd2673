import AdmissionLedger.Proofs.Relay.Deliver
import Mathlib.Data.List.Count

/-!
# One delivery at a time

Everything that happens to deliveries happens to one of them: it goes on, it is asked to
end, or a caller begins to wait for it.  What becomes of it depends on how far it is and
on what it meets outside, and on no other delivery.

## Main definitions

* `Relay.deliveries`, `Relay.pending` — the deliveries, and those that the router knows to be in
  flight.
* `DeliveryTask.advance`, `DeliveryTask.ask`, `DeliveryTask.watchedBy` — what becomes of a delivery.
* `Relay.Changes` — one delivery changes, jobs come in line and acts are done for it.

## Main results

* `Relay.changes_deliver`, `Relay.changes_cancelDelivery`, `Relay.changes_watch` — all that happens
  to deliveries.
-/

namespace AdmissionLedger

variable {κ σ : Type}

/-- Whether a delivery has ended that is so far. -/
def DeliveryPhase.isEnd : DeliveryPhase → Bool
  | done | cancelled => true
  | scheduled | away | hanging => false

namespace DeliveryTask

theorem hasEnded_eq (d : DeliveryTask κ) : d.hasEnded = d.phase.isEnd := by
  cases hphase : d.phase <;> simp [hasEnded, hphase, DeliveryPhase.isEnd]

theorem phase_of_hasEnded {d : DeliveryTask κ} (h : d.hasEnded = true) :
    d.phase = .done ∨ d.phase = .cancelled := by
  simpa [hasEnded] using h

/-- What a delivery comes to, if it is not stopped; nothing if it hangs. -/
def outcome (carrier : Carrier κ σ) (outside : σ) (d : DeliveryTask κ) : Option DeliveryEnd :=
  (carrier.deliver d.channel d.event outside).value.1

/-- How far a delivery in flight is after its next stretch. -/
def next (carrier : Carrier κ σ) (outside : σ) (d : DeliveryTask κ) : DeliveryPhase :=
  if d.asked then .cancelled
  else if d.phase = .hanging then .hanging
  else if d.phase = .scheduled ∧ carrier.away d.channel then .away
  else if (d.outcome carrier outside).isSome then .done
  else .hanging

/-- A delivery after its next stretch. -/
def advance (carrier : Carrier κ σ) (outside : σ) (d : DeliveryTask κ) : DeliveryTask κ :=
  if d.hasEnded then d
  else
    let phase := d.next carrier outside
    { d with phase, watchers := if phase.isEnd then [] else d.watchers }

/-- The jobs that a stretch brings about. -/
def advanceJobs (carrier : Carrier κ σ) (outside : σ) (id : Nat) (d : DeliveryTask κ) : List Job :=
  if d.hasEnded then []
  else
    let phase := d.next carrier outside
    if phase.isEnd then .retire id :: d.watchers.map .report
    else if phase = .away then [.deliver id] else []

/-- What a stretch does. -/
def advanceActs (carrier : Carrier κ σ) (outside : σ) (d : DeliveryTask κ) : List Act :=
  if !d.hasEnded ∧ d.next carrier outside = .done then
    (d.outcome carrier outside).toList.map (.delivered (carrier.name d.channel) d.event)
  else []

/-- A delivery is asked to end. -/
def ask (d : DeliveryTask κ) : DeliveryTask κ :=
  if d.hasEnded then d else { d with asked := true }

/-- One that hangs is made to run for it. -/
def askJobs (id : Nat) (d : DeliveryTask κ) : List Job :=
  if d.phase = .hanging ∧ !d.asked then [.deliver id] else []

/-- A caller waits for a delivery. -/
def watchedBy (caller : Nat) (d : DeliveryTask κ) : DeliveryTask κ :=
  if d.hasEnded then d else { d with watchers := d.watchers ++ [caller] }

/-- It is told at once about one that has ended. -/
def watchJobs (caller : Nat) (d : DeliveryTask κ) : List Job :=
  if d.hasEnded then [.report caller] else []

variable {d : DeliveryTask κ} {id caller : Nat} {carrier : Carrier κ σ} {outside : σ}

theorem hasEnded_of_hanging (h : d.phase = .hanging) : d.hasEnded = false := by
  rw [hasEnded_eq, h, DeliveryPhase.isEnd]

/-- Only a delivery in flight can be asked, and only once. -/
theorem ask_eq_self (h : (d.hasEnded || d.asked) = true) : d.ask = d := by
  obtain ⟨channel, event, phase, asked, watchers⟩ := d
  cases asked with
  | true => simp [ask]
  | false => exact if_pos (by simpa using h)

theorem askJobs_eq_nil (h : (d.hasEnded || d.asked) = true) : d.askJobs id = [] := by
  refine if_neg ?_
  rintro ⟨hphase, hasked⟩
  rw [Bool.not_eq_true'] at hasked
  rw [hasEnded_of_hanging hphase, hasked] at h
  cases h

theorem advance_of_next {phase : DeliveryPhase} (hflight : d.hasEnded = false)
    (hnext : d.next carrier outside = phase) : d.advance carrier outside =
      { d with phase, watchers := if phase.isEnd then [] else d.watchers } := by
  subst hnext
  exact if_neg (by simp [hflight])

theorem advanceJobs_of_next {phase : DeliveryPhase} (hflight : d.hasEnded = false)
    (hnext : d.next carrier outside = phase) : d.advanceJobs carrier outside id =
      if phase.isEnd then .retire id :: d.watchers.map .report
      else if phase = .away then [.deliver id] else [] := by
  subst hnext
  exact if_neg (by simp [hflight])

theorem advanceActs_of_next {phase : DeliveryPhase} (hflight : d.hasEnded = false)
    (hnext : d.next carrier outside = phase) : d.advanceActs carrier outside =
      if phase = .done then
        (d.outcome carrier outside).toList.map (.delivered (carrier.name d.channel) d.event)
      else [] := by
  subst hnext
  simp [advanceActs, hflight]

/-- A delivery that has ended goes on no more. -/
theorem advance_of_hasEnded (h : d.hasEnded = true) : d.advance carrier outside = d :=
  if_pos h

theorem advanceJobs_of_hasEnded (h : d.hasEnded = true) :
    d.advanceJobs carrier outside id = [] :=
  if_pos h

theorem advanceActs_of_hasEnded (h : d.hasEnded = true) : d.advanceActs carrier outside = [] := by
  simp [advanceActs, h]

/-- Only a delivery whose channel has an answer is completed. -/
theorem exists_outcome_of_next (h : d.next carrier outside = .done) :
    ∃ result, d.outcome carrier outside = some result := by
  unfold next at h
  split_ifs at h with hasked hhanging haway hsome
  exact Option.isSome_iff_exists.mp hsome

/-- The router is to forget a delivery that ends. -/
theorem mem_advanceJobs_retire {i : Nat} (h : .retire i ∈ d.advanceJobs carrier outside id) :
    i = id ∧ (d.advance carrier outside).hasEnded = true := by
  cases hended : d.hasEnded with
  | true => simp [advanceJobs_of_hasEnded hended] at h
  | false =>
    rw [advanceJobs_of_next hended rfl] at h
    rw [advance_of_next hended rfl, hasEnded_eq]
    split_ifs at h with hend haway
    · exact ⟨by simpa using h, hend⟩
    · simp at h
    · simp at h

theorem hasEnded_ask (d : DeliveryTask κ) : d.ask.hasEnded = d.hasEnded := by
  unfold ask
  split <;> rfl

theorem hasEnded_watchedBy (caller : Nat) (d : DeliveryTask κ) :
    (d.watchedBy caller).hasEnded = d.hasEnded := by
  unfold watchedBy
  split <;> rfl

end DeliveryTask

namespace Relay

/-- What stands at a place is changed. -/
theorem modify_of_getElem? {α : Type} {l : List α} {i : Nat} {a : α} (h : l[i]? = some a)
    (f : α → α) : l.modify i f = l.set i (f a) := by
  obtain ⟨hlength, rfl⟩ := List.getElem?_eq_some_iff.mp h
  rw [List.modify_eq_take_cons_drop hlength, List.set_eq_take_append_cons_drop, if_pos hlength]

/-- All deliveries, numbered in the order of their creation. -/
def deliveries (r : Relay κ σ) : List (DeliveryTask κ) :=
  r.dispatch.elim [] (·.deliveries)

/-- The deliveries in flight, as far as the router knows. -/
def pending (r : Relay κ σ) : List Nat :=
  r.dispatch.elim [] (·.pending)

variable {r r' r'' : Relay κ σ} {id : Nat}

theorem delivery?_eq (r : Relay κ σ) (id : Nat) : r.delivery? id = r.deliveries[id]? := by
  cases h : r.dispatch <;> simp [delivery?, deliveries, h]

theorem scheduled_eq (r : Relay κ σ) :
    r.scheduled = r.deliveries.map fun d => (d.channel, d.event) := by
  cases h : r.dispatch <;> simp [scheduled, deliveries, h]

/-- The channels, the filter and the consumers are as before. -/
structure Wired (r r' : Relay κ σ) : Prop where
  carrier : r'.carrier = r.carrier
  audience : r'.audience = r.audience
  worker : r'.worker = r.worker

theorem Wired.refl (r : Relay κ σ) : Wired r r :=
  ⟨rfl, rfl, rfl⟩

theorem Wired.trans (h : Wired r r') (h' : Wired r' r'') : Wired r r'' :=
  ⟨h'.carrier.trans h.carrier, h'.audience.trans h.audience, h'.worker.trans h.worker⟩

/-- One delivery, if it exists, changes, and for it jobs come in line and acts are done. -/
structure Changes (r r' : Relay κ σ) (id : Nat) (f : DeliveryTask κ → DeliveryTask κ)
    (jobs : DeliveryTask κ → List Job) (acts : DeliveryTask κ → List Act) : Prop where
  wired : Wired r r'
  deliveries : r'.deliveries = r.deliveries.modify id f
  pending : r'.pending = r.pending
  routerStops : r'.routerStops = r.routerStops
  ready : r'.ready = r.ready ++ r.deliveries[id]?.elim [] jobs
  history : r'.history = r.history ++ r.deliveries[id]?.elim [] acts

/-! ### What happens to deliveries -/

theorem wired_setDelivery (r : Relay κ σ) (id : Nat) (d : DeliveryTask κ) :
    Wired r (r.setDelivery id d) := by
  refine ⟨rfl, ?_, rfl⟩
  funext e
  cases h : r.dispatch <;> simp [setDelivery, audience, h]

theorem deliveries_setDelivery (r : Relay κ σ) (id : Nat) (d : DeliveryTask κ) :
    (r.setDelivery id d).deliveries = r.deliveries.set id d := by
  cases h : r.dispatch <;> simp [setDelivery, deliveries, h]

theorem pending_setDelivery (r : Relay κ σ) (id : Nat) (d : DeliveryTask κ) :
    (r.setDelivery id d).pending = r.pending := by
  cases h : r.dispatch <;> simp [setDelivery, pending, h]

section

variable {d d' : DeliveryTask κ} {f : DeliveryTask κ → DeliveryTask κ}
  {jobs : DeliveryTask κ → List Job} {acts : DeliveryTask κ → List Act}

/-- Without the delivery nothing happens. -/
theorem changes_of_none (hget : r.deliveries[id]? = none) : Changes r r id f jobs acts := by
  refine ⟨.refl r, ?_, rfl, rfl, by simp [hget], by simp [hget]⟩
  rw [List.modify_eq_self (List.getElem?_eq_none_iff.mp hget)]

/-- A delivery that stays as it is may bring about jobs. -/
theorem changes_push (hget : r.deliveries[id]? = some d) (hf : f d = d) (hacts : acts d = []) :
    Changes r (r.push (jobs d)) id f jobs acts := by
  refine ⟨⟨rfl, rfl, rfl⟩, ?_, rfl, rfl, by simp [push, hget], by simp [push, hget, hacts]⟩
  obtain ⟨hlength, rfl⟩ := List.getElem?_eq_some_iff.mp hget
  rw [modify_of_getElem? hget, hf, List.set_getElem_self]
  rfl

/-- A delivery is put in its place again. -/
theorem changes_setDelivery (hget : r.deliveries[id]? = some d) (hf : f d = d') (outside : σ) :
    Changes r ((({ r with outside }.record (acts d)).setDelivery id d').push (jobs d)) id f jobs
      acts := by
  have hwired := wired_setDelivery ({ r with outside }.record (acts d)) id d'
  refine ⟨⟨hwired.carrier, hwired.audience, hwired.worker⟩, ?_, ?_, rfl, ?_, ?_⟩
  · rw [modify_of_getElem? hget, hf]
    exact deliveries_setDelivery ({ r with outside }.record (acts d)) id d'
  · exact pending_setDelivery ({ r with outside }.record (acts d)) id d'
  · rw [hget]
    rfl
  · rw [hget]
    rfl

end

open DeliveryTask

/-- A relay to which nothing is added is as before. -/
@[simp] theorem push_nil (r : Relay κ σ) : r.push [] = r := by
  simp [push]

@[simp] theorem record_nil (r : Relay κ σ) : r.record [] = r := by
  simp [record]

/-- A delivery is asked to end. -/
theorem changes_cancelDelivery (r : Relay κ σ) (id : Nat) :
    Changes r (r.cancelDelivery id) id ask (askJobs id) fun _ => [] := by
  unfold cancelDelivery
  rw [delivery?_eq]
  cases hget : r.deliveries[id]? with
  | none => exact changes_of_none hget
  | some d =>
    dsimp only
    split
    · next h =>
      have hchanges : Changes r _ id ask (askJobs id) fun _ => [] :=
        changes_push hget (ask_eq_self h) rfl
      rwa [askJobs_eq_nil h, push_nil] at hchanges
    · next h =>
      rw [Bool.or_eq_true, not_or, Bool.not_eq_true, Bool.not_eq_true] at h
      have hask : d.ask = { d with asked := true } := if_neg (by simp [h.1])
      have hchanges : Changes r _ id ask (askJobs id) fun _ => [] :=
        changes_setDelivery hget hask r.outside
      rw [record_nil] at hchanges
      split
      · next hhanging => rwa [askJobs, if_pos ⟨hhanging, by simp [h.2]⟩] at hchanges
      · next hnot => rwa [askJobs, if_neg fun hboth => hnot hboth.1, push_nil] at hchanges

/-- A caller begins to wait for a delivery. -/
theorem changes_watch (r : Relay κ σ) (caller id : Nat) :
    Changes r (r.watch caller id) id (watchedBy caller) (watchJobs caller) fun _ => [] := by
  unfold watch
  rw [delivery?_eq]
  cases hget : r.deliveries[id]? with
  | none => exact changes_of_none hget
  | some d =>
    dsimp only
    split
    · next h =>
      have hwatched : d.watchedBy caller = d := if_pos h
      have hchanges : Changes r _ id (watchedBy caller) (watchJobs caller) fun _ => [] :=
        changes_push hget hwatched rfl
      rwa [watchJobs, if_pos h] at hchanges
    · next h =>
      have hwatched : d.watchedBy caller = { d with watchers := d.watchers ++ [caller] } :=
        if_neg h
      have hchanges : Changes r _ id (watchedBy caller) (watchJobs caller) fun _ => [] :=
        changes_setDelivery hget hwatched r.outside
      rwa [watchJobs, if_neg h, push_nil, record_nil] at hchanges

section

variable {d : DeliveryTask κ} {phase : DeliveryPhase}

/-- A delivery in flight goes on to its next phase. -/
theorem changes_next (hget : r.deliveries[id]? = some d) (hflight : d.hasEnded = false)
    (hnext : d.next r.carrier r.outside = phase) (outside : σ) :
    Changes r ((({ r with outside }.record (if phase = DeliveryPhase.done then
        (d.outcome r.carrier r.outside).toList.map (.delivered (r.carrier.name d.channel) d.event)
        else [])).setDelivery id
          { d with phase, watchers := if phase.isEnd then [] else d.watchers }).push
        (if phase.isEnd then .retire id :: d.watchers.map .report
        else if phase = DeliveryPhase.away then [.deliver id] else []))
      id (advance r.carrier r.outside) (advanceJobs r.carrier r.outside id)
      (advanceActs r.carrier r.outside) := by
  rw [← advanceActs_of_next hflight hnext, ← advanceJobs_of_next hflight hnext]
  exact changes_setDelivery hget (advance_of_next hflight hnext) outside

/-- The channel of a delivery delivers. -/
theorem changes_carry (hget : r.deliveries[id]? = some d) (hflight : d.hasEnded = false)
    (hnext : d.next r.carrier r.outside =
      if (d.outcome r.carrier r.outside).isSome then .done else .hanging) :
    Changes r (r.carry id d).value id (advance r.carrier r.outside)
      (advanceJobs r.carrier r.outside id) (advanceActs r.carrier r.outside) := by
  simp only [carry, Logged.value_bind]
  obtain ⟨result?, outside, hdelivered⟩ : ∃ result? outside,
    (r.carrier.deliver d.channel d.event r.outside).value = (result?, outside) := ⟨_, _, rfl⟩
  have houtcome : d.outcome r.carrier r.outside = result? := congrArg Prod.fst hdelivered
  have hchanges := changes_next hget hflight hnext outside
  rw [houtcome] at hchanges
  rw [hdelivered]
  cases result? with
  | none => simpa [DeliveryPhase.isEnd] using hchanges
  | some result => simpa [DeliveryPhase.isEnd, endDelivery] using hchanges

end

/-- A delivery goes on. -/
theorem changes_deliver (r : Relay κ σ) (id : Nat) :
    Changes r (r.deliver id).value id (advance r.carrier r.outside)
      (advanceJobs r.carrier r.outside id) (advanceActs r.carrier r.outside) := by
  unfold deliver
  rw [delivery?_eq]
  cases hget : r.deliveries[id]? with
  | none => exact changes_of_none hget
  | some d =>
    dsimp only
    cases hended : d.hasEnded with
    | true =>
      have hchanges : Changes r _ id (advance r.carrier r.outside)
          (advanceJobs r.carrier r.outside id) (advanceActs r.carrier r.outside) :=
        changes_push hget (advance_of_hasEnded hended) (advanceActs_of_hasEnded hended)
      rw [advanceJobs_of_hasEnded hended, push_nil] at hchanges
      rw [Bool.not_true, Bool.and_false, if_neg Bool.false_ne_true]
      rw [hasEnded_eq] at hended
      split
      · next hphase => rw [hphase] at hended; cases hended
      · next hphase => rw [hphase] at hended; cases hended
      all_goals exact hchanges
    | false =>
      cases hasked : d.asked with
      | true =>
        have hnext : d.next r.carrier r.outside = .cancelled := if_pos hasked
        simpa [DeliveryPhase.isEnd, endDelivery] using
          changes_next hget hended hnext r.outside
      | false =>
        rw [Bool.false_and, if_neg Bool.false_ne_true]
        split
        · next hphase =>
          split
          · next haway =>
            have hnext : d.next r.carrier r.outside = .away := by
              simp [next, hasked, hphase, haway]
            simpa [DeliveryPhase.isEnd, hasked] using changes_next hget hended hnext r.outside
          · next haway => exact changes_carry hget hended (by simp [next, hasked, hphase, haway])
        · next hphase => exact changes_carry hget hended (by simp [next, hasked, hphase])
        · next hphase =>
          -- one that hangs, and is not asked to end, stays as it is
          have hnext : d.next r.carrier r.outside = .hanging := by simp [next, hasked, hphase]
          have hadvance := advance_of_next hended hnext
          rw [DeliveryPhase.isEnd, if_neg Bool.false_ne_true, ← hphase] at hadvance
          have hchanges : Changes r _ id (advance r.carrier r.outside)
              (advanceJobs r.carrier r.outside id) (advanceActs r.carrier r.outside) :=
            changes_push hget hadvance (advanceActs_of_next hended hnext)
          rwa [advanceJobs_of_next hended hnext, DeliveryPhase.isEnd, if_neg Bool.false_ne_true,
            if_neg (by decide), push_nil] at hchanges
        · next hphase => rw [hasEnded_eq, hphase] at hended; cases hended
        · next hphase => rw [hasEnded_eq, hphase] at hended; cases hended

end Relay

end AdmissionLedger
