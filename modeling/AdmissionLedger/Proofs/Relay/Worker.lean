import AdmissionLedger.Proofs.Lookup
import AdmissionLedger.Relay.Worker
import Mathlib.Data.List.Nodup
import Mathlib.Logic.Relation

/-!
# One task at a time

A component has at most one task that has not ended, and knows it, as long as no task is
started in a gap of a stop: after the task has ended for which a caller waits, and before
that caller has gone on.  A start in the gap is not undone by the caller, but forgotten.

## Main definitions

* `Worker.Tended` — there is at most one task, and one that was not asked to end is known.
* `Worker.IsClosing` — the gap of a stop.
* `Worker.Tidy` — the invariant: what is held, and what the callers wait for.
* `Worker.Move`, `Worker.Moves` — what happens to the tasks of a component other than a start, and
  to the callers that are going to be told.
* `Worker.Told` — callers whose wait is over are going to be told.

## Main results

* `Worker.Tidy.start`, `Worker.Tidy.moves` — a start outside of the gap and all else keep the
  invariant.
* `Worker.moves_take`, `Worker.moves_resume` — a job that is taken out of line.
* `Worker.Tidy.tended` — the invariant is what is asked for, and more.
* `Worker.not_tended_endStop_start` — a start in the gap is forgotten.
-/

namespace AdmissionLedger.Worker

variable {α : Type} {w : Worker α} {id id' caller : Nat} {task : Task α}

/-- There is at most one task, and one that was not asked to end is known to the component. -/
structure Tended (w : Worker α) : Prop where
  alone : w.alive.length ≤ 1
  known : ∀ entry ∈ w.alive, entry.2.asked = false → w.held = some entry.1

/-- A caller is in the middle of a stop, and no task is left that the component knows. -/
def IsClosing (w : Worker α) : Prop :=
  w.current? = none ∧ w.stops ≠ []

instance : DecidablePred (IsClosing (α := α)) := fun w =>
  inferInstanceAs (Decidable (w.current? = none ∧ w.stops ≠ []))

/-! ### Tasks that have not ended -/

theorem isAlive_iff : w.isAlive id = true ↔ id ∈ w.alive.map (·.1) := by
  rw [isAlive, get?, List.lookup_isSome_iff, List.mem_map]
  constructor
  · rintro ⟨entry, hentry, hid⟩
    exact ⟨entry, hentry, (beq_iff_eq.mp hid).symm⟩
  · rintro ⟨entry, hentry, rfl⟩
    exact ⟨entry, hentry, beq_self_eq_true _⟩

theorem mem_alive_of_get? (h : w.get? id = some task) : (id, task) ∈ w.alive := by
  obtain ⟨before, after, heq, -⟩ := List.lookup_eq_some_iff.mp h
  rw [heq]
  exact List.mem_append_right _ List.mem_cons_self

/-- The only task is found, and no other. -/
theorem get?_of_alive (halive : w.alive = [(id, task)]) : w.get? id = some task := by
  rw [get?, halive]
  exact List.lookup_cons_self

theorem eq_of_get? (halive : w.alive = [(id, task)]) {task' : Task α}
    (hget : w.get? id' = some task') : id' = id ∧ task' = task := by
  have hmem := mem_alive_of_get? hget
  rw [halive, List.mem_singleton, Prod.mk.injEq] at hmem
  exact hmem

/-- A change concerns one task only. -/
theorem get?_change (w : Worker α) (id id' : Nat) (f : Task α → Task α) :
    (w.change id f).get? id' = (w.get? id').map fun task => if id' = id then f task else task :=
  lookup_map (fun i task => if i = id then f task else task) w.alive id'

/-- Another phase leaves a task asked to end, or not. -/
theorem exists_get?_setPhase (h : w.get? id = some task) (id' : Nat) (phase : α) :
    ∃ task', (w.setPhase id' phase).get? id = some task' ∧ task'.asked = task.asked := by
  rw [setPhase, get?_change, h]
  refine ⟨_, rfl, ?_⟩
  split
  · rfl
  · rfl

/-- What a change leaves of the numbers. -/
@[simp] theorem ids_change (w : Worker α) (id : Nat) (f : Task α → Task α) :
    (w.change id f).alive.map (·.1) = w.alive.map (·.1) := by
  simp [change, Function.comp_def]

@[simp] theorem isAlive_change (w : Worker α) (id id' : Nat) (f : Task α → Task α) :
    (w.change id f).isAlive id' = w.isAlive id' := by
  rw [Bool.eq_iff_iff, isAlive_iff, isAlive_iff, ids_change]

@[simp] theorem isAlive_ask (w : Worker α) (id id' : Nat) :
    (w.ask id).isAlive id' = w.isAlive id' :=
  isAlive_change w id id' _

theorem isAlive_finish (w : Worker α) (id id' : Nat) :
    (w.finish id).isAlive id' = (w.isAlive id' && id' ≠ id) := by
  rw [Bool.eq_iff_iff, Bool.and_eq_true, isAlive_iff, isAlive_iff]
  simp only [finish, List.mem_map, List.mem_filter, decide_eq_true_eq]
  constructor
  · rintro ⟨entry, ⟨hentry, hne⟩, rfl⟩
    exact ⟨⟨entry, hentry, rfl⟩, hne⟩
  · rintro ⟨⟨entry, hentry, rfl⟩, hne⟩
    exact ⟨entry, ⟨hentry, hne⟩, rfl⟩

theorem current?_eq_some_iff :
    w.current? = some id ↔ w.held = some id ∧ id ∈ w.alive.map (·.1) := by
  rw [current?, Option.filter_eq_some_iff, isAlive_iff]

/-- Where no task is known, a start makes one. -/
theorem start_of_current?_eq_none (h : w.current? = none) (phase : α) :
    (w.start phase).2 = { w with
      held := some w.created
      alive := w.alive ++ [(w.created, { phase })]
      created := w.created + 1 } := by
  rw [start, h]

/-- Where one is known, a start does nothing. -/
theorem start_of_current?_eq_some (h : w.current? = some id) (phase : α) :
    w.start phase = (none, w) := by
  rw [start, h]

/-- There is a task after a start. -/
theorem alive_start_ne_nil (w : Worker α) (phase : α) : (w.start phase).2.alive ≠ [] := by
  cases hcurrent : w.current? with
  | some id =>
    rw [start_of_current?_eq_some hcurrent]
    intro hnil
    have hmem := (current?_eq_some_iff.mp hcurrent).2
    rw [hnil] at hmem
    cases hmem
  | none =>
    rw [start_of_current?_eq_none hcurrent]
    exact List.concat_ne_nil _ _

/-! ### Moves -/

/-- What happens to the tasks of a component other than a start, with the callers that are going to
be told that they can go on. -/
inductive Move : Worker α × List Nat → Worker α × List Nat → Prop
  | setPhase (w : Worker α) (told : List Nat) (id : Nat) (phase : α) :
      Move (w, told) (w.setPhase id phase, told)
  /-- A stop begins; its caller is in the middle of no other. -/
  | beginStop (w : Worker α) (told : List Nat) (caller : Nat) (h : w.isStopping caller = false) :
      Move (w, told) (w.beginStop caller, told)
  /-- A task ends that was asked to, and those who wait for it are told. -/
  | finish (w : Worker α) (told : List Nat) (id : Nat) (task : Task α) (h : w.get? id = some task)
      (hasked : task.asked = true) : Move (w, told) (w.finish id, told ++ w.stoppers id)
  /-- More callers are going to be told. -/
  | tell (w : Worker α) {told told' : List Nat} (h : told ⊆ told') : Move (w, told) (w, told')
  /-- A caller goes on for whom the wait is over. -/
  | endStop (w : Worker α) {told told' : List Nat} (caller : Nat) (h : w.mayEndStop caller = true)
      (hothers : ∀ c ∈ told, c ≠ caller → c ∈ told') : Move (w, told) (w.endStop caller, told')
  /-- A caller is told for whom it is not. -/
  | stay (w : Worker α) {told told' : List Nat} (caller : Nat) (h : w.mayEndStop caller = false)
      (hothers : ∀ c ∈ told, c ≠ caller → c ∈ told') : Move (w, told) (w, told')

/-- Any number of moves. -/
abbrev Moves : Worker α × List Nat → Worker α × List Nat → Prop :=
  Relation.ReflTransGen Move

/-! ### Jobs in line -/

section

variable {β : Type} {caller? : β → Option Nat} {ready ready' : List β} {place : Nat} {job : β}

/-- Jobs that come into line take none out of it. -/
theorem moves_of_ready (w : Worker α) (h : ready <+: ready') :
    Moves (w, ready.filterMap caller?) (w, ready'.filterMap caller?) :=
  .single (.tell w (h.filterMap caller?).subset)

/-- A job with which no caller goes on is taken out of line. -/
theorem moves_take (w : Worker α) (hjob : ready[place]? = some job) (hcaller : caller? job = none) :
    Moves (w, ready.filterMap caller?) (w, (ready.eraseIdx place).filterMap caller?) := by
  refine .single (.tell w fun c hc => ?_)
  exact mem_filterMap_eraseIdx hjob hc (by simp [hcaller])

/-- A job is taken out of line with which a caller goes on, if its wait is over. -/
theorem moves_resume (w : Worker α) (hjob : ready[place]? = some job)
    (hcaller : caller? job = some caller) :
    Moves (w, ready.filterMap caller?)
      (if w.mayEndStop caller then w.endStop caller else w,
        (ready.eraseIdx place).filterMap caller?) := by
  -- only the caller who goes on need not be told any more
  have hothers : ∀ c ∈ ready.filterMap caller?, c ≠ caller →
      c ∈ (ready.eraseIdx place).filterMap caller? := by
    intro c hc hne
    refine mem_filterMap_eraseIdx hjob hc ?_
    rw [hcaller, Ne, Option.some.injEq]
    exact hne.symm
  cases hover : w.mayEndStop caller with
  | true => exact .single (.endStop w caller hover hothers)
  | false => exact .single (.stay w caller hover hothers)

end

/-! ### The invariant -/

/-- At most one task has not ended, and it is the one that the component knows.  Who waits, waits
for it, which was then asked to end; or there is none. -/
structure Tidy (w : Worker α) : Prop where
  alive : w.alive = [] ∨ ∃ id task, w.alive = [(id, task)] ∧ w.held = some id
  awaited : ∀ stop ∈ w.stops, ∀ entry ∈ w.alive, entry.1 = stop.2 ∧ entry.2.asked = true

namespace Tidy

/-- The invariant holds of a component that was never started. -/
theorem empty : Tidy ({} : Worker α) where
  alive := .inl rfl
  awaited := fun _ h => absurd h List.not_mem_nil

theorem tended (h : w.Tidy) : w.Tended := by
  obtain hnone | ⟨id, task, halive, hheld⟩ := h.alive
  · constructor <;> simp [hnone]
  · constructor <;> simp [halive, hheld]

/-- The only task. -/
theorem alive_eq (h : w.Tidy) (hget : w.get? id = some task) :
    w.alive = [(id, task)] ∧ w.held = some id := by
  have hmem := mem_alive_of_get? hget
  obtain hnone | ⟨id', task', halive, hheld⟩ := h.alive
  · rw [hnone] at hmem
    cases hmem
  · rw [halive, List.mem_singleton] at hmem
    cases hmem
    exact ⟨halive, hheld⟩

/-- If no task is known, there is none. -/
theorem alive_eq_nil (h : w.Tidy) (hcurrent : w.current? = none) : w.alive = [] := by
  obtain hnone | ⟨id, task, halive, hheld⟩ := h.alive
  · exact hnone
  · have hsome : w.current? = some id := current?_eq_some_iff.mpr ⟨hheld, by simp [halive]⟩
    rw [hcurrent] at hsome
    cases hsome

/-- A start keeps the invariant outside of the gap of a stop. -/
theorem start (h : w.Tidy) (hgap : ¬ w.IsClosing) (phase : α) : (w.start phase).2.Tidy := by
  cases hcurrent : w.current? with
  | some id =>
    rw [start_of_current?_eq_some hcurrent]
    exact h
  | none =>
    have hstops : w.stops = [] := by
      by_contra hne
      exact hgap ⟨hcurrent, hne⟩
    rw [start_of_current?_eq_none hcurrent, h.alive_eq_nil hcurrent]
    exact ⟨.inr ⟨_, _, rfl, rfl⟩, by simp [hstops]⟩

theorem change (h : w.Tidy) (id : Nat) {f : Task α → Task α}
    (hf : ∀ task, task.asked = true → (f task).asked = true) : (w.change id f).Tidy := by
  obtain hnone | ⟨id', task, halive, hheld⟩ := h.alive
  · have hempty : (w.change id f).alive = [] := by simp [Worker.change, hnone]
    exact ⟨.inl hempty, by simp [hempty]⟩
  · have hsole : (w.change id f).alive = [(id', if id' = id then f task else task)] := by
      simp [Worker.change, halive]
    refine ⟨.inr ⟨_, _, hsole, hheld⟩, ?_⟩
    intro stop hstop entry hentry
    rw [hsole, List.mem_singleton] at hentry
    obtain ⟨hid, hasked⟩ := h.awaited stop hstop (id', task) (by simp [halive])
    rw [hentry]
    refine ⟨hid, ?_⟩
    dsimp only
    split
    · exact hf task hasked
    · exact hasked

theorem setPhase (h : w.Tidy) (id : Nat) (phase : α) : (w.setPhase id phase).Tidy :=
  h.change id fun _ hasked => hasked

theorem beginStop (h : w.Tidy) (caller : Nat) : (w.beginStop caller).Tidy := by
  cases hcurrent : w.current? with
  | none =>
    rw [Worker.beginStop, hcurrent]
    have hnone := h.alive_eq_nil hcurrent
    exact ⟨.inl hnone, by simp [hnone]⟩
  | some id =>
    rw [Worker.beginStop, hcurrent]
    have hasked : (w.ask id).Tidy := h.change id fun _ _ => rfl
    refine ⟨hasked.alive, ?_⟩
    intro stop hstop entry hentry
    obtain hstop | hstop := List.mem_append.mp hstop
    · exact hasked.awaited stop hstop entry hentry
    · -- the new wait is for the task that was just asked
      obtain hnone | ⟨id', task, halive, hheld⟩ := h.alive
      · simp [ask, Worker.change, hnone] at hentry
      · have hid : id' = id := Option.some.inj (hheld.symm.trans
          (current?_eq_some_iff.mp hcurrent).1)
        rw [List.mem_singleton] at hstop
        simp only [ask, Worker.change, halive, List.map_cons, List.map_nil, if_pos hid,
          List.mem_singleton] at hentry
        rw [hentry, hstop]
        exact ⟨hid, rfl⟩

theorem finish (h : w.Tidy) (hget : w.get? id = some task) : (w.finish id).Tidy := by
  have hnone : (w.finish id).alive = [] := by simp [Worker.finish, (h.alive_eq hget).1]
  exact ⟨.inl hnone, by simp [hnone]⟩

theorem endStop (h : w.Tidy) (hover : w.mayEndStop caller = true) : (w.endStop caller).Tidy := by
  -- the caller has waited for a task that has ended, so that none is left
  have hnone : w.alive = [] := by
    rw [mayEndStop] at hover
    split at hover
    · next id hlookup =>
      obtain hnone | ⟨id', task, halive, -⟩ := h.alive
      · exact hnone
      · obtain ⟨before, after, hstops, -⟩ := List.lookup_eq_some_iff.mp hlookup
        obtain ⟨hid, -⟩ := h.awaited (caller, id) (by simp [hstops]) (id', task) (by simp [halive])
        have hlives : w.isAlive id = true := isAlive_iff.mpr (by simpa [halive] using hid.symm)
        rw [hlives] at hover
        cases hover
    · cases hover
  exact ⟨.inl hnone, by simp [Worker.endStop, hnone]⟩

/-- Everything but a start keeps the invariant. -/
theorem move {s s' : Worker α × List Nat} (h : s.1.Tidy) (hmove : Move s s') : s'.1.Tidy := by
  cases hmove with
  | setPhase w told id phase => exact h.setPhase id phase
  | beginStop w told caller => exact h.beginStop caller
  | finish w told id task hget => exact h.finish hget
  | tell w => exact h
  | endStop w caller hover => exact h.endStop hover
  | stay w => exact h

theorem moves {s s' : Worker α × List Nat} (h : s.1.Tidy) (hmoves : Moves s s') : s'.1.Tidy := by
  induction hmoves with
  | refl => exact h
  | tail _ hmove ih => exact ih.move hmove

end Tidy

/-! ### Callers that go on -/

/-- Each caller is in the middle of one stop at most, which waits for a task that there was; once
the task has ended, the caller is among those that are going to be told. -/
structure Told (w : Worker α) (told : List Nat) : Prop where
  callers : (w.stops.map (·.1)).Nodup
  created : ∀ id ∈ w.alive.map (·.1), id < w.created
  awaited : ∀ stop ∈ w.stops, stop.2 < w.created
  told : ∀ stop ∈ w.stops, w.isAlive stop.2 = false → stop.1 ∈ told

namespace Told

variable {told told' : List Nat}

theorem empty : Told ({} : Worker α) [] where
  callers := List.nodup_nil
  created := fun _ h => absurd h List.not_mem_nil
  awaited := fun _ h => absurd h List.not_mem_nil
  told := fun _ h => absurd h List.not_mem_nil

theorem mono (h : w.Told told) (hsub : told ⊆ told') : w.Told told' where
  callers := h.callers
  created := h.created
  awaited := h.awaited
  told := fun stop hstop hdead => hsub (h.told stop hstop hdead)

theorem change (h : w.Told told) (id : Nat) (f : Task α → Task α) :
    (w.change id f).Told told where
  callers := h.callers
  created := by rw [ids_change]; exact h.created
  awaited := h.awaited
  told := by
    intro stop hstop hdead
    rw [isAlive_change] at hdead
    exact h.told stop hstop hdead

theorem setPhase (h : w.Told told) (id : Nat) (phase : α) : (w.setPhase id phase).Told told :=
  h.change id _

theorem start (h : w.Told told) (phase : α) : (w.start phase).2.Told told := by
  cases hcurrent : w.current? with
  | some id =>
    rw [start_of_current?_eq_some hcurrent]
    exact h
  | none =>
    rw [start_of_current?_eq_none hcurrent]
    refine ⟨h.callers, ?_, fun stop hstop => Nat.lt_succ_of_lt (h.awaited stop hstop), ?_⟩
    · intro id hid
      rw [List.map_append, List.mem_append] at hid
      obtain hid | hid := hid
      · exact Nat.lt_succ_of_lt (h.created id hid)
      · rw [List.mem_singleton.mp hid]
        exact Nat.lt_succ_self _
    · intro stop hstop hdead
      refine h.told stop hstop ?_
      rw [← Bool.not_eq_true, isAlive_iff] at hdead ⊢
      exact fun hid => hdead (by rw [List.map_append]; exact List.mem_append_left _ hid)

theorem beginStop (h : w.Told told) (hidle : w.isStopping caller = false) :
    (w.beginStop caller).Told told := by
  cases hcurrent : w.current? with
  | none =>
    rw [Worker.beginStop, hcurrent]
    exact ⟨h.callers, h.created, h.awaited, h.told⟩
  | some id =>
    rw [Worker.beginStop, hcurrent]
    have hid := (current?_eq_some_iff.mp hcurrent).2
    have hasked : (w.ask id).Told told := h.change id _
    refine ⟨?_, hasked.created, ?_, ?_⟩
    · rw [List.map_append, List.nodup_append]
      refine ⟨h.callers, List.nodup_singleton _, ?_⟩
      rintro c hc c' hc' rfl
      rw [List.map_singleton, List.mem_singleton] at hc'
      obtain ⟨stop, hstop, rfl⟩ := List.mem_map.mp hc
      have hstopping : w.isStopping caller = true := by
        rw [isStopping, List.lookup_isSome_iff]
        exact ⟨stop, hstop, by simp [hc']⟩
      rw [hidle] at hstopping
      cases hstopping
    · intro stop hstop
      obtain hstop | hstop := List.mem_append.mp hstop
      · exact h.awaited stop hstop
      · rw [List.mem_singleton.mp hstop]
        exact h.created id hid
    · intro stop hstop hdead
      obtain hstop | hstop := List.mem_append.mp hstop
      · exact hasked.told stop hstop hdead
      · -- the new wait is for a task that has not ended
        have hlives : (w.ask id).isAlive id = true := by
          rw [isAlive_ask]
          exact isAlive_iff.mpr hid
        rw [List.mem_singleton.mp hstop] at hdead
        exact absurd (hlives.symm.trans hdead) (by decide)

/-- When a task ends, those who wait for it are told. -/
theorem finish (h : w.Told told) (id : Nat) : (w.finish id).Told (told ++ w.stoppers id) where
  callers := h.callers
  created := by
    intro id' hid'
    rw [← isAlive_iff, isAlive_finish, Bool.and_eq_true] at hid'
    exact h.created id' (isAlive_iff.mp hid'.1)
  awaited := h.awaited
  told := by
    intro stop hstop hdead
    rw [isAlive_finish] at hdead
    by_cases hid : stop.2 = id
    · refine List.mem_append_right _ (List.mem_map.mpr ⟨stop, ?_, rfl⟩)
      exact List.mem_filter.mpr ⟨hstop, by simpa using hid⟩
    · refine List.mem_append_left _ (h.told stop hstop ?_)
      simpa [hid] using hdead

/-- A caller is found with the task that it waits for. -/
theorem lookup_stops (h : w.Told told) {stop : Nat × Nat} (hstop : stop ∈ w.stops) :
    w.stops.lookup stop.1 = some stop.2 := by
  obtain ⟨before, after, hstops⟩ := List.append_of_mem hstop
  refine List.lookup_eq_some_iff.mpr ⟨before, after, hstops, ?_⟩
  intro other hother
  have hnodup := h.callers
  rw [hstops, List.map_append, List.map_cons, List.nodup_append] at hnodup
  have hne := hnodup.2.2 _ (List.mem_map_of_mem hother) _ List.mem_cons_self
  simpa using Ne.symm hne

/-- A caller whose wait is not over need not be told. -/
theorem erase (h : w.Told told) (hover : w.mayEndStop caller = false)
    (hsub : ∀ c ∈ told, c ≠ caller → c ∈ told') : w.Told told' where
  callers := h.callers
  created := h.created
  awaited := h.awaited
  told := by
    intro stop hstop hdead
    refine hsub _ (h.told stop hstop hdead) ?_
    rintro rfl
    rw [mayEndStop, h.lookup_stops hstop] at hover
    dsimp only at hover
    rw [hdead] at hover
    cases hover

theorem endStop (h : w.Told told) (hsub : ∀ c ∈ told, c ≠ caller → c ∈ told') :
    (w.endStop caller).Told told' where
  callers := (List.Sublist.map _ List.filter_sublist).nodup h.callers
  created := h.created
  awaited := fun stop hstop => h.awaited stop (List.mem_of_mem_filter hstop)
  told := by
    intro stop hstop hdead
    have hkept := List.mem_filter.mp hstop
    exact hsub _ (h.told stop hkept.1 hdead) (by simpa using hkept.2)

/-- Everything but a start keeps this. -/
theorem move {s s' : Worker α × List Nat} (h : s.1.Told s.2) (hmove : Move s s') :
    s'.1.Told s'.2 := by
  cases hmove with
  | setPhase w told id phase => exact h.setPhase id phase
  | beginStop w told caller hidle => exact h.beginStop hidle
  | finish w told id => exact h.finish id
  | tell w hsub => exact h.mono hsub
  | endStop w caller hover hothers => exact h.endStop hothers
  | stay w caller hover hothers => exact h.erase hover hothers

theorem moves {s s' : Worker α × List Nat} (h : s.1.Told s.2) (hmoves : Moves s s') :
    s'.1.Told s'.2 := by
  induction hmoves with
  | refl => exact h
  | tail _ hmove ih => exact ih.move hmove

/-- A caller whose wait is over is going to be told. -/
theorem mem_of_mayEndStop (h : w.Told told) (hover : w.mayEndStop caller = true) :
    caller ∈ told := by
  rw [mayEndStop] at hover
  split at hover
  · next id hlookup =>
    obtain ⟨before, after, hstops, -⟩ := List.lookup_eq_some_iff.mp hlookup
    exact h.told (caller, id) (by simp [hstops]) (by simpa using hover)
  · cases hover

end Told

/-! ### A start in the gap -/

/-- In the gap of a stop the wait of some caller is over, and a start does not change that. -/
theorem exists_mayEndStop_start {told : List Nat} (htidy : w.Tidy) (htold : w.Told told)
    (hgap : w.IsClosing) (phase : α) : ∃ caller, (w.start phase).2.mayEndStop caller = true := by
  obtain ⟨hcurrent, hstops⟩ := hgap
  obtain ⟨⟨caller, id⟩, stops, hcons⟩ := List.exists_cons_of_ne_nil hstops
  refine ⟨caller, ?_⟩
  have hlookup : w.stops.lookup caller = some id := by simp [hcons]
  -- the new task has a number that no caller waits for
  have hne : id ≠ w.created := Nat.ne_of_lt (htold.awaited (caller, id) (by simp [hcons]))
  rw [start_of_current?_eq_none hcurrent, htidy.alive_eq_nil hcurrent]
  simp only [mayEndStop, hlookup, Bool.not_eq_true', ← Bool.not_eq_true, isAlive_iff]
  simpa using hne

/-- The end of a stop forgets a task that was started in its gap. -/
theorem not_tended_endStop_start (hcurrent : w.current? = none) (phase : α) (caller : Nat) :
    ¬ ((w.start phase).2.endStop caller).Tended := by
  intro htended
  rw [start_of_current?_eq_none hcurrent] at htended
  have hheld := htended.known (w.created, { phase }) (by simp [endStop]) rfl
  cases hheld

end AdmissionLedger.Worker
