import AdmissionLedger.Proofs.Relay.Worker

/-!
# Components that keep one task

A component is started and stopped by many callers at once, its jobs run in between in
any order, and whatever else can happen to it does.  All this is a list of turns.

## Main definitions

* `Keeper` — a component with what can happen to it, and with what its turns do to its tasks.
* `Keeper.run` — turn after turn.
* `Keeper.Timely` — no start of a run is in the gap of a stop.

## Main results

* `Keeper.tidy_run` — the invariant along runs without such a start.
* `Keeper.tended_iff_timely` — at every moment there is at most one task, known unless it was
  asked to end, exactly if the run has no such start.
-/

namespace AdmissionLedger

/-- A component that keeps one task, with the turns that can happen to it. -/
structure Keeper (S T α : Type) where
  worker : S → Worker α
  turn : S → T → S
  isStart : T → Bool
  /-- Whether a turn only lets run what stands in line. -/
  isJob : T → Bool
  /-- The callers for whom a job stands in line that lets them go on. -/
  told : S → List Nat
  isStart_of_isJob : ∀ t, isJob t = true → isStart t = false
  start_turn : ∀ s t, isStart t = true →
    ∃ phase, worker (turn s t) = ((worker s).start phase).2 ∧ told s ⊆ told (turn s t)
  moves_turn : ∀ s t, isStart t = false →
    Worker.Moves (worker s, told s) (worker (turn s t), told (turn s t))
  exists_job : ∀ s caller, caller ∈ told s → (worker s).mayEndStop caller = true →
    ∃ t, isJob t = true ∧ worker (turn s t) = (worker s).endStop caller

namespace Keeper

variable {S T α : Type} (k : Keeper S T α)

/-- Turn after turn. -/
def run (s : S) (turns : List T) : S :=
  turns.foldl k.turn s

/-- No start is in the gap of a stop. -/
def Timely : S → List T → Prop
  | _, [] => True
  | s, t :: turns => (k.isStart t = true → ¬ (k.worker s).IsClosing) ∧ Timely (k.turn s t) turns

instance decidableTimely : ∀ s turns, Decidable (k.Timely s turns)
  | _, [] => .isTrue trivial
  | s, t :: turns =>
    have := decidableTimely (k.turn s t) turns
    inferInstanceAs (Decidable ((k.isStart t = true → ¬ (k.worker s).IsClosing) ∧
      k.Timely (k.turn s t) turns))

/-- What every turn has to keep. -/
structure Sound (s : S) : Prop where
  tidy : (k.worker s).Tidy
  told : (k.worker s).Told (k.told s)

variable {k} {s : S} {t : T} {turns more : List T}

@[simp] theorem run_nil (s : S) : k.run s [] = s := rfl

@[simp] theorem run_cons (s : S) (t : T) (turns : List T) :
    k.run s (t :: turns) = k.run (k.turn s t) turns := rfl

theorem Timely.append (h : k.Timely s turns) (hmore : k.Timely (k.run s turns) more) :
    k.Timely s (turns ++ more) := by
  induction turns generalizing s with
  | nil => exact hmore
  | cons t turns ih => exact ⟨h.1, ih h.2 hmore⟩

theorem Timely.take (h : k.Timely s turns) (n : Nat) : k.Timely s (turns.take n) := by
  induction turns generalizing s n with
  | nil => rwa [List.take_nil]
  | cons t turns ih =>
    cases n with
    | zero => exact trivial
    | succ n => exact ⟨h.1, ih h.2 n⟩

/-- Jobs start nothing. -/
theorem timely_of_isJob (h : ∀ t ∈ turns, k.isJob t = true) (s : S) : k.Timely s turns := by
  induction turns generalizing s with
  | nil => exact trivial
  | cons t turns ih =>
    rw [List.forall_mem_cons] at h
    refine ⟨fun hstart => ?_, ih h.2 _⟩
    rw [k.isStart_of_isJob t h.1] at hstart
    cases hstart

/-- Every turn tells the callers whom it has to tell. -/
theorem told_turn (h : (k.worker s).Told (k.told s)) (t : T) :
    (k.worker (k.turn s t)).Told (k.told (k.turn s t)) := by
  cases hstart : k.isStart t with
  | true =>
    obtain ⟨phase, heq, hsub⟩ := k.start_turn s t hstart
    rw [heq]
    exact (h.start phase).mono hsub
  | false => exact h.moves (k.moves_turn s t hstart)

/-- One turn keeps what has to be kept, unless it is a start in the gap of a stop. -/
theorem Sound.turn (h : k.Sound s) (htimely : k.isStart t = true → ¬ (k.worker s).IsClosing) :
    k.Sound (k.turn s t) := by
  refine ⟨?_, told_turn h.told t⟩
  cases hstart : k.isStart t with
  | true =>
    obtain ⟨phase, heq, -⟩ := k.start_turn s t hstart
    rw [heq]
    exact h.tidy.start (htimely hstart) phase
  | false => exact h.tidy.moves (k.moves_turn s t hstart)

/-- So do all turns of a timely run. -/
theorem Sound.run (h : k.Sound s) (htimely : k.Timely s turns) : k.Sound (k.run s turns) := by
  induction turns generalizing s with
  | nil => exact h
  | cons t turns ih => exact ih (h.turn htimely.1) htimely.2

/-- After a start in the gap of a stop, one job is enough to leave a task that the component does
not know. -/
theorem exists_not_tended (h : k.Sound s) (hstart : k.isStart t = true)
    (hgap : (k.worker s).IsClosing) :
    ∃ job, k.isJob job = true ∧ ¬ (k.worker (k.run s [t, job])).Tended := by
  obtain ⟨phase, heq, -⟩ := k.start_turn s t hstart
  obtain ⟨caller, hover⟩ := Worker.exists_mayEndStop_start h.tidy h.told hgap phase
  rw [← heq] at hover
  have htold := (told_turn h.told t).mem_of_mayEndStop hover
  obtain ⟨job, hjob, hend⟩ := k.exists_job _ caller htold hover
  refine ⟨job, hjob, ?_⟩
  rw [run_cons, run_cons, run_nil, hend, heq]
  exact Worker.not_tended_endStop_start hgap.1 phase caller

/-- At every moment of a run, and of what its jobs may still bring about, there is at most one task,
which is known unless it was asked to end, exactly if no start is in the gap of a stop. -/
theorem tended_iff_timely (h : k.Sound s) (turns : List T) :
    (∀ n later, (∀ t ∈ later, k.isJob t = true) →
      (k.worker (k.run s (turns.take n ++ later))).Tended) ↔ k.Timely s turns := by
  constructor
  · intro htended
    induction turns generalizing s with
    | nil => exact trivial
    | cons t turns ih =>
      -- a start in the gap would show after one more job
      have hfirst : k.isStart t = true → ¬ (k.worker s).IsClosing := by
        intro hstart hgap
        obtain ⟨job, hjob, hsplit⟩ := exists_not_tended h hstart hgap
        exact hsplit (htended 1 [job] (by simpa using hjob))
      exact ⟨hfirst, ih (h.turn hfirst) fun n later hjobs => htended (n + 1) later hjobs⟩
  · -- jobs start nothing, so that a timely run stays timely with them behind it
    intro htimely n later hjobs
    have hrun := (htimely.take n).append (timely_of_isJob hjobs _)
    exact (h.run hrun).tidy.tended

end Keeper

end AdmissionLedger
