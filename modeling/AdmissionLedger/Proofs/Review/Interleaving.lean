import AdmissionLedger.Proofs.Review.Decision
import Mathlib.Data.List.Induction

/-!
# Decisions while the rules change

Many decisions are under way at a time, and rules are replaced between any two of their
accesses to what they share: the rule store, the clock and the sink.  A decision takes
the content of the store once, under the lock, and holds both sets of rules of that one
content to its end.  So it ends as it would alone, under the rules that were in force at
one moment of its course.

## Main definitions

* `Course`, `Request.course` — a computation access by access; a decision as one.
* `Proceedings`, `Turn` — the decisions under way with what they share, and what can happen next.
* `Course.Proceeds` — a course went on by accesses at some moments of a run.

## Main results

* `decide_eq_run_course` — a decision alone is its course, run without a break.
* `Proceedings.proceeds_of_run` — what is left of a decision comes from the accesses that it made.
* `Proceedings.policy_run` — on each side the last rules written are in force.
* `Proceedings.decided_under_one_policy` — every decision is made under one content of the store.
-/

namespace AdmissionLedger

/-! ### Courses -/

/-- What is left to do of a computation that shares the rules, the clock and the sink with others.
It goes from one access to the next; nothing in between can be seen from outside. -/
inductive Course (α : Type)
  | ended (result : α)
  /-- The content of the rule store is taken, under its lock. -/
  | consult (next : Policy → Course α)
  | readClock (next : Int → Course α)
  | offer (e : Event) (next : Bool → Course α)

/-- The course of a decision that stamps a candidate and offers the event. -/
def Decision.stampCourse (uid : Text) (candidate : Event) (deniedBy : Option Text) (stage : Stage)
    (answer : Decision) : Course Decision :=
  .readClock fun ns =>
    match candidate.stamp ns deniedBy with
    | .error e => .ended (Decision.afterError uid stage e.message).value
    | .ok event => .offer event fun enqueued => .ended { answer with event := some event, enqueued }

/-- The course of the decision about a request.  The rules are consulted once, behind the candidate
and before both verdicts. -/
def Request.course (r : Request) : Course Decision :=
  match (Event.ofRequest r).value with
  | .error e =>
    if e.isRefusal then .ended (.failOpen r.uid e.message)
    else .ended (Decision.afterError r.uid .received e.message).value
  | .ok candidate => .consult fun policy =>
    match policy.rule candidate with
    | .deny pattern message =>
      Decision.stampCourse r.uid candidate (some pattern) .blockChecked
        ⟨r.uid, false, .denied, message, none, false⟩
    | .skip => .ended ⟨r.uid, true, .skipped, [], none, false⟩
    | .record =>
      Decision.stampCourse r.uid candidate none .ignoreChecked
        ⟨r.uid, true, .recorded, [], none, false⟩

section

variable {α σ : Type}

/-- The result of a course that has ended. -/
def Course.ended? : Course α → Option α
  | .ended a => some a
  | _ => none

/-- A course run without a break. -/
def Course.run (policy : Policy) (sink : Option (Sink σ)) : Course α → Clock → σ → α × Clock × σ
  | .ended a, clock, s => (a, clock, s)
  | .consult next, clock, s => (next policy).run policy sink clock s
  | .readClock next, clock, s => (next clock.now).run policy sink clock.next s
  | .offer e next, clock, s =>
    (next (Sink.offerTo sink e s).value.1).run policy sink clock (Sink.offerTo sink e s).value.2

theorem Decision.stampAndOffer_eq_run (policy : Policy) (sink : Option (Sink σ)) (clock : Clock)
    (s : σ) (uid : Text) (candidate : Event) (deniedBy : Option Text) (stage : Stage)
    (entry : Event → Log.Entry) (answer : Decision) :
    (stampAndOffer sink clock s uid candidate deniedBy stage entry answer).value
      = (stampCourse uid candidate deniedBy stage answer).run policy sink clock s := by
  unfold stampAndOffer stampCourse
  rw [Course.run]
  cases candidate.stamp clock.now deniedBy <;> rfl

/-- A decision alone is its course, run without a break. -/
theorem decide_eq_run_course (policy : Policy) (sink : Option (Sink σ)) (r : Request)
    (clock : Clock) (s : σ) :
    (decide policy sink r clock s).value = r.course.run policy sink clock s := by
  rw [decide, Logged.value_bind, Request.course]
  cases (Event.ofRequest r).value with
  | error e =>
    dsimp only
    split <;> rfl
  | ok candidate =>
    dsimp only
    rw [Course.run]
    cases policy.rule candidate with
    | deny pattern message => exact Decision.stampAndOffer_eq_run policy ..
    | skip => rfl
    | record => exact Decision.stampAndOffer_eq_run policy ..

/-! ### Proceedings -/

/-- The decisions under way, with what they share. -/
structure Proceedings (σ : Type) where
  /-- The content of the rule store. -/
  policy : Policy
  clock : Clock
  sink : σ
  /-- The decisions in the order in which they began, each with what is left of it. -/
  decisions : List (Course Decision) := []

/-- What can happen next. -/
inductive Turn (σ : Type)
  /-- Rules are replaced under the lock; a missing side keeps the rules it has. -/
  | replace (ignore : Option IgnoreRules) (block : Option BlockRules)
  | replaceIgnore (rules : IgnoreRules)
  | replaceBlock (rules : BlockRules)
  /-- A decision begins. -/
  | start (r : Request)
  /-- The decision that began after so many others makes its next access. -/
  | access (i : Nat)
  /-- Time passes, and others use the sink. -/
  | outside (clock : Clock) (sink : σ)

namespace Turn

/-- The ignore rules that a turn writes. -/
def ignore? : Turn σ → Option IgnoreRules
  | replace ignore _ => ignore
  | replaceIgnore rules => some rules
  | _ => none

/-- The block rules that a turn writes. -/
def block? : Turn σ → Option BlockRules
  | replace _ block => block
  | replaceBlock rules => some rules
  | _ => none

/-- Whether a decision begins. -/
def isStart : Turn σ → Bool
  | start _ => true
  | _ => false

/-- Whether a decision makes its next access. -/
def isAccess (i : Nat) : Turn σ → Bool
  | access j => j == i
  | _ => false

end Turn

/-- The next access of a course: what is then left of it, and what is then shared. -/
def Course.access (sink : Option (Sink σ)) (p : Proceedings σ) :
    Course Decision → Course Decision × Proceedings σ
  | .ended d => (.ended d, p)
  | .consult next => (next p.policy, p)
  | .readClock next => (next p.clock.now, { p with clock := p.clock.next })
  | .offer e next =>
    (next (Sink.offerTo sink e p.sink).value.1,
      { p with sink := (Sink.offerTo sink e p.sink).value.2 })

namespace Proceedings

/-- Proceedings before any decision. -/
def opening (policy : Policy) (clock : Clock) (s : σ) : Proceedings σ :=
  { policy, clock, sink := s }

/-- The proceedings after one turn. -/
def turn (sink : Option (Sink σ)) (p : Proceedings σ) : Turn σ → Proceedings σ
  | .replace ignore block => { p with policy := p.policy.replace ignore block }
  | .replaceIgnore rules => { p with policy := p.policy.replace (some rules) none }
  | .replaceBlock rules => { p with policy := p.policy.replace none (some rules) }
  | .start r => { p with decisions := p.decisions ++ [r.course] }
  | .access i =>
    match p.decisions[i]? with
    | some c => { (c.access sink p).2 with decisions := p.decisions.set i (c.access sink p).1 }
    | none => p
  | .outside clock s => { p with clock, sink := s }

/-- The proceedings after some turns. -/
def run (sink : Option (Sink σ)) (p : Proceedings σ) (turns : List (Turn σ)) : Proceedings σ :=
  turns.foldl (turn sink) p

theorem run_concat (sink : Option (Sink σ)) (p : Proceedings σ) (turns : List (Turn σ))
    (t : Turn σ) : run sink p (turns ++ [t]) = turn sink (run sink p turns) t := by
  rw [run, List.foldl_append]
  rfl

theorem run_append (sink : Option (Sink σ)) (p : Proceedings σ) (turns turns' : List (Turn σ)) :
    run sink p (turns ++ turns') = run sink (run sink p turns) turns' :=
  List.foldl_append ..

/-! ### The rules in force -/

theorem policy_access (sink : Option (Sink σ)) (p : Proceedings σ) (c : Course Decision) :
    (c.access sink p).2.policy = p.policy := by
  cases c <;> rfl

theorem turn_access_of_some {sink : Option (Sink σ)} {p : Proceedings σ} {i : Nat}
    {c : Course Decision} (h : p.decisions[i]? = some c) :
    turn sink p (.access i) =
      { (c.access sink p).2 with decisions := p.decisions.set i (c.access sink p).1 } := by
  rw [turn, h]

theorem turn_access_of_none {sink : Option (Sink σ)} {p : Proceedings σ} {i : Nat}
    (h : p.decisions[i]? = none) : turn sink p (.access i) = p := by
  rw [turn, h]

/-- A turn leaves on each side the rules that it writes, or else those in force. -/
theorem policy_turn (sink : Option (Sink σ)) (p : Proceedings σ) (t : Turn σ) :
    (turn sink p t).policy = p.policy.replace t.ignore? t.block? := by
  cases t with
  | access i =>
    cases h : p.decisions[i]? with
    | none =>
      rw [turn_access_of_none h]
      rfl
    | some c =>
      rw [turn_access_of_some h]
      exact policy_access sink p c
  | _ => rfl

/-- On each side the last rules written are in force, or those from before if none were. -/
theorem policy_run (sink : Option (Sink σ)) (p : Proceedings σ) (turns : List (Turn σ)) :
    (run sink p turns).policy = p.policy.replace (turns.filterMap Turn.ignore?).getLast?
      (turns.filterMap Turn.block?).getLast? := by
  induction turns using List.reverseRecOn with
  | nil => rfl
  | append_singleton turns t ih =>
    rw [run_concat, policy_turn, ih, List.filterMap_append, List.filterMap_append]
    cases hignore : t.ignore? <;> cases hblock : t.block? <;>
      simp [hignore, hblock, Policy.replace]

/-! ### Moments of a run -/

/-- The proceedings after the first turns of a run. -/
def moment (sink : Option (Sink σ)) (p : Proceedings σ) (turns : List (Turn σ)) (n : Nat) :
    Proceedings σ :=
  run sink p (turns.take n)

end Proceedings

/-- From one moment of a run to another a course went on to another: it rested, but for accesses at
some moments in between, which found what was shared at these moments. -/
inductive Course.Proceeds (sink : Option (Sink σ)) (moment : Nat → Proceedings σ) :
    Nat → Course Decision → Nat → Course Decision → Prop
  | rest {m n : Nat} {c : Course Decision} (h : m ≤ n) : Proceeds sink moment m c n c
  | access {m k n : Nat} {c c' : Course Decision} (h : m ≤ k)
      (later : Proceeds sink moment (k + 1) (c.access sink (moment k)).1 n c') :
      Proceeds sink moment m c n c'

namespace Course.Proceeds

variable {sink : Option (Sink σ)} {moment : Nat → Proceedings σ} {m n : Nat}
  {c c' : Course Decision}

theorem le (h : Proceeds sink moment m c n c') : m ≤ n := by
  induction h with
  | rest h => exact h
  | access h _ ih => omega

/-- A course can go on to rest. -/
theorem wait (h : Proceeds sink moment m c n c') {k : Nat} (hk : n ≤ k) :
    Proceeds sink moment m c k c' := by
  induction h with
  | rest h => exact .rest (h.trans hk)
  | access h _ ih => exact .access h (ih hk)

/-- A course can go on by an access. -/
theorem step (h : Proceeds sink moment m c n c') :
    Proceeds sink moment m c (n + 1) (c'.access sink (moment n)).1 := by
  induction h with
  | rest h => exact .access h (.rest (le_refl _))
  | access h _ ih => exact .access h ih

/-- How a course goes on depends on the moments before its end only. -/
theorem congr {moment' : Nat → Proceedings σ} (h : Proceeds sink moment m c n c')
    (hmoment : ∀ k < n, moment k = moment' k) : Proceeds sink moment' m c n c' := by
  induction h with
  | rest h => exact .rest h
  | @access m k n c c' hk later ih =>
    refine .access hk ?_
    rw [← hmoment k later.le]
    exact ih hmoment

/-- A course that has ended stays as it is. -/
theorem of_ended {d : Decision} (h : Proceeds sink moment m (.ended d) n c') :
    c' = .ended d := by
  generalize hc : Course.ended d = c at h
  induction h with
  | rest => rfl
  | access _ _ ih =>
    subst hc
    exact ih rfl

/-- A course that has not ended makes an access before it has. -/
theorem exists_access {d : Decision} (h : Proceeds sink moment m c n (.ended d))
    (hc : c ≠ .ended d) : ∃ k, m ≤ k ∧ k < n ∧
      Proceeds sink moment (k + 1) (c.access sink (moment k)).1 n (.ended d) := by
  cases h with
  | rest => exact absurd rfl hc
  | access hk later => exact ⟨_, hk, later.le, later⟩

end Course.Proceeds

namespace Proceedings

variable (sink : Option (Sink σ)) (p : Proceedings σ)

theorem moment_concat {turns : List (Turn σ)} {n : Nat} (h : n ≤ turns.length) (t : Turn σ) :
    moment sink p (turns ++ [t]) n = moment sink p turns n := by
  rw [moment, moment, List.take_append_of_le_length h]

theorem moment_length (turns : List (Turn σ)) :
    moment sink p turns turns.length = run sink p turns := by
  rw [moment, List.take_length]

/-- As many decisions have begun as there were turns that begin one. -/
theorem length_decisions_run (turns : List (Turn σ)) :
    (run sink p turns).decisions.length = p.decisions.length + turns.countP Turn.isStart := by
  induction turns using List.reverseRecOn with
  | nil => rfl
  | append_singleton turns t ih =>
    rw [run_concat, List.countP_append, ← Nat.add_assoc, ← ih]
    cases t with
    | start r => simp [turn, Turn.isStart]
    | access i =>
      cases h : (run sink p turns).decisions[i]? with
      | none => simp [turn_access_of_none h, Turn.isStart]
      | some c => simp [turn_access_of_some h, Turn.isStart]
    | _ => simp [turn, Turn.isStart]

/-- What a turn makes of the decision at a place: it begins, goes on by an access, or rests. -/
theorem decisions_turn {t : Turn σ} {i : Nat} {c : Course Decision}
    (h : (turn sink p t).decisions[i]? = some c) :
    (∃ r, t = .start r ∧ i = p.decisions.length ∧ c = r.course) ∨
      ∃ c', p.decisions[i]? = some c' ∧ (c = c' ∨ c = (c'.access sink p).1) := by
  cases t with
  | start r =>
    rw [turn, List.getElem?_append] at h
    split at h
    · exact .inr ⟨c, h, .inl rfl⟩
    · next hlength =>
      rw [List.getElem?_singleton] at h
      split at h
      · next hzero =>
        cases h
        exact .inl ⟨r, rfl, by omega, rfl⟩
      · cases h
  | access j =>
    right
    cases hj : p.decisions[j]? with
    | none =>
      rw [turn_access_of_none hj] at h
      exact ⟨c, h, .inl rfl⟩
    | some c' =>
      rw [turn_access_of_some hj, List.getElem?_set] at h
      split at h
      · next heq =>
        subst heq
        split at h
        · cases h
          exact ⟨c', hj, .inr rfl⟩
        · cases h
      · exact ⟨c, h, .inl rfl⟩
  | _ => exact .inr ⟨c, h, .inl rfl⟩

/-- What is left of a decision at the end of a run comes from its whole course, by the accesses
that it made since it began. -/
theorem proceeds_of_run (hp : p.decisions = []) (turns : List (Turn σ)) {i : Nat}
    {c : Course Decision} (h : (run sink p turns).decisions[i]? = some c) :
    ∃ before r after, turns = before ++ .start r :: after ∧ before.countP Turn.isStart = i ∧
      Course.Proceeds sink (moment sink p turns) (before.length + 1) r.course turns.length c := by
  induction turns using List.reverseRecOn generalizing c with
  | nil =>
    rw [run, List.foldl_nil, hp] at h
    cases h
  | append_singleton turns t ih =>
    rw [run_concat] at h
    obtain ⟨r, rfl, rfl, rfl⟩ | ⟨c', hc', hc⟩ := decisions_turn sink _ h
    · refine ⟨turns, r, [], rfl, ?_, ?_⟩
      · rw [length_decisions_run, hp, List.length_nil, Nat.zero_add]
      · rw [List.length_append]
        exact .rest (le_refl _)
    · obtain ⟨before, r, after, rfl, hcount, hproceeds⟩ := ih hc'
      refine ⟨before, r, after ++ [t], by simp, hcount, ?_⟩
      -- the turn is one more moment, at which the decision rested or made an access
      have hsame :
          Course.Proceeds sink (moment sink p (before ++ .start r :: after ++ [t])) _ _ _ _ :=
        hproceeds.congr fun k hk => (moment_concat sink p hk.le t).symm
      rw [List.length_append, List.length_singleton]
      rcases hc with rfl | rfl
      · exact hsame.wait (Nat.le_succ _)
      · have hstep := hsame.step
        rw [moment_concat sink p (le_refl _), moment_length] at hstep
        exact hstep

end Proceedings

/-! ### One content of the store -/

section

variable {sink : Option (Sink σ)} {moment : Nat → Proceedings σ} {m n : Nat} {d : Decision}

/-- A decision that stamps a candidate ends as with the clock of one moment and the sink of one. -/
theorem Decision.run_of_proceeds_stampCourse {uid : Text} {candidate : Event}
    {deniedBy : Option Text} {stage : Stage} {answer : Decision}
    (h : Course.Proceeds sink moment m
      (stampCourse uid candidate deniedBy stage answer) n (.ended d)) (policy : Policy) :
    ∃ k l, m ≤ k ∧ k ≤ l ∧ l < n ∧
      ((stampCourse uid candidate deniedBy stage answer).run policy sink (moment k).clock
        (moment l).sink).1 = d := by
  obtain ⟨k, hk, hkn, h⟩ := h.exists_access fun h => nomatch h
  have hread : ((stampCourse uid candidate deniedBy stage answer).access sink (moment k)).1 =
      match candidate.stamp (moment k).clock.now deniedBy with
      | .error e => .ended (afterError uid stage e.message).value
      | .ok event => .offer event fun enqueued =>
        .ended { answer with event := some event, enqueued } := rfl
  rw [hread] at h
  unfold stampCourse
  cases hstamp : candidate.stamp (moment k).clock.now deniedBy with
  | error e =>
    rw [hstamp] at h
    refine ⟨k, k, hk, le_refl _, hkn, ?_⟩
    rw [Course.run, hstamp]
    exact Course.ended.inj h.of_ended.symm
  | ok event =>
    rw [hstamp] at h
    obtain ⟨l, hl, hln, h⟩ := h.exists_access fun h => nomatch h
    refine ⟨k, l, hk, by omega, hln, ?_⟩
    rw [Course.run, hstamp]
    exact Course.ended.inj h.of_ended.symm

/-- A decision that came to its end is made under the rules of one moment of its course, with the
clock of one and the sink of one. -/
theorem Request.decide_of_proceeds {r : Request}
    (h : Course.Proceeds sink moment m r.course n (.ended d)) :
    ∃ j k l, m ≤ j ∧ j ≤ k ∧ k ≤ l ∧ l ≤ n ∧
      (decide (moment j).policy sink r (moment k).clock (moment l).sink).value.1 = d := by
  simp only [decide_eq_run_course]
  unfold Request.course at h ⊢
  cases hcandidate : (Event.ofRequest r).value with
  | error e =>
    rw [hcandidate] at h
    refine ⟨m, m, m, le_refl _, le_refl _, le_refl _, h.le, ?_⟩
    dsimp only at h ⊢
    split at h
    · next hrefusal =>
      rw [if_pos hrefusal]
      exact Course.ended.inj h.of_ended.symm
    · next hrefusal =>
      rw [if_neg hrefusal]
      exact Course.ended.inj h.of_ended.symm
  | ok candidate =>
    rw [hcandidate] at h
    obtain ⟨j, hj, hjn, h⟩ := h.exists_access fun h => nomatch h
    dsimp only [Course.access] at h
    dsimp only [Course.run]
    cases hrule : (moment j).policy.rule candidate with
    | deny pattern message =>
      rw [hrule] at h
      obtain ⟨k, l, hk, hkl, hln, hrun⟩ :=
        Decision.run_of_proceeds_stampCourse h (moment j).policy
      exact ⟨j, k, l, hj, by omega, hkl, hln.le, by rw [hrule]; exact hrun⟩
    | skip =>
      rw [hrule] at h
      refine ⟨j, j, j, hj, le_refl _, le_refl _, hjn.le, ?_⟩
      rw [hrule]
      exact Course.ended.inj h.of_ended.symm
    | record =>
      rw [hrule] at h
      obtain ⟨k, l, hk, hkl, hln, hrun⟩ :=
        Decision.run_of_proceeds_stampCourse h (moment j).policy
      exact ⟨j, k, l, hj, by omega, hkl, hln.le, by rw [hrule]; exact hrun⟩

end

/-! ### Every decision comes to its end -/

/-- A course ends with so many accesses at most, whatever they find. -/
def Course.EndsWithin {α : Type} : Nat → Course α → Prop
  | _, .ended _ => True
  | 0, _ => False
  | k + 1, .consult next => ∀ policy, (next policy).EndsWithin k
  | k + 1, .readClock next => ∀ ns, (next ns).EndsWithin k
  | k + 1, .offer _ next => ∀ accepted, (next accepted).EndsWithin k

theorem Decision.endsWithin_stampCourse (uid : Text) (candidate : Event) (deniedBy : Option Text)
    (stage : Stage) (answer : Decision) :
    (stampCourse uid candidate deniedBy stage answer).EndsWithin 2 := by
  intro ns
  dsimp only
  cases candidate.stamp ns deniedBy with
  | error e => trivial
  | ok event => exact fun _ => trivial

/-- A decision makes three accesses at most: to the rules, to the clock and to the sink. -/
theorem Request.endsWithin_course (r : Request) : r.course.EndsWithin 3 := by
  unfold Request.course
  cases (Event.ofRequest r).value with
  | error e =>
    dsimp only
    split <;> trivial
  | ok candidate =>
    intro policy
    dsimp only
    cases policy.rule candidate with
    | deny pattern message => exact Decision.endsWithin_stampCourse _ _ _ _ _
    | skip => trivial
    | record => exact Decision.endsWithin_stampCourse _ _ _ _ _

theorem Course.EndsWithin.exists_ended {α : Type} {c : Course α} (h : c.EndsWithin 0) :
    ∃ a, c = .ended a := by
  cases c with
  | ended a => exact ⟨a, rfl⟩
  | _ => exact h.elim

/-- An access brings a course nearer to its end. -/
theorem Course.EndsWithin.access {c : Course Decision} {k : Nat} (h : c.EndsWithin k)
    (sink : Option (Sink σ)) (p : Proceedings σ) : (c.access sink p).1.EndsWithin (k - 1) := by
  cases k with
  | zero =>
    obtain ⟨d, rfl⟩ := h.exists_ended
    trivial
  | succ k =>
    cases c with
    | ended d => cases k <;> trivial
    | consult next => exact h _
    | readClock next => exact h _
    | offer e next => exact h _

namespace Proceedings

/-- A turn keeps a decision as near to its end as it was, and its own access brings it nearer. -/
theorem endsWithin_turn (sink : Option (Sink σ)) {p : Proceedings σ} {i k : Nat}
    {c : Course Decision} (hc : p.decisions[i]? = some c) (h : c.EndsWithin k) (t : Turn σ) :
    ∃ c', (turn sink p t).decisions[i]? = some c' ∧
      c'.EndsWithin (k - if t.isAccess i then 1 else 0) := by
  have hi : i < p.decisions.length := (List.getElem?_eq_some_iff.mp hc).1
  cases t with
  | start r => exact ⟨c, by rw [turn, List.getElem?_append_left hi, hc], h⟩
  | access j =>
    by_cases hji : j = i
    · subst hji
      refine ⟨(c.access sink p).1, ?_, ?_⟩
      · rw [turn_access_of_some hc, List.getElem?_set_self hi]
      · rw [Turn.isAccess, beq_self_eq_true, if_pos rfl]
        exact h.access sink p
    · refine ⟨c, ?_, ?_⟩
      · cases hj : p.decisions[j]? with
        | none => rw [turn_access_of_none hj, hc]
        | some c' => rw [turn_access_of_some hj, List.getElem?_set_ne hji, hc]
      · rw [Turn.isAccess, beq_false_of_ne hji]
        exact h
  | _ => exact ⟨c, hc, h⟩

/-- A decision that makes as many accesses as it can need has come to its end. -/
theorem exists_ended_of_endsWithin (sink : Option (Sink σ)) {turns : List (Turn σ)}
    {p : Proceedings σ} {i k : Nat} {c : Course Decision} (hc : p.decisions[i]? = some c)
    (h : c.EndsWithin k) (hturns : k ≤ turns.countP (Turn.isAccess i)) :
    ∃ d, (run sink p turns).decisions[i]? = some (.ended d) := by
  induction turns generalizing p k c with
  | nil =>
    rw [List.countP_nil, Nat.le_zero] at hturns
    subst hturns
    obtain ⟨d, rfl⟩ := h.exists_ended
    exact ⟨d, hc⟩
  | cons t turns ih =>
    obtain ⟨c', hc', h'⟩ := endsWithin_turn sink hc h t
    rw [List.countP_cons] at hturns
    exact ih hc' h' (by omega)

section

variable {sink : Option (Sink σ)} {p : Proceedings σ} {turns : List (Turn σ)} {i : Nat}

/-- A decision that has come to its end at some moment ended as it would alone under the rules of
one moment since it began, with the clock of one moment and the sink of one. -/
theorem exists_moments_of_ended (hp : p.decisions = []) {n : Nat} {d : Decision}
    (h : (moment sink p turns n).decisions[i]? = some (.ended d)) :
    ∃ b r j k l, turns[b]? = some (.start r) ∧ (turns.take b).countP Turn.isStart = i ∧
      b < j ∧ j ≤ k ∧ k ≤ l ∧ l ≤ n ∧
      (decide (moment sink p turns j).policy sink r (moment sink p turns k).clock
        (moment sink p turns l).sink).value.1 = d := by
  -- the run up to the moment is a run of its own, with the same moments
  obtain ⟨before, r, after, hturns, hcount, hproceeds⟩ :=
    proceeds_of_run sink p hp (turns.take n) h
  have hn : (turns.take n).length ≤ n := List.length_take_le n turns
  have hmoment : ∀ k < (turns.take n).length,
      moment sink p (turns.take n) k = moment sink p turns k := by
    intro k hk
    rw [moment, List.take_take, min_eq_left (by omega), moment]
  obtain ⟨j, k, l, hj, hjk, hkl, hl, hdecide⟩ :=
    Request.decide_of_proceeds (hproceeds.congr hmoment)
  have hlength := congrArg List.length hturns
  rw [List.length_append, List.length_cons] at hlength
  refine ⟨before.length, r, j, k, l, ?_, ?_, by omega, hjk, hkl, by omega, hdecide⟩
  · have hget : (turns.take n)[before.length]? = some (.start r) := by
      rw [hturns, List.getElem?_append_right (le_refl _), Nat.sub_self, List.getElem?_cons_zero]
    rwa [List.getElem?_take_of_lt (by omega)] at hget
  · have htake : (turns.take n).take before.length = before := by
      rw [hturns, List.take_left]
    rw [List.take_take, min_eq_left (by omega)] at htake
    rw [htake, hcount]

/-- A decision comes to its end with its third access at the latest. -/
theorem exists_ended_of_accesses (hp : p.decisions = []) {b : Nat} {r : Request}
    (hb : turns[b]? = some (.start r)) (hi : (turns.take b).countP Turn.isStart = i)
    (haccesses : 3 ≤ (turns.drop (b + 1)).countP (Turn.isAccess i)) :
    ∃ d, (run sink p turns).decisions[i]? = some (.ended d) := by
  obtain ⟨hlt, hget⟩ := List.getElem?_eq_some_iff.mp hb
  have hbegun : (run sink p (turns.take b ++ [.start r])).decisions[i]? = some r.course := by
    have hlength : i = (run sink p (turns.take b)).decisions.length := by
      rw [length_decisions_run, hi, hp, List.length_nil, Nat.zero_add]
    rw [run_concat, turn, hlength, List.getElem?_concat_length]
  have hturns : turns = turns.take b ++ [.start r] ++ turns.drop (b + 1) := by
    rw [← hget, List.take_append_getElem, List.take_append_drop]
  rw [hturns, run_append]
  exact exists_ended_of_endsWithin sink hbegun r.endsWithin_course haccesses

end

/-- At whatever moment a decision has come to its end, it ended as it would alone under the rules
that were in force at one moment since it began, with the clock of one moment and the sink of one;
and it comes to its end with its third access at the latest.  On each side the rules in force after
a run are the last that were written, or the first if none were. -/
theorem decided_under_one_policy (sink : Option (Sink σ)) (policy : Policy) (clock : Clock) (s : σ)
    (turns : List (Turn σ)) :
    let p := opening policy clock s
    (∀ n i d, (moment sink p turns n).decisions[i]? = some (.ended d) →
      ∃ b r j k l, turns[b]? = some (.start r) ∧ (turns.take b).countP Turn.isStart = i ∧
        b < j ∧ j ≤ k ∧ k ≤ l ∧ l ≤ n ∧
        (decide (moment sink p turns j).policy sink r (moment sink p turns k).clock
          (moment sink p turns l).sink).value.1 = d) ∧
      (∀ b r i, turns[b]? = some (.start r) → (turns.take b).countP Turn.isStart = i →
        3 ≤ (turns.drop (b + 1)).countP (Turn.isAccess i) →
          ∃ d, (run sink p turns).decisions[i]? = some (.ended d)) ∧
      (run sink p turns).policy =
        ⟨(turns.filterMap Turn.ignore?).getLast?.or policy.ignore,
          (turns.filterMap Turn.block?).getLast?.or policy.block⟩ := by
  intro p
  exact ⟨fun _ _ _ => exists_moments_of_ended rfl, fun _ _ _ => exists_ended_of_accesses rfl,
    policy_run sink p turns⟩

/-- A creation is decided while the namespace is opened and ignored. -/
def exampleTurns : List (Turn (List Event)) :=
  [.start { uid := "u1", name := "web", scope := "prod", operation := "CREATE" }, .access 0,
    .replaceBlock {}, .access 0, .replaceIgnore { namespaces := ["prod"] }, .access 0]

theorem decided_under_one_policy_exampleTurns :
    let p := opening (.closing "prod") .exampleReading []
    ∃ d, (moment (some .keeping) p exampleTurns 6).decisions[0]? = some (.ended d) ∧
      d.outcome = .denied ∧
      ∃ b r j k l, exampleTurns[b]? = some (.start r) ∧
        (exampleTurns.take b).countP Turn.isStart = 0 ∧ b < j ∧ j ≤ k ∧ k ≤ l ∧ l ≤ 6 ∧
        (decide (moment (some .keeping) p exampleTurns j).policy (some .keeping) r
          (moment (some .keeping) p exampleTurns k).clock
          (moment (some .keeping) p exampleTurns l).sink).value.1 = d := by
  intro p
  have hdecided := decided_under_one_policy (some .keeping) (.closing "prod") .exampleReading []
    exampleTurns
  obtain ⟨d, hd⟩ := hdecided.2.1 0 _ 0 rfl rfl (by decide)
  have hend : (moment (some .keeping) p exampleTurns 6).decisions[0]? = some (.ended d) := hd
  have houtcome : ((moment (some .keeping) p exampleTurns 6).decisions[0]?.bind Course.ended?).map
      Decision.outcome = some .denied := by decide +kernel
  rw [hend] at houtcome
  exact ⟨d, hend, Option.some.inj houtcome, hdecided.1 6 0 d hend⟩

end Proceedings

end

end AdmissionLedger
