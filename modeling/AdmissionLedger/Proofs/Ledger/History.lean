import AdmissionLedger.Proofs.Ledger.Saving
import Mathlib.Data.List.Nodup

/-!
# The history of a ledger

A ledger works one call at a time: a save lets an earlier event of the same identity go,
and the oldest event when there is no room.  All that it has in the end can be told from
the whole history at once: of the events that were saved only the last of each identity
counts, and of these the last ones, as many as there is room for.  An event that was
pushed out and is saved again leaves no trace of its first time.

## Main definitions

* `Ledger.lastOfEach` — of some events, the last of each identity.
* `Storage.Call`, `Storage.callAll` — what is asked of a store, and what it is afterwards.
* `Storage.savedByAll` — the events that calls save.
* `Ledger.Holds`, `Ledger.Remembers` — a ledger is what calls have made of it, and shows it.

## Main results

* `Ledger.lastOfEach_concat` — one more event takes the place of the earlier one.
* `Ledger.Holds.call` — the invariant.
* `Ledger.remembers_callAll` — what a ledger shows after any calls.
-/

namespace AdmissionLedger

namespace Ledger

/-! ### The last of each identity -/

/-- Of some events the last of each identity, in their order. -/
def lastOfEach : List Event → List Event
  | [] => []
  | e :: events =>
    if e.id ∈ events.map (·.id) then lastOfEach events else e :: lastOfEach events

theorem lastOfEach_sublist (events : List Event) : (lastOfEach events).Sublist events := by
  induction events with
  | nil => exact .slnil
  | cons e events ih =>
    rw [lastOfEach]
    split
    · exact ih.cons e
    · exact ih.cons_cons e

theorem nodup_lastOfEach (events : List Event) : ((lastOfEach events).map (·.id)).Nodup := by
  induction events with
  | nil => exact .nil
  | cons e events ih =>
    rw [lastOfEach]
    split
    · exact ih
    · next hlast =>
      refine List.nodup_cons.mpr ⟨fun hmem => hlast ?_, ih⟩
      exact ((lastOfEach_sublist events).map _).subset hmem

/-- One more event takes the place of the last of its identity, but at the end. -/
theorem lastOfEach_concat (events : List Event) (e : Event) :
    lastOfEach (events ++ [e]) = append (lastOfEach events) e := by
  induction events with
  | nil => rfl
  | cons first events ih =>
    have hlater : first.id ∈ (events ++ [e]).map (·.id) ↔
        first.id ∈ events.map (·.id) ∨ first.id = e.id := by simp
    rw [List.cons_append, lastOfEach, lastOfEach, ih]
    -- the first event goes for a later one already, or for the one that comes, or stays
    by_cases hmem : first.id ∈ events.map (·.id)
    · rw [if_pos (hlater.mpr (.inl hmem)), if_pos hmem]
    · rw [if_neg hmem]
      by_cases hid : first.id = e.id
      · rw [if_pos (hlater.mpr (.inr hid)), append, append,
          List.filter_cons_of_neg (by simp [hid])]
      · rw [if_neg (mt hlater.mp (not_or.mpr ⟨hmem, hid⟩)), append, append,
          List.filter_cons_of_pos (by simp [hid]), List.cons_append]

end Ledger

/-! ### Calls -/

namespace Storage

/-- What can be asked of a store. -/
inductive Call
  | save (e : Event)
  | close

/-- A store after a call. -/
def call (s : Storage) : Call → Storage
  | .save e => (s.save e).2
  | .close => s.close

/-- The event that a call saves, if it does. -/
def savedBy (s : Storage) : Call → List Event
  | .save e => if (s.save e).1 = some .saved then [e] else []
  | .close => []

/-- A store after calls one after the other. -/
def callAll (s : Storage) : List Call → Storage
  | [] => s
  | c :: calls => (s.call c).callAll calls

/-- The events that calls save one after the other. -/
def savedByAll (s : Storage) : List Call → List Event
  | [] => []
  | c :: calls => s.savedBy c ++ (s.call c).savedByAll calls

theorem callAll_concat (s : Storage) (calls : List Call) (c : Call) :
    s.callAll (calls ++ [c]) = (s.callAll calls).call c := by
  induction calls generalizing s with
  | nil => rfl
  | cons first calls ih => exact ih (s.call first)

theorem savedByAll_concat (s : Storage) (calls : List Call) (c : Call) :
    s.savedByAll (calls ++ [c]) = s.savedByAll calls ++ (s.callAll calls).savedBy c := by
  induction calls generalizing s with
  | nil => exact List.append_nil _
  | cons first calls ih =>
    rw [List.cons_append, savedByAll, savedByAll, callAll, ih, List.append_assoc]

end Storage

namespace Ledger

open Storage

/-! ### What calls leave in a ledger -/

/-- A ledger is what calls have made of an empty one with some capacity, given the events that they
saved. -/
structure Holds (capacity : Nat) (calls : List Call) (saved : List Event) (l : Ledger) : Prop where
  capacity_eq : l.capacity = capacity
  events_eq : l.events = (lastOfEach saved).rtake capacity
  closed_iff : l.closed = true ↔ Call.close ∈ calls

section

variable {capacity : Nat} {calls : List Call} {saved : List Event} {l : Ledger}

theorem Holds.nodup_ids (h : l.Holds capacity calls saved) : l.ids.Nodup := by
  rw [ids, h.events_eq]
  exact (nodup_lastOfEach saved).sublist ((List.drop_suffix _ _).sublist.map _)

/-- One more call leaves in the ledger what all calls together leave there. -/
theorem Holds.call (h : l.Holds capacity calls saved) (c : Call) :
    ∃ l', (ledger l).call c = ledger l' ∧
      l'.Holds capacity (calls ++ [c]) (saved ++ (ledger l).savedBy c) := by
  cases c with
  | close =>
    refine ⟨l.close, rfl, h.capacity_eq, ?_, iff_of_true rfl (by simp)⟩
    rw [savedBy, List.append_nil]
    exact h.events_eq
  | save e =>
    have hclosed : l.closed = true ↔ Call.close ∈ calls ++ [.save e] := by simp [h.closed_iff]
    obtain ⟨-, error, hsave⟩ | ⟨-, hsave⟩ := save_ledger_cases l e
    · -- nothing is saved, and nothing changes
      refine ⟨l, congrArg Prod.snd hsave, h.capacity_eq, ?_, hclosed⟩
      rw [savedBy, hsave, if_neg (by simp), List.append_nil]
      exact h.events_eq
    · refine ⟨_, congrArg Prod.snd hsave, h.capacity_eq, ?_, hclosed⟩
      have hcapacity : 0 < capacity := h.capacity_eq ▸ l.capacity_pos
      -- what was pushed out before would be pushed out now
      have hevents : latest l.capacity (append l.events e) =
          latest capacity (append (lastOfEach saved) e) := by
        rw [h.capacity_eq, h.events_eq, ← latest_eq_rtake,
          latest_append_latest hcapacity (nodup_lastOfEach saved)]
      rw [savedBy, hsave, if_pos rfl, lastOfEach_concat]
      exact hevents

end

theorem holds_callAll {capacity : Nat} (hcapacity : 0 < capacity) (calls : List Call) :
    let empty := ledger ⟨capacity, [], false, hcapacity⟩
    ∃ l, empty.callAll calls = ledger l ∧
      l.Holds capacity calls (empty.savedByAll calls) := by
  intro empty
  induction calls using List.reverseRecOn with
  | nil => exact ⟨_, rfl, rfl, (List.rtake_nil _).symm, by simp⟩
  | append_singleton calls c ih =>
    obtain ⟨l, hl, hholds⟩ := ih
    rw [callAll_concat, savedByAll_concat, hl]
    exact hholds.call c

/-! ### What a ledger shows -/

/-- What a ledger with some capacity shows of the calls that it had and the events that they
saved. -/
structure Remembers (capacity : Nat) (calls : List Call) (saved : List Event) (l : Ledger) :
    Prop where
  /-- The records are those of the last event of each identity, as many as there is room for. -/
  records : l.records = ((lastOfEach saved).rtake capacity).map Event.record
  /-- Under an identity stands the record with it, and nothing else. -/
  get : ∀ id r, (l.get? id).map Event.record = some r ↔
    r ∈ l.records ∧ r.get? "id" = some (.str id)
  /-- A save fails exactly if the ledger was closed before or the event has no identity, and then
  everything stays as it is. -/
  refused : ∀ e, (∃ error : SaveError,
    (ledger l).save e = (some (.failed error.message), ledger l)) ↔ Call.close ∈ calls ∨ e.id = []
  saved : ∀ e, ((ledger l).save e).1 = some .saved ↔ ¬ (Call.close ∈ calls ∨ e.id = [])

theorem get?_eq_some_iff {l : Ledger} (hids : l.ids.Nodup) {id : Text} {e : Event} :
    l.get? id = some e ↔ e ∈ l.events ∧ e.id = id := by
  constructor
  · exact of_get?
  · rintro ⟨he, hid⟩
    cases h : l.get? id with
    | none => exact absurd (decide_eq_true hid) (List.find?_eq_none.mp h e he)
    | some other =>
      obtain ⟨hother, hid'⟩ := of_get? h
      rw [List.inj_on_of_nodup_map hids hother he (hid'.trans hid.symm)]

theorem Holds.remembers {capacity : Nat} {calls : List Call} {saved : List Event} {l : Ledger}
    (h : l.Holds capacity calls saved) : l.Remembers capacity calls saved where
  records := by rw [records, h.events_eq]
  get id r := by
    have hrecord (e : Event) : e.record.get? "id" = some (.str e.id) := rfl
    rw [Option.map_eq_some_iff, records, List.mem_map]
    constructor
    · rintro ⟨e, he, rfl⟩
      obtain ⟨hmem, rfl⟩ := (get?_eq_some_iff h.nodup_ids).mp he
      exact ⟨⟨e, hmem, rfl⟩, hrecord e⟩
    · rintro ⟨⟨e, he, rfl⟩, hid⟩
      rw [hrecord, Option.some.injEq, Tree.str.injEq] at hid
      exact ⟨e, (get?_eq_some_iff h.nodup_ids).mpr ⟨he, hid⟩, rfl⟩
  refused e := by
    rw [← h.closed_iff]
    obtain ⟨hrefused, hsave⟩ | ⟨hnot, hsave⟩ := save_ledger_cases l e
    · exact iff_of_true hsave hrefused
    · refine iff_of_false ?_ hnot
      rw [hsave]
      exact fun ⟨_, heq⟩ => nomatch heq
  saved e := by
    rw [← h.closed_iff]
    obtain ⟨hrefused, error, hsave⟩ | ⟨hnot, hsave⟩ := save_ledger_cases l e
    · rw [hsave]
      exact iff_of_false (fun heq => nomatch heq) (not_not.mpr hrefused)
    · rw [hsave]
      exact iff_of_true rfl hnot

/-- After any calls, of which any may fail, a ledger of some capacity has the records of the last
events that were saved, of each identity only the last one, in the order of these saves.  Under an
identity it finds the record that has it, and it refuses to save exactly after a close or without
an identity. -/
theorem remembers_callAll {capacity : Int} (hcapacity : 1 ≤ capacity) :
    ∃ empty, ofCapacity capacity = .ok empty ∧ ∀ calls, ∃ l,
      (ledger empty).callAll calls = ledger l ∧
      l.Remembers capacity.toNat calls ((ledger empty).savedByAll calls) := by
  have hpos : 0 < capacity.toNat := by omega
  refine ⟨⟨capacity.toNat, [], false, hpos⟩, dif_pos hpos, fun calls => ?_⟩
  obtain ⟨l, hl, hholds⟩ := holds_callAll hpos calls
  exact ⟨l, hl, hholds.remembers⟩

/-- An event of an identity. -/
def exampleEvent (id name : Text) : Event where
  operation := .create
  resourceKind := "Pod"
  scope := "default"
  name := name
  id := id

/-- One event is pushed out and saved again, another is saved twice, one has no identity, and one
comes too late. -/
def exampleCalls : List Call :=
  [.save (exampleEvent "a" "first"), .save (exampleEvent "b" "first"),
    .save (exampleEvent [] "first"), .save (exampleEvent "c" "first"),
    .save (exampleEvent "a" "second"), .save (exampleEvent "c" "second"), .close,
    .save (exampleEvent "d" "first")]

theorem remembers_callAll_exampleCalls :
    ∃ empty l, ofCapacity 2 = .ok empty ∧ (ledger empty).callAll exampleCalls = ledger l ∧
      l.Remembers 2 exampleCalls ((ledger empty).savedByAll exampleCalls) ∧
      l.records = [exampleEvent "a" "second", exampleEvent "c" "second"].map Event.record := by
  have htwo : (1 : Int) ≤ 2 := by decide
  obtain ⟨empty, hempty, hcalls⟩ := remembers_callAll htwo
  obtain ⟨l, hl, hremembers⟩ := hcalls exampleCalls
  have hsaved : (lastOfEach ((ledger empty).savedByAll exampleCalls)).rtake 2 =
      [exampleEvent "a" "second", exampleEvent "c" "second"] := by
    cases hempty
    rfl
  exact ⟨empty, l, hempty, hl, hremembers, hremembers.records.trans (congrArg _ hsaved)⟩

end Ledger

end AdmissionLedger
