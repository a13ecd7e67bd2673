import AdmissionLedger.Ledger.Storage
import Mathlib.Data.List.DropRight
import Mathlib.Data.List.Induction

/-!
# What stores keep

A ledger replies to every attempt at once, and what it keeps then answers to its
identity.  If no two events share an identity, it keeps the latest of those that it was
given, in the order in which it was given them.

## Main definitions

* `Storage.saveAll` — a store after attempts one after the other.

## Main results

* `Ledger.save_cases`, `Ledger.get?_save` — when a ledger keeps an event, and what is found then.
* `Ledger.latest_append_latest` — what was pushed out before can be forgotten.
* `Storage.exists_saveAll_ledger`, `Storage.save_ledger_ne_none` — a ledger stays one, and replies.
* `Storage.saveAll_ledger` — what an empty ledger keeps in the end.
* `Storage.saveAll_ne_nowhere`, `Storage.save_ne_unstored` — a store stays one, and its attempts end
  otherwise than where there is none.
-/

namespace AdmissionLedger

namespace Ledger

/-- An event with an identity of its own takes nobody's place. -/
theorem append_of_not_mem {events : List Event} {e : Event} (h : e.id ∉ events.map (·.id)) :
    append events e = events ++ [e] := by
  have hkept : events.filter (·.id ≠ e.id) = events := by
    refine List.filter_eq_self.mpr fun other hother => ?_
    rw [decide_eq_true_eq]
    exact fun heq => h (heq ▸ List.mem_map_of_mem hother)
  rw [append, hkept]

theorem latest_suffix (capacity : Nat) (events : List Event) :
    latest capacity events <:+ events :=
  List.drop_suffix _ _

theorem latest_eq_rtake (capacity : Nat) (events : List Event) :
    latest capacity events = events.rtake capacity := rfl

theorem rtake_rtake (events : List Event) (n : Nat) :
    (events.rtake n).rtake n = events.rtake n := by
  have hlength : (events.rtake n).length ≤ n := by
    rw [List.rtake, List.length_drop]
    omega
  rw [List.rtake, Nat.sub_eq_zero_of_le hlength, List.drop_zero]

/-- When one identity goes, one more event than asked for is enough to know the last ones. -/
theorem rtake_filter_rtake {events : List Event} (hids : (events.map (·.id)).Nodup) (id : Text)
    (n : Nat) : ((events.rtake (n + 1)).filter (·.id ≠ id)).rtake n =
      (events.filter (·.id ≠ id)).rtake n := by
  induction events using List.reverseRecOn generalizing n with
  | nil => rw [List.rtake_nil]
  | append_singleton events last ih =>
    rw [List.map_append, List.map_singleton, List.nodup_append] at hids
    obtain ⟨hids, -, hlast⟩ := hids
    rw [List.rtake_concat_succ, List.filter_append, List.filter_append]
    by_cases hid : last.id = id
    · -- the last event goes, and no other
      have hstays : ∀ e ∈ events, decide (e.id ≠ id) = true := fun e he =>
        decide_eq_true fun heq =>
          hlast e.id (List.mem_map_of_mem he) last.id List.mem_cons_self (heq.trans hid.symm)
      have hgoes : [last].filter (·.id ≠ id) = [] := by simp [hid]
      have hstays' : ∀ e ∈ events.rtake n, decide (e.id ≠ id) = true := fun e he =>
        hstays e ((latest_suffix n events).subset he)
      rw [hgoes, List.append_nil, List.append_nil, List.filter_eq_self.mpr hstays,
        List.filter_eq_self.mpr hstays', rtake_rtake]
    · have hstays : [last].filter (·.id ≠ id) = [last] := by simp [hid]
      rw [hstays]
      cases n with
      | zero => rw [List.rtake_zero, List.rtake_zero]
      | succ n => rw [List.rtake_concat_succ, List.rtake_concat_succ, ih hids]

/-- To find the latest events when there is one more, the latest before are enough. -/
theorem latest_append_latest {capacity : Nat} (hcapacity : 0 < capacity) {events : List Event}
    (hids : (events.map (·.id)).Nodup) (e : Event) :
    latest capacity (append (latest capacity events) e) = latest capacity (append events e) := by
  obtain ⟨n, rfl⟩ := Nat.exists_eq_succ_of_ne_zero hcapacity.ne'
  rw [latest_eq_rtake, latest_eq_rtake, latest_eq_rtake, append, append, List.rtake_concat_succ,
    List.rtake_concat_succ, rtake_filter_rtake hids]

/-- What is found under an identity is kept, and has it. -/
theorem of_get? {l : Ledger} {id : Text} {e : Event} (h : l.get? id = some e) :
    e ∈ l.events ∧ e.id = id := by
  have hid := List.find?_some h
  exact ⟨List.mem_of_find?_eq_some h, of_decide_eq_true hid⟩

/-- A ledger refuses an event if it is closed or the event has no identity, and else it keeps the
event. -/
theorem save_cases (l : Ledger) (e : Event) :
    (l.closed = true ∨ e.id = []) ∧ (∃ error, l.save e = .error error) ∨
    ¬ (l.closed = true ∨ e.id = []) ∧
      l.save e = .ok { l with events := latest l.capacity (append l.events e) } := by
  simp only [save, List.isEmpty_iff]
  by_cases hclosed : l.closed = true
  · exact .inl ⟨.inl hclosed, .closed, by rw [if_pos hclosed]⟩
  · rw [if_neg hclosed]
    by_cases hid : e.id = []
    · exact .inl ⟨.inr hid, .noIdentity, by rw [if_pos hid]⟩
    · exact .inr ⟨not_or.mpr ⟨hclosed, hid⟩, by rw [if_neg hid]⟩

/-- After a save the event is what is found under its identity, and under no other. -/
theorem get?_save {l l' : Ledger} {e : Event} (h : l.save e = .ok l') (id : Text) :
    l'.get? id = some e ↔ e.id = id := by
  constructor
  · exact fun hget => (of_get? hget).2
  · rintro rfl
    obtain ⟨-, error, hsave⟩ | ⟨-, hsave⟩ := save_cases l e
    · cases h.symm.trans hsave
    · cases h.symm.trans hsave
      obtain ⟨n, hn⟩ := Nat.exists_eq_succ_of_ne_zero l.capacity_pos.ne'
      have hevents : latest l.capacity (append l.events e) =
          (l.events.filter (·.id ≠ e.id)).rtake n ++ [e] := by
        rw [hn, latest_eq_rtake, append, List.rtake_concat_succ]
      -- all that stands in front has another identity
      have hfront : ((l.events.filter (·.id ≠ e.id)).rtake n).find? (·.id = e.id) = none := by
        refine List.find?_eq_none.mpr fun other hother => ?_
        have hne := (List.mem_filter.mp (List.mem_of_mem_drop hother)).2
        simpa using hne
      rw [get?, hevents, List.find?_append, hfront]
      simp

end Ledger

/-- A store that replies has the event or has not. -/
theorem SaveResult.ofReply_ne_unstored (reply : SaveReply) : ofReply reply ≠ unstored := by
  cases reply <;> exact fun heq => nomatch heq

namespace Storage

/-- A store after attempts to save events one after the other. -/
def saveAll (s : Storage) (events : List Event) : Storage :=
  events.foldl (fun s e => (s.save e).2) s

theorem saveAll_append (s : Storage) (events more : List Event) :
    s.saveAll (events ++ more) = (s.saveAll events).saveAll more :=
  List.foldl_append

theorem saveAll_concat (s : Storage) (events : List Event) (e : Event) :
    s.saveAll (events ++ [e]) = ((s.saveAll events).save e).2 :=
  s.saveAll_append events [e]

/-! ### Whether there is a store -/

/-- A store is still one after an attempt. -/
theorem save_ne_nowhere {s : Storage} (h : s ≠ nowhere) (e : Event) : (s.save e).2 ≠ nowhere := by
  cases s with
  | nowhere => exact absurd rfl h
  | ledger l =>
    unfold save
    dsimp only
    cases l.save e <;> exact fun heq => nomatch heq
  | remote replies saved =>
    unfold save
    dsimp only
    cases replies.now <;> exact fun heq => nomatch heq

/-- An attempt of a store has an end of another kind than where there is none. -/
theorem save_ne_unstored {s : Storage} (h : s ≠ nowhere) (e : Event) :
    (s.save e).1 ≠ some .unstored := by
  cases s with
  | nowhere => exact absurd rfl h
  | ledger l =>
    unfold save
    dsimp only
    cases l.save e <;> exact fun heq => nomatch heq
  | remote replies saved =>
    unfold save
    dsimp only
    cases replies.now with
    | none => exact fun heq => nomatch heq
    | some reply => exact fun heq => SaveResult.ofReply_ne_unstored reply (Option.some.inj heq)

theorem close_ne_nowhere {s : Storage} (h : s ≠ nowhere) : s.close ≠ nowhere := by
  cases s <;> first | exact h | exact fun heq => nomatch heq

theorem saveAll_ne_nowhere {s : Storage} (h : s ≠ nowhere) (events : List Event) :
    s.saveAll events ≠ nowhere := by
  induction events generalizing s with
  | nil => exact h
  | cons e events ih => exact ih (save_ne_nowhere h e)

theorem complete_ne_nowhere {s : Storage} (h : s ≠ nowhere) (e : Event) (reply : SaveReply) :
    s.complete e reply ≠ nowhere := by
  cases s <;> first | exact h | exact fun heq => nomatch heq

/-! ### Ledgers -/

/-- A ledger refuses an event and stays as it is, if it is closed or the event has no identity, and
else it saves the event. -/
theorem save_ledger_cases (l : Ledger) (e : Event) :
    (l.closed = true ∨ e.id = []) ∧
      (∃ error : SaveError, (ledger l).save e = (some (.failed error.message), ledger l)) ∨
    ¬ (l.closed = true ∨ e.id = []) ∧ (ledger l).save e = (some .saved,
      ledger { l with events := Ledger.latest l.capacity (Ledger.append l.events e) }) := by
  obtain ⟨hrefused, error, hsave⟩ | ⟨hnot, hsave⟩ := l.save_cases e
  · exact .inl ⟨hrefused, error, by rw [save, hsave]⟩
  · exact .inr ⟨hnot, by rw [save, hsave]⟩

/-- A ledger keeps nobody waiting. -/
theorem save_ledger_ne_none (l : Ledger) (e : Event) : ((ledger l).save e).1 ≠ none := by
  obtain ⟨-, error, hsave⟩ | ⟨-, hsave⟩ := save_ledger_cases l e
  · rw [hsave]
    exact Option.some_ne_none _
  · rw [hsave]
    exact Option.some_ne_none _

theorem exists_saveAll_ledger (l : Ledger) (events : List Event) :
    ∃ l', (ledger l).saveAll events = ledger l' := by
  induction events generalizing l with
  | nil => exact ⟨l, rfl⟩
  | cons e events ih =>
    have hnext : ∃ l', ((ledger l).save e).2 = ledger l' := by
      obtain ⟨-, error, hsave⟩ | ⟨-, hsave⟩ := save_ledger_cases l e
      · exact ⟨l, congrArg Prod.snd hsave⟩
      · exact ⟨_, congrArg Prod.snd hsave⟩
    obtain ⟨l', hl'⟩ := hnext
    rw [saveAll, List.foldl_cons, hl']
    exact ih l'

/-- An empty ledger keeps the latest events, if all have identities of their own. -/
theorem saveAll_ledger {capacity : Nat} (hcapacity : 0 < capacity) {events : List Event}
    (hids : (events.map (·.id)).Nodup) (hempty : ∀ e ∈ events, e.id ≠ []) :
    (ledger ⟨capacity, [], false, hcapacity⟩).saveAll events =
      ledger ⟨capacity, Ledger.latest capacity events, false, hcapacity⟩ := by
  induction events using List.reverseRecOn with
  | nil =>
    rw [Ledger.latest, List.drop_nil]
    rfl
  | append_singleton events e ih =>
    rw [List.map_append, List.map_singleton, List.nodup_append] at hids
    obtain ⟨hids, -, hnew⟩ := hids
    rw [List.forall_mem_append] at hempty
    have hnotMem : e.id ∉ events.map (·.id) := fun hmem =>
      hnew e.id hmem e.id List.mem_cons_self rfl
    rw [saveAll_concat, ih hids hempty.1]
    obtain ⟨hrefused, -⟩ | ⟨-, hsave⟩ :=
      save_ledger_cases ⟨capacity, Ledger.latest capacity events, false, hcapacity⟩ e
    · -- the ledger is open, and the event has an identity
      have hid := hempty.2 e List.mem_cons_self
      simp [hid] at hrefused
    · rw [hsave]
      simp only [Ledger.latest_append_latest hcapacity hids, Ledger.append_of_not_mem hnotMem]

end Storage

end AdmissionLedger
