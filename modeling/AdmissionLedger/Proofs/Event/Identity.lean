import AdmissionLedger.Event.Basic
import AdmissionLedger.Proofs.Text.Numeral

/-!
# Identities of events

An identity ends in the digits of a reading of the clock, behind the last of its
separators.  The names in front may hold separators and digits as they like: as long as
no reading is negative, two events that share an identity were stamped with one reading.
It begins with the operation, before the first separator, and what stands in between are
kind and name, without a mark where one ends and the other begins if they hold separators
themselves.

## Main definitions

* `hyphen` — the separator.
* `Event.Bears` — the identity of an event was made from a reading.

## Main results

* `eq_of_eventId_eq` — an identity tells the reading.
* `eventId_eq_iff` — what else it tells.
* `Event.Bears.eq_of_id_eq`, `Event.Bears.id_ne_nil` — the same for events, and an identity is
  never empty.
-/

namespace AdmissionLedger

/-- What follows the last separator is determined by the whole. -/
theorem eq_of_append_cons_eq {α : Type} {separator : α} {s s' t t' : List α}
    (h : s ++ separator :: t = s' ++ separator :: t') (ht : separator ∉ t)
    (ht' : separator ∉ t') : t = t' := by
  -- one of the two parts in front goes on where the other ends
  obtain ⟨mid, -, hmid⟩ | ⟨mid, -, hmid⟩ := List.append_eq_append_iff.mp h
  · cases mid with
    | nil => exact (List.cons.inj hmid).2
    | cons c mid =>
      have hmem : separator ∈ t := by
        rw [(List.cons.inj hmid).2]
        exact List.mem_append_right _ List.mem_cons_self
      exact absurd hmem ht
  · cases mid with
    | nil => exact (List.cons.inj hmid).2.symm
    | cons c mid =>
      have hmem : separator ∈ t' := by
        rw [(List.cons.inj hmid).2]
        exact List.mem_append_right _ List.mem_cons_self
      exact absurd hmem ht'

/-- What comes before the first separator, and what follows it, is determined by the whole. -/
theorem append_cons_inj {α : Type} {separator : α} {s s' t t' : List α} (hs : separator ∉ s)
    (hs' : separator ∉ s') : s ++ separator :: t = s' ++ separator :: t' ↔ s = s' ∧ t = t' := by
  constructor
  · intro h
    have hreverse : t.reverse ++ separator :: s.reverse =
        t'.reverse ++ separator :: s'.reverse := by simpa using congrArg List.reverse h
    have hfront := eq_of_append_cons_eq hreverse (by simpa using hs) (by simpa using hs')
    obtain rfl := List.reverse_inj.mp hfront
    exact ⟨rfl, (List.cons.inj (List.append_cancel_left h)).2⟩
  · rintro ⟨rfl, rfl⟩
    rfl

/-- An identity is what comes first, a separator, and the reading. -/
theorem eventId_eq (operation resourceKind name : Text) (ns : Int) :
    eventId operation resourceKind name ns =
      (operation ++ "-" ++ resourceKind ++ "-" ++ name) ++
        CodePoint.ofChar '-' :: Text.ofInt ns := by
  have hminus : ("-" : Text) = [CodePoint.ofChar '-'] := rfl
  simp [eventId, Text.join, hminus]

/-- An identity tells the reading of the clock, whatever the names in it are, unless that is
negative. -/
theorem eq_of_eventId_eq {operation operation' kind kind' name name' : Text} {m n : Int}
    (hm : 0 ≤ m) (hn : 0 ≤ n)
    (h : eventId operation kind name m = eventId operation' kind' name' n) : m = n := by
  rw [eventId_eq, eventId_eq] at h
  have hdigits := eq_of_append_cons_eq h (Text.minus_not_mem_ofInt hm) (Text.minus_not_mem_ofInt hn)
  exact Text.ofInt_injective hdigits

/-- The separator of an identity. -/
def hyphen : CodePoint := CodePoint.ofChar '-'

theorem Operation.hyphen_not_mem_name (op : Operation) : hyphen ∉ op.name := by
  cases op <;> decide

theorem Operation.name_injective : Function.Injective name := by
  intro op op' h
  cases op <;> cases op' <;> first | rfl | exact absurd h (by decide)

/-- Two identities with readings that are not negative are equal exactly if the operations, the
readings, and the texts of kind and name are.  Where a kind ends and a name begins is not told. -/
theorem eventId_eq_iff {op op' : Operation} {kind kind' name name' : Text} {m n : Int} (hm : 0 ≤ m)
    (hn : 0 ≤ n) : eventId op.name kind name m = eventId op'.name kind' name' n ↔
      op = op' ∧ m = n ∧ kind ++ hyphen :: name = kind' ++ hyphen :: name' := by
  have hparts (op : Operation) (kind name : Text) (ns : Int) : eventId op.name kind name ns =
      (op.name ++ hyphen :: (kind ++ hyphen :: name)) ++ hyphen :: Text.ofInt ns := by
    have hminus : ("-" : Text) = [hyphen] := rfl
    simp [eventId_eq, hminus, hyphen]
  constructor
  · intro h
    obtain rfl := eq_of_eventId_eq hm hn h
    rw [hparts, hparts] at h
    have hfront := (append_cons_inj op.hyphen_not_mem_name op'.hyphen_not_mem_name).mp
      (List.append_cancel_right h)
    exact ⟨Operation.name_injective hfront.1, rfl, hfront.2⟩
  · rintro ⟨rfl, rfl, h⟩
    rw [hparts, hparts, h]

namespace Event

/-- The identity of an event was made from a reading of the clock. -/
def Bears (e : Event) (ns : Int) : Prop :=
  ∃ operation kind name, e.id = eventId operation kind name ns

variable {e e' : Event} {m n : Int}

/-- Two events that share an identity bear the same reading. -/
theorem Bears.eq_of_id_eq (h : e.Bears m) (h' : e'.Bears n) (hm : 0 ≤ m) (hn : 0 ≤ n)
    (hid : e.id = e'.id) : m = n := by
  obtain ⟨operation, kind, name, heq⟩ := h
  obtain ⟨operation', kind', name', heq'⟩ := h'
  rw [heq, heq'] at hid
  exact eq_of_eventId_eq hm hn hid

theorem Bears.id_ne_nil (h : e.Bears n) : e.id ≠ [] := by
  obtain ⟨operation, kind, name, heq⟩ := h
  rw [heq, eventId_eq]
  exact List.append_ne_nil_of_right_ne_nil _ (List.cons_ne_nil _ _)

end Event

end AdmissionLedger
