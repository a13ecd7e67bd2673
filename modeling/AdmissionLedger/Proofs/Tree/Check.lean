import AdmissionLedger.Proofs.Tree.Everywhere

/-!
# What passes a check

A check that passed is taken apart into the checks of its parts.

## Main results

* `Check.map_eq_ok_iff`, `Check.seq_eq_ok_iff`, `Check.andThen_eq_ok_iff` — what a combined check
  gives.
* `Tree.asTexts_eq_ok` — what a sequence of texts looks like.
* `Tree.mem_of_lastOf?` — the value of a key is among the entries.
-/

namespace AdmissionLedger

namespace Check

variable {α β : Type}

theorem map_eq_ok_iff {x : Check α} {f : α → β} {b : β} :
    f <$> x = .ok b ↔ ∃ a, x = .ok a ∧ b = f a := by
  cases x with
  | ok a => simp [Functor.map, map, eq_comm]
  | bad n => simp [Functor.map, map]

theorem seq_eq_ok_iff {f : Check (α → β)} {x : Check α} {b : β} :
    f <*> x = .ok b ↔ ∃ g a, f = .ok g ∧ x = .ok a ∧ b = g a := by
  cases f with
  | ok g => cases x <;> simp [Seq.seq, both, eq_comm]
  | bad n => cases x <;> simp [Seq.seq, both]

theorem andThen_eq_ok_iff {x : Check α} {f : α → Check β} {b : β} :
    x.andThen f = .ok b ↔ ∃ a, x = .ok a ∧ f a = .ok b := by
  cases x <;> simp [andThen]

theorem both_eq_ok_iff {f : Check (α → β)} {x : Check α} {b : β} :
    both f x = .ok b ↔ ∃ g a, f = .ok g ∧ x = .ok a ∧ b = g a :=
  seq_eq_ok_iff

end Check

namespace Tree

theorem asText_eq_ok_iff {t : Tree} {text : Text} : t.asText = .ok text ↔ t = .str text := by
  cases t <;> simp [asText]

theorem asEntries_eq_ok_iff {t : Tree} {entries : List (Text × Tree)} :
    t.asEntries = .ok entries ↔ t = .object entries := by
  cases t <;> simp [asEntries]

/-- Items that all pass as texts are these texts. -/
theorem all_asText_eq_ok {items : List Tree} {ts : List Text}
    (h : Check.all asText items = .ok ts) : items = ts.map .str := by
  induction items generalizing ts with
  | nil => cases h; rfl
  | cons item rest ih =>
    rw [Check.all, Check.both_eq_ok_iff] at h
    obtain ⟨g, others, hitem, hrest, rfl⟩ := h
    obtain ⟨text, htext, rfl⟩ := Check.map_eq_ok_iff.mp hitem
    rw [asText_eq_ok_iff.mp htext, ih hrest]
    rfl

/-- A sequence of texts is just that. -/
theorem asTexts_eq_ok {t : Tree} {ts : List Text} (h : t.asTexts = .ok ts) : t = .texts ts := by
  cases t with
  | array items => rw [texts, all_asText_eq_ok h]
  | _ => cases h

/-- The value of a key is among the entries. -/
theorem mem_of_lastOf? {key : String} {value : Tree} {entries : List (Text × Tree)}
    (h : lastOf? key entries = some value) : (Text.ofString key, value) ∈ entries := by
  rw [← List.mem_reverse]
  exact mem_of_lookup h

end Tree

end AdmissionLedger
