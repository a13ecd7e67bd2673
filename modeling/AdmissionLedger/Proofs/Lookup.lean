import Mathlib.Data.List.Basic

/-!
# Values of keys and places

Lists of entries are maps in which the first entry of a key gives its value.  A list without
one of its places has all that stands in the others.

## Main results

* `eq_of_lookup_eq` — maps with the same keys in one order that give the same values.
* `lookup_map` — values that are changed under each key.
* `lookup_filter_ne_self`, `lookup_filter_ne_of_ne` — a key that is taken away.
* `mem_eraseIdx_of_ne`, `mem_filterMap_eraseIdx` — a place that is left out.
-/

namespace AdmissionLedger

/-! ### Keys -/

section

variable {α β γ : Type} [BEq α] [LawfulBEq α]

theorem lookup_map (g : α → β → γ) (entries : List (α × β)) (key : α) :
    (entries.map fun e => (e.1, g e.1 e.2)).lookup key = (entries.lookup key).map (g key) := by
  induction entries with
  | nil => rfl
  | cons e rest ih =>
    rw [List.map_cons, List.lookup_cons, List.lookup_cons]
    by_cases hkey : key = e.1
    · simp [hkey]
    · rw [beq_false_of_ne hkey]
      exact ih

/-- Maps without equal keys are the same if their keys are, in order, and the value of each. -/
theorem eq_of_lookup_eq {left right : List (α × β)} (hkeys : left.map (·.1) = right.map (·.1))
    (hnodup : (left.map (·.1)).Nodup) (h : ∀ key, left.lookup key = right.lookup key) :
    left = right := by
  induction left generalizing right with
  | nil => exact (List.map_eq_nil_iff.mp hkeys.symm).symm
  | cons e left ih =>
    cases right with
    | nil => cases hkeys
    | cons e' right =>
      obtain ⟨key, value⟩ := e
      obtain ⟨key', value'⟩ := e'
      obtain ⟨rfl, hrest⟩ := List.cons.inj hkeys
      have hvalue := h key
      rw [List.lookup_cons_self, List.lookup_cons_self, Option.some.injEq] at hvalue
      obtain ⟨hkey, hnodup⟩ := List.nodup_cons.mp hnodup
      rw [hvalue, ih hrest hnodup fun k => ?_]
      by_cases hk : k = key
      · -- the key stands in neither rest
        have hnone (rest : List (α × β)) (hrest : key ∉ rest.map (·.1)) :
            rest.lookup key = none :=
          List.lookup_eq_none_iff.mpr fun e he =>
            bne_iff_ne.mpr fun heq => hrest (heq ▸ List.mem_map_of_mem he)
        rw [hk, hnone left hkey, hnone right (hrest ▸ hkey)]
      · have hrest := h k
        rwa [List.lookup_cons, List.lookup_cons, beq_false_of_ne hk] at hrest

variable [DecidableEq α]

theorem lookup_filter_ne_self (key : α) (entries : List (α × β)) :
    (entries.filter fun e => e.1 ≠ key).lookup key = none := by
  rw [List.lookup_eq_none_iff]
  intro e he
  have hne := (List.mem_filter.mp he).2
  rw [decide_eq_true_eq] at hne
  exact bne_iff_ne.mpr fun h => hne h.symm

theorem lookup_filter_ne_of_ne {key k : α} (h : k ≠ key) (entries : List (α × β)) :
    (entries.filter fun e => e.1 ≠ key).lookup k = entries.lookup k := by
  induction entries with
  | nil => rfl
  | cons e rest ih =>
    by_cases he : e.1 = key
    · rw [List.filter_cons_of_neg (by simp [he]), ih, List.lookup_cons, he, beq_false_of_ne h]
    · rw [List.filter_cons_of_pos (by simp [he]), List.lookup_cons, List.lookup_cons, ih]

end

/-! ### Places -/

variable {α β : Type} {items : List α} {place : Nat} {item : α} {f : α → Option β} {value : β}

theorem mem_eraseIdx_of_ne {other : α} (hitem : items[place]? = some item) (h : other ∈ items)
    (hne : other ≠ item) : other ∈ items.eraseIdx place := by
  obtain ⟨i, hi⟩ := List.mem_iff_getElem?.mp h
  refine List.mem_eraseIdx_iff_getElem?.mpr ⟨i, ?_, hi⟩
  rintro rfl
  exact hne (Option.some.inj (hi.symm.trans hitem))

/-- What is left out takes only its own value with it. -/
theorem mem_filterMap_eraseIdx (hitem : items[place]? = some item) (h : value ∈ items.filterMap f)
    (hne : f item ≠ some value) : value ∈ (items.eraseIdx place).filterMap f := by
  rw [List.mem_filterMap] at h ⊢
  obtain ⟨other, hother, hvalue⟩ := h
  refine ⟨other, mem_eraseIdx_of_ne hitem hother ?_, hvalue⟩
  rintro rfl
  exact hne hvalue

/-- A value stands for an item that stands at some place. -/
theorem exists_getElem?_of_mem_filterMap (h : value ∈ items.filterMap f) :
    ∃ (place : Nat) (item : α), items[place]? = some item ∧ f item = some value := by
  obtain ⟨item, hmem, hvalue⟩ := List.mem_filterMap.mp h
  obtain ⟨place, hitem⟩ := List.mem_iff_getElem?.mp hmem
  exact ⟨place, item, hitem, hvalue⟩

end AdmissionLedger
