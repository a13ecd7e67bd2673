import AdmissionLedger.Tree.Check

/-!
# Properties that hold throughout a tree

Two kinds of condition are put on trees: what their texts may hold, and which keys a
map may have together.  Both are asked at every depth, so that they can be handed down
to any part.

## Main definitions

* `Tree.Everywhere` — all texts pass one test, and the keys of every map pass another.
* `Tree.Encodable` — no text holds a surrogate.
* `Tree.Distinct` — no map has a key twice, as is true of every map that was read.

## Main results

* `Tree.nested_induction` — induction over a tree by the parts of its containers.
* `Tree.everywhere_of_put` — setting a key keeps what holds throughout the entries.
-/

namespace AdmissionLedger.Tree

/-! ### Induction over the parts -/

/-- A tree has a property if each container has it whose parts have it, and each leaf has it. -/
theorem nested_induction {motive : Tree → Prop} (null : motive .null)
    (bool : ∀ b, motive (.bool b)) (int : ∀ n, motive (.int n)) (float : ∀ x, motive (.float x))
    (str : ∀ t, motive (.str t))
    (array : ∀ items, (∀ t ∈ items, motive t) → motive (.array items))
    (object : ∀ entries, (∀ e ∈ entries, motive e.2) → motive (.object entries)) :
    ∀ t, motive t := by
  intro t
  refine @Tree.rec motive (fun items => ∀ t ∈ items, motive t)
    (fun entries => ∀ e ∈ entries, motive e.2) (fun e => motive e.2)
    null bool int float str array object ?_ ?_ ?_ ?_ ?_ t
  · intro t ht; cases ht
  · intro item rest hitem hrest t ht
    rcases List.mem_cons.mp ht with rfl | ht
    · exact hitem
    · exact hrest t ht
  · intro e he; cases he
  · intro entry rest hentry hrest e he
    rcases List.mem_cons.mp he with rfl | he
    · exact hentry
    · exact hrest e he
  · intro key value hvalue
    exact hvalue

/-! ### Keys -/

/-- The keys of entries, in order. -/
def keysOf (entries : List (Text × Tree)) : List Text :=
  entries.map (·.1)

@[simp] theorem keysOf_nil : keysOf [] = [] := rfl

@[simp] theorem keysOf_cons (e : Text × Tree) (entries : List (Text × Tree)) :
    keysOf (e :: entries) = e.1 :: keysOf entries := rfl

theorem mem_of_lookup {key : Text} {value : Tree} {entries : List (Text × Tree)}
    (h : entries.lookup key = some value) : (key, value) ∈ entries := by
  obtain ⟨before, after, rfl, -⟩ := List.lookup_eq_some_iff.mp h
  simp

theorem lookup_isSome_iff {key : Text} {entries : List (Text × Tree)} :
    (entries.lookup key).isSome = true ↔ key ∈ keysOf entries := by
  induction entries with
  | nil => simp
  | cons e rest ih =>
    rw [List.lookup_cons, keysOf_cons, List.mem_cons]
    by_cases h : key = e.1
    · simp [h]
    · rw [beq_false_of_ne h, ih, or_iff_right h]

theorem mem_keysOf_of_lookup {key : Text} {value : Tree} {entries : List (Text × Tree)}
    (h : entries.lookup key = some value) : key ∈ keysOf entries :=
  lookup_isSome_iff.mp (Option.isSome_of_eq_some h)

theorem exists_lookup_of_mem {key : Text} {entries : List (Text × Tree)}
    (h : key ∈ keysOf entries) : ∃ value, entries.lookup key = some value :=
  Option.isSome_iff_exists.mp (lookup_isSome_iff.mpr h)

theorem lookup_eq_none_of_not_mem {key : Text} {entries : List (Text × Tree)}
    (h : key ∉ keysOf entries) : entries.lookup key = none := by
  rw [← Option.not_isSome_iff_eq_none, lookup_isSome_iff]
  exact h

/-- If no key stands twice, every entry gives the value of its key. -/
theorem lookup_of_mem {entries : List (Text × Tree)} (hnodup : (keysOf entries).Nodup)
    {e : Text × Tree} (he : e ∈ entries) : entries.lookup e.1 = some e.2 := by
  induction entries with
  | nil => cases he
  | cons first rest ih =>
    rw [keysOf_cons, List.nodup_cons] at hnodup
    rcases List.mem_cons.mp he with rfl | he
    · exact List.lookup_cons_self
    · have hmem : e.1 ∈ keysOf rest := List.mem_map_of_mem he
      have hne : e.1 ≠ first.1 := fun h => hnodup.1 (h ▸ hmem)
      rw [List.lookup_cons, beq_false_of_ne hne]
      exact ih hnodup.2 he

/-! ### Conditions throughout -/

section

variable (text : Text → Prop) (keys : List Text → Prop)

mutual

/-- Every text of a tree, be it a value or a key, passes `text`, and the keys of every map pass
`keys`. -/
def Everywhere : Tree → Prop
  | .str t => text t
  | .array items => ItemsEverywhere items
  | .object entries => keys (keysOf entries) ∧ EntriesEverywhere entries
  | _ => True

/-- The condition on the items of a sequence. -/
def ItemsEverywhere : List Tree → Prop
  | [] => True
  | item :: rest => Everywhere item ∧ ItemsEverywhere rest

/-- The condition on the entries of a map, one by one. -/
def EntriesEverywhere : List (Text × Tree) → Prop
  | [] => True
  | (key, value) :: rest => text key ∧ Everywhere value ∧ EntriesEverywhere rest

end

end

section

variable {text : Text → Prop} {keys : List Text → Prop}

theorem itemsEverywhere_iff {items : List Tree} :
    ItemsEverywhere text keys items ↔ ∀ t ∈ items, Everywhere text keys t := by
  induction items with
  | nil => simp [ItemsEverywhere]
  | cons item rest ih => simp [ItemsEverywhere, ih]

theorem entriesEverywhere_iff {entries : List (Text × Tree)} :
    EntriesEverywhere text keys entries ↔
      ∀ e ∈ entries, text e.1 ∧ Everywhere text keys e.2 := by
  induction entries with
  | nil => simp [EntriesEverywhere]
  | cons e rest ih =>
    obtain ⟨key, value⟩ := e
    simp [EntriesEverywhere, ih, and_assoc]

@[simp] theorem everywhere_str {t : Text} : Everywhere text keys (.str t) ↔ text t := by
  rw [Everywhere]

@[simp] theorem everywhere_array {items : List Tree} :
    Everywhere text keys (.array items) ↔ ∀ t ∈ items, Everywhere text keys t := by
  rw [Everywhere, itemsEverywhere_iff]

@[simp] theorem everywhere_object {entries : List (Text × Tree)} :
    Everywhere text keys (.object entries) ↔
      keys (keysOf entries) ∧ ∀ e ∈ entries, text e.1 ∧ Everywhere text keys e.2 := by
  rw [Everywhere, entriesEverywhere_iff]

end

/-! ### Setting a key -/

/-- An entry of a map after a key was set is the new one or an old one. -/
theorem mem_put {key : Text} {value : Tree} {entries : List (Text × Tree)} {e : Text × Tree}
    (he : e ∈ put key value entries) : e = (key, value) ∨ e ∈ entries := by
  induction entries with
  | nil => simpa [put] using he
  | cons other rest ih =>
    obtain ⟨k, v⟩ := other
    rw [put] at he
    split at he
    · rcases List.mem_cons.mp he with rfl | he
      · exact .inl rfl
      · exact .inr (List.mem_cons_of_mem _ he)
    · rcases List.mem_cons.mp he with rfl | he
      · exact .inr List.mem_cons_self
      · rcases ih he with h | h
        · exact .inl h
        · exact .inr (List.mem_cons_of_mem _ h)

/-- Setting a key adds it behind the others unless it is there. -/
theorem keysOf_put (key : Text) (value : Tree) (entries : List (Text × Tree)) :
    keysOf (put key value entries)
      = if key ∈ keysOf entries then keysOf entries else keysOf entries ++ [key] := by
  induction entries with
  | nil => rfl
  | cons e rest ih =>
    obtain ⟨k, v⟩ := e
    rw [put]
    by_cases hk : k = key
    · rw [if_pos hk, hk]
      simp
    · rw [if_neg hk, keysOf_cons, ih]
      have hne : key ≠ k := fun h => hk h.symm
      by_cases hmem : key ∈ keysOf rest
      · simp [hmem]
      · simp [hmem, hne]

/-- What holds throughout entries and a value holds after the value was set among them. -/
theorem everywhere_of_put {text : Text → Prop} {keys : List Text → Prop} {key : Text}
    {value : Tree} {entries : List (Text × Tree)} (hkey : text key)
    (hvalue : Everywhere text keys value)
    (hall : ∀ e ∈ entries, text e.1 ∧ Everywhere text keys e.2) :
    ∀ e ∈ put key value entries, text e.1 ∧ Everywhere text keys e.2 := by
  intro e he
  rcases mem_put he with rfl | he
  · exact ⟨hkey, hvalue⟩
  · exact hall e he

/-! ### The two conditions in use -/

/-- No text of the tree holds a surrogate. -/
abbrev Encodable : Tree → Prop :=
  Everywhere (fun t => t.hasSurrogate = false) (fun _ => True)

/-- No map of the tree has a key twice. -/
abbrev Distinct : Tree → Prop :=
  Everywhere (fun _ => True) List.Nodup

@[simp] theorem encodable_str {t : Text} : Encodable (.str t) ↔ t.hasSurrogate = false :=
  everywhere_str

@[simp] theorem encodable_array {items : List Tree} :
    Encodable (.array items) ↔ ∀ t ∈ items, Encodable t :=
  everywhere_array

@[simp] theorem encodable_object {entries : List (Text × Tree)} :
    Encodable (.object entries) ↔ ∀ e ∈ entries, e.1.hasSurrogate = false ∧ Encodable e.2 := by
  rw [Encodable, everywhere_object]
  simp only [true_and]

theorem encodable_record {entries : List (String × Tree)} : Encodable (record entries) ↔
    ∀ e ∈ entries, (Text.ofString e.1).hasSurrogate = false ∧ Encodable e.2 := by
  rw [record, encodable_object, List.forall_mem_map]

theorem distinct_null : Distinct .null := by
  simp [Everywhere]

@[simp] theorem distinct_array {items : List Tree} :
    Distinct (.array items) ↔ ∀ t ∈ items, Distinct t :=
  everywhere_array

@[simp] theorem distinct_object {entries : List (Text × Tree)} :
    Distinct (.object entries) ↔ (keysOf entries).Nodup ∧ ∀ e ∈ entries, Distinct e.2 := by
  rw [Distinct, everywhere_object]
  simp only [true_and]

theorem nodup_keysOf_put {key : Text} {value : Tree} {entries : List (Text × Tree)}
    (h : (keysOf entries).Nodup) : (keysOf (put key value entries)).Nodup := by
  rw [keysOf_put]
  split
  · exact h
  · next hmem =>
    rw [List.nodup_append]
    refine ⟨h, by simp, ?_⟩
    intro a ha b hb
    rw [List.mem_singleton] at hb
    rintro rfl
    exact hmem (hb ▸ ha)

end AdmissionLedger.Tree
