import AdmissionLedger.Proofs.Json.Canonical
import AdmissionLedger.Proofs.Tree.Equality
import Mathlib.Data.List.Sort

/-!
# Sorted keys

A tree with sorted keys has the entries of every map in the order of their keys and is
otherwise as before.  Equal trees have the same keys, so that sorting leaves nothing but
their numbers to tell them apart.

## Main definitions

* `Tree.KeyLe` — the order of entries by their keys.
* `Tree.sortEntry` — an entry of a map whose value has sorted keys.

## Main results

* `Tree.sortKeysEntries_eq_insertionSort` — sorting the keys of a map is an insertion sort.
* `Tree.sortKeys_eq_of_deepEqual` — equal trees that are written alike are the same up to the order
  of keys.
-/

namespace AdmissionLedger

/-! ### The order of texts -/

namespace Text

theorem le_total (s t : Text) : le s t = true ∨ le t s = true := by
  induction s generalizing t with
  | nil => exact .inl rfl
  | cons a s ih =>
    cases t with
    | nil => exact .inr rfl
    | cons b t =>
      rcases Nat.lt_trichotomy a.val b.val with h | h | h
      · exact .inl (by rw [le, if_pos h])
      · have hnot : ¬ a.val < b.val := by omega
        have hnot' : ¬ b.val < a.val := by omega
        rw [le, le, if_neg hnot, if_neg hnot', if_neg hnot, if_neg hnot']
        exact ih t
      · exact .inr (by rw [le, if_pos h])

theorem le_cons_iff {a b : CodePoint} {s t : Text} :
    le (a :: s) (b :: t) = true ↔ a.val < b.val ∨ a.val = b.val ∧ le s t = true := by
  rw [le]
  split
  · next h => simp [h]
  · next h =>
    split
    · next h' =>
      have hne : a.val ≠ b.val := by omega
      simp [h, hne]
    · next h' =>
      have heq : a.val = b.val := by omega
      simp [heq]

theorem le_trans {r s t : Text} (h : le r s = true) (h' : le s t = true) : le r t = true := by
  induction r generalizing s t with
  | nil => rfl
  | cons a r ih =>
    cases s with
    | nil => cases h
    | cons b s =>
      cases t with
      | nil => cases h'
      | cons c t =>
        rw [le_cons_iff] at h h' ⊢
        rcases h with h | ⟨h, hrest⟩
        · rcases h' with h' | ⟨h', -⟩ <;> exact .inl (by omega)
        · rcases h' with h' | ⟨h', hrest'⟩
          · exact .inl (by omega)
          · exact .inr ⟨h.trans h', ih hrest hrest'⟩

theorem le_antisymm {s t : Text} (h : le s t = true) (h' : le t s = true) : s = t := by
  induction s generalizing t with
  | nil =>
    cases t with
    | nil => rfl
    | cons b t => cases h'
  | cons a s ih =>
    cases t with
    | nil => cases h
    | cons b t =>
      rw [le_cons_iff] at h h'
      have hval : a.val = b.val := by omega
      obtain ⟨a, _⟩ := a
      obtain ⟨b, _⟩ := b
      cases hval
      rw [ih (h.resolve_left (lt_irrefl _)).2 (h'.resolve_left (lt_irrefl _)).2]

end Text

namespace Tree

/-! ### Sorting -/

/-- An entry stands no later than another by their keys. -/
def KeyLe (e e' : Text × Tree) : Prop := Text.le e.1 e'.1 = true

instance : DecidableRel KeyLe :=
  fun e e' => inferInstanceAs (Decidable (Text.le e.1 e'.1 = true))

instance : Std.Total KeyLe := ⟨fun e e' => Text.le_total e.1 e'.1⟩

instance : IsTrans (Text × Tree) KeyLe := ⟨fun _ _ _ => Text.le_trans⟩

/-- An entry of a map, its value with sorted keys. -/
def sortEntry (e : Text × Tree) : Text × Tree := (e.1, sortKeys e.2)

theorem insertByKey_eq_orderedInsert (e : Text × Tree) (entries : List (Text × Tree)) :
    insertByKey e entries = entries.orderedInsert KeyLe e := by
  induction entries with
  | nil => rfl
  | cons other rest ih =>
    rw [insertByKey, ih, List.orderedInsert_cons]
    rfl

theorem sortKeys_array (items : List Tree) :
    sortKeys (.array items) = .array (items.map sortKeys) := by
  rw [sortKeys]
  congr 1
  induction items with
  | nil => rfl
  | cons item rest ih => rw [sortKeysItems, ih, List.map_cons]

/-- Sorting the keys of a map is an insertion sort of its entries. -/
theorem sortKeysEntries_eq_insertionSort (entries : List (Text × Tree)) :
    sortKeysEntries entries = (entries.map sortEntry).insertionSort KeyLe := by
  induction entries with
  | nil => rfl
  | cons e rest ih =>
    obtain ⟨key, value⟩ := e
    rw [sortKeysEntries, ih, insertByKey_eq_orderedInsert]
    rfl

theorem forall_mem_sortKeysEntries_iff {entries : List (Text × Tree)} {p : Text × Tree → Prop} :
    (∀ e ∈ sortKeysEntries entries, p e) ↔ ∀ e ∈ entries, p (sortEntry e) := by
  simp only [sortKeysEntries_eq_insertionSort, List.mem_insertionSort, List.forall_mem_map]

/-- Sorting keys changes no number. -/
theorem isFinite_sortKeys (t : Tree) : t.sortKeys.isFinite = t.isFinite := by
  induction t using nested_induction with
  | array items ih =>
    rw [sortKeys_array, Bool.eq_iff_iff, isFinite_array, isFinite_array, List.forall_mem_map]
    exact forall₂_congr fun t ht => by rw [ih t ht]
  | object entries ih =>
    rw [sortKeys, Bool.eq_iff_iff, isFinite_object, isFinite_object,
      forall_mem_sortKeysEntries_iff]
    exact forall₂_congr fun e he => by rw [sortEntry, ih e he]
  | _ => rfl

theorem normalNumbers_sortKeys {t : Tree} (h : t.NormalNumbers) : t.sortKeys.NormalNumbers := by
  induction t using nested_induction with
  | array items ih =>
    rw [normalNumbers_array] at h
    rw [sortKeys_array, normalNumbers_array, List.forall_mem_map]
    exact fun t ht => ih t ht (h t ht)
  | object entries ih =>
    rw [normalNumbers_object] at h
    rw [sortKeys, normalNumbers_object, forall_mem_sortKeysEntries_iff]
    exact fun e he => ih e he (h e he)
  | _ => exact h

/-! ### Equal trees -/

theorem perm_keysOf_sortKeysEntries (entries : List (Text × Tree)) :
    (keysOf (sortKeysEntries entries)).Perm (keysOf entries) := by
  have hmap : keysOf (entries.map sortEntry) = keysOf entries := by
    rw [keysOf, List.map_map]
    rfl
  rw [sortKeysEntries_eq_insertionSort, ← hmap]
  exact (List.perm_insertionSort KeyLe _).map _

theorem pairwise_keysOf_sortKeysEntries (entries : List (Text × Tree)) :
    (keysOf (sortKeysEntries entries)).Pairwise fun s t => Text.le s t = true := by
  rw [sortKeysEntries_eq_insertionSort]
  exact List.pairwise_map.mpr (List.pairwise_insertionSort KeyLe _)

/-- Maps with the same keys, each of them once, have them in one order when they are sorted. -/
theorem keysOf_sortKeysEntries_eq {left right : List (Text × Tree)} (hleft : (keysOf left).Nodup)
    (hright : (keysOf right).Nodup) (hkeys : ∀ key, key ∈ keysOf left ↔ key ∈ keysOf right) :
    keysOf (sortKeysEntries left) = keysOf (sortKeysEntries right) := by
  have hsame : (keysOf left).Perm (keysOf right) :=
    (List.perm_ext_iff_of_nodup hleft hright).mpr hkeys
  have hperm := (perm_keysOf_sortKeysEntries left).trans
    (hsame.trans (perm_keysOf_sortKeysEntries right).symm)
  exact hperm.eq_of_pairwise (fun s t _ _ => Text.le_antisymm)
    (pairwise_keysOf_sortKeysEntries left) (pairwise_keysOf_sortKeysEntries right)

/-- Entries with the same keys in the same order are the same if a view tells apart those of one
key. -/
theorem eq_of_keysOf_eq {left right : List (Text × Tree)} (view : Text × Tree → Text × Tree)
    (hkeys : keysOf left = keysOf right) (hview : left.map view = right.map view)
    (h : ∀ e ∈ left, ∀ e' ∈ right, e.1 = e'.1 → view e = view e' → e = e') : left = right := by
  induction left generalizing right with
  | nil => exact (List.map_eq_nil_iff.mp hkeys.symm).symm
  | cons e left ih =>
    cases right with
    | nil => cases hkeys
    | cons e' right =>
      obtain ⟨hkey, hkeys⟩ := List.cons.inj hkeys
      obtain ⟨hhead, htail⟩ := List.cons.inj hview
      rw [h e List.mem_cons_self e' List.mem_cons_self hkey hhead, ih hkeys htail
        fun e he e' he' => h e (List.mem_cons_of_mem _ he) e' (List.mem_cons_of_mem _ he')]

/-- Equal trees that are written alike are the same up to the order of keys. -/
theorem sortKeys_eq_of_deepEqual {a b : Tree} (ha : a.Distinct) (hb : b.Distinct)
    (h : deepEqual a b = true) (hunits : a.sortKeys.units = b.sortKeys.units) :
    a.sortKeys = b.sortKeys := by
  induction a using nested_induction generalizing b with
  | null => cases b <;> first | rfl | cases h
  | bool x =>
    cases b with
    | bool y => exact hunits
    | _ => cases h
  | str t =>
    cases b with
    | str t' =>
      rw [deepEqual, scalarEqual, beq_iff_eq] at h
      rw [h]
    | _ => cases h
  | int n => cases b <;> first | exact hunits | cases h
  | float x => cases b <;> first | exact hunits | cases h
  | array left ih =>
    cases b with
    | array right =>
      rw [deepEqual_array_iff] at h
      rw [distinct_array] at ha hb
      rw [sortKeys_array, sortKeys_array] at hunits ⊢
      rw [units_array, units_array] at hunits
      congr 1
      have hitems := Tree.array.inj hunits
      clear hunits
      induction h with
      | nil => rfl
      | cons hitem _ ihrest =>
        rw [List.forall_mem_cons] at ih ha hb
        simp only [List.map_cons, List.cons.injEq] at hitems ⊢
        exact ⟨ih.1 ha.1 hb.1 hitem hitems.1, ihrest ih.2 ha.2 hb.2 hitems.2⟩
    | _ => cases h
  | object left ih =>
    cases b with
    | object right =>
      rw [distinct_object] at ha hb
      obtain ⟨hkeys, hvalues⟩ := (deepEqual_object_iff_lookup ha.1).mp h
      rw [sortKeys, sortKeys] at hunits ⊢
      rw [units_object, units_object] at hunits
      rw [eq_of_keysOf_eq entryUnits (keysOf_sortKeysEntries_eq ha.1 hb.1 hkeys)
        (Tree.object.inj hunits)]
      rw [forall_mem_sortKeysEntries_iff]
      intro e he
      rw [forall_mem_sortKeysEntries_iff]
      intro e' he' hkey hvalue
      have hlookup : right.lookup e.1 = some e'.2 := by
        rw [show e.1 = e'.1 from hkey]
        exact lookup_of_mem hb.1 he'
      have hequal := hvalues e.1 e.2 e'.2 (lookup_of_mem ha.1 he) hlookup
      exact Prod.ext hkey (ih e he (ha.2 e he) (hb.2 e' he') hequal (Prod.mk.inj hvalue).2)
    | _ => cases h

end Tree

end AdmissionLedger
