import AdmissionLedger.Proofs.Tree.Numbers
import AdmissionLedger.Tree.Equality

/-!
# What equal trees have in common

Equality is decided part by part.  Equal trees are of one kind, equal maps have equal
values under every key, and trees with finite numbers equal only such.

## Main results

* `Tree.deepEqual_object_iff`, `Tree.deepEqual_object_iff_lookup` — when two maps are equal.
* `Tree.isFinite_eq_of_deepEqual` — equal trees have finite numbers or not alike.
-/

namespace AdmissionLedger.Tree

/-! ### Equality of the parts -/

theorem itemsEqual_iff {left right : List Tree} :
    itemsEqual left right = true ↔ List.Forall₂ (fun a b => deepEqual a b = true) left right := by
  induction left generalizing right with
  | nil => cases right <;> simp [itemsEqual]
  | cons a left ih => cases right <;> simp [itemsEqual, ih]

theorem deepEqual_array_iff {left right : List Tree} :
    deepEqual (.array left) (.array right) = true ↔
      List.Forall₂ (fun a b => deepEqual a b = true) left right := by
  rw [deepEqual, itemsEqual_iff]

theorem entriesEqual_iff {left right : List (Text × Tree)} :
    entriesEqual left right = true ↔
      ∀ e ∈ left, ∃ b, right.lookup e.1 = some b ∧ deepEqual e.2 b = true := by
  induction left with
  | nil => simp [entriesEqual]
  | cons e left ih =>
    obtain ⟨key, a⟩ := e
    rw [entriesEqual, Bool.and_eq_true, ih, List.forall_mem_cons]
    refine and_congr_left fun _ => ?_
    cases right.lookup key <;> simp

/-- Two maps are equal if the second has an equal value for every entry of the first, and no other
keys. -/
theorem deepEqual_object_iff {left right : List (Text × Tree)} :
    deepEqual (.object left) (.object right) = true ↔
      (∀ e ∈ left, ∃ b, right.lookup e.1 = some b ∧ deepEqual e.2 b = true) ∧
        ∀ e ∈ right, (left.lookup e.1).isSome = true := by
  rw [deepEqual, Bool.and_eq_true, entriesEqual_iff, sameKeys, Bool.and_eq_true, List.all_eq_true,
    List.all_eq_true]
  constructor
  · rintro ⟨⟨-, hkeys⟩, hvalues⟩
    exact ⟨hvalues, hkeys⟩
  · rintro ⟨hvalues, hkeys⟩
    refine ⟨⟨fun e he => ?_, hkeys⟩, hvalues⟩
    obtain ⟨b, hb, -⟩ := hvalues e he
    rw [hb]
    rfl

/-- Two maps without equal keys are equal exactly if they have the same keys and equal values under
each. -/
theorem deepEqual_object_iff_lookup {left right : List (Text × Tree)} (h : (keysOf left).Nodup) :
    deepEqual (.object left) (.object right) = true ↔
      (∀ key, key ∈ keysOf left ↔ key ∈ keysOf right) ∧
        ∀ key a b, left.lookup key = some a → right.lookup key = some b → deepEqual a b = true := by
  rw [deepEqual_object_iff]
  constructor
  · rintro ⟨hvalues, hkeys⟩
    refine ⟨fun key => ⟨fun hkey => ?_, fun hkey => ?_⟩, fun key a b ha hb => ?_⟩
    · obtain ⟨e, he, rfl⟩ := List.mem_map.mp hkey
      obtain ⟨b, hb, -⟩ := hvalues e he
      exact mem_keysOf_of_lookup hb
    · obtain ⟨e, he, rfl⟩ := List.mem_map.mp hkey
      exact lookup_isSome_iff.mp (hkeys e he)
    · obtain ⟨b', hb', hequal⟩ := hvalues (key, a) (mem_of_lookup ha)
      rw [hb] at hb'
      cases hb'
      exact hequal
  · rintro ⟨hkeys, hvalues⟩
    constructor
    · intro e he
      have hkey : e.1 ∈ keysOf right := (hkeys e.1).mp (List.mem_map_of_mem he)
      obtain ⟨b, hb⟩ := exists_lookup_of_mem hkey
      exact ⟨b, hb, hvalues e.1 e.2 b (lookup_of_mem h he) hb⟩
    · intro e he
      exact lookup_isSome_iff.mpr ((hkeys e.1).mpr (List.mem_map_of_mem he))

/-- What is so of all values of a map is so of those of another that has no other keys, if it goes
over from each value to the one under the same key. -/
theorem forall_values_of_lookup {left right : List (Text × Tree)} {P : Tree → Prop}
    (hright : (keysOf right).Nodup) (hkeys : ∀ key ∈ keysOf right, key ∈ keysOf left)
    (h : ∀ key v w, left.lookup key = some v → right.lookup key = some w → P v → P w)
    (hleft : ∀ e ∈ left, P e.2) : ∀ e ∈ right, P e.2 := by
  intro e he
  obtain ⟨v, hv⟩ := exists_lookup_of_mem (hkeys e.1 (List.mem_map_of_mem he))
  exact h e.1 v e.2 hv (lookup_of_mem hright he) (hleft _ (mem_of_lookup hv))

/-! ### What equal trees share -/

theorem kind_eq_of_deepEqual {a b : Tree} (h : deepEqual a b = true) : a.kind = b.kind := by
  cases a <;> cases b <;> simp_all [deepEqual, scalarEqual, kind]

/-- Doubles of equal value are finite or not alike. -/
theorem isFinite_eq_of_sameValue {x y : Double} (h : x.sameValue y = true) :
    x.isFinite = y.isFinite := by
  cases x <;> cases y <;> first | rfl | cases h

theorem isFinite_of_sameValueInt {x : Double} {n : Int} (h : x.sameValueInt n = true) :
    x.isFinite = true := by
  cases x with
  | finite => rfl
  | _ => simp [Double.sameValueInt, Double.toInt?] at h

/-- Equal trees have finite numbers only, or not, alike. -/
theorem isFinite_eq_of_deepEqual {a b : Tree} (ha : a.Distinct) (hb : b.Distinct)
    (h : deepEqual a b = true) : a.isFinite = b.isFinite := by
  induction a using nested_induction generalizing b with
  | null => cases b <;> first | rfl | cases h
  | bool x => cases b <;> first | rfl | cases h
  | str t => cases b <;> first | rfl | cases h
  | int n =>
    cases b with
    | int m => rfl
    | float y => exact (isFinite_of_sameValueInt h).symm
    | _ => cases h
  | float x =>
    cases b with
    | int m => exact isFinite_of_sameValueInt h
    | float y => exact isFinite_eq_of_sameValue h
    | _ => cases h
  | array left ih =>
    cases b with
    | array right =>
      rw [deepEqual_array_iff] at h
      rw [distinct_array] at ha hb
      rw [isFinite, isFinite]
      induction h with
      | nil => rfl
      | cons hitem _ ihrest =>
        rw [List.forall_mem_cons] at ih ha hb
        rw [itemsFinite, itemsFinite, ih.1 ha.1 hb.1 hitem, ihrest ih.2 ha.2 hb.2]
    | _ => cases h
  | object left ih =>
    cases b with
    | object right =>
      rw [distinct_object] at ha hb
      obtain ⟨hkeys, hvalues⟩ := (deepEqual_object_iff_lookup ha.1).mp h
      have hsame : ∀ key v w, left.lookup key = some v → right.lookup key = some w →
          v.isFinite = w.isFinite := by
        intro key v w hv hw
        have hmem := mem_of_lookup hv
        exact ih _ hmem (ha.2 _ hmem) (hb.2 _ (mem_of_lookup hw)) (hvalues key v w hv hw)
      rw [Bool.eq_iff_iff, isFinite_object, isFinite_object]
      constructor
      · refine forall_values_of_lookup (P := fun t => t.isFinite = true) hb.1
          (fun key => (hkeys key).mpr) ?_
        exact fun key v w hv hw hfinite => (hsame key v w hv hw).symm.trans hfinite
      · refine forall_values_of_lookup (P := fun t => t.isFinite = true) ha.1
          (fun key => (hkeys key).mp) ?_
        exact fun key w v hw hv hfinite => (hsame key v w hv hw).trans hfinite
    | _ => cases h

end AdmissionLedger.Tree
