import AdmissionLedger.Proofs.Number.Exact
import AdmissionLedger.Proofs.Tree.Reordering

/-!
# Canonical forms

The canonical form of a tree has the keys of every map in order and every number replaced
by what it stands for.  It forgets how a number is kept, not that it is a number, so that a
boolean or `null` never has the form of one.  Equality of trees is equality of canonical
forms, except that nothing with not-a-number in it equals anything.

## Main definitions

* `CanonicalForm`, `Tree.canonicalForm` — what is left of a tree.
* `Tree.NanFree` — no number of a tree is not-a-number.
* `Tree.SameForm` — two such trees have one canonical form.
* `Tree.Reordered` — the keys of some maps of a tree stand in another order.

## Main results

* `Tree.deepEqual_iff` — equality in terms of canonical forms.
* `Tree.deepEqual_lawful` — the laws of equality.
-/

namespace AdmissionLedger

/-- A tree of maps, sequences and scalars in which a number is what it stands for. -/
inductive CanonicalForm
  | null
  | bool (value : Bool)
  | number (value : ExactValue)
  | str (value : Text)
  | array (items : List CanonicalForm)
  | object (entries : List (Text × CanonicalForm))

namespace Tree

/-! ### Exact numbers -/

mutual

/-- A tree with every number replaced by what it stands for. -/
def exactForm : Tree → CanonicalForm
  | .null => .null
  | .bool b => .bool b
  | .int n => .number (.rational n)
  | .float x => .number x.exactValue
  | .str t => .str t
  | .array items => .array (exactItems items)
  | .object entries => .object (exactEntries entries)

/-- The items of a sequence with exact numbers. -/
def exactItems : List Tree → List CanonicalForm
  | [] => []
  | item :: rest => exactForm item :: exactItems rest

/-- The entries of a map with exact numbers. -/
def exactEntries : List (Text × Tree) → List (Text × CanonicalForm)
  | [] => []
  | (key, value) :: rest => (key, exactForm value) :: exactEntries rest

end

theorem exactItems_eq_map (items : List Tree) : exactItems items = items.map exactForm := by
  induction items with
  | nil => rfl
  | cons item rest ih => rw [exactItems, ih, List.map_cons]

theorem exactEntries_eq_map (entries : List (Text × Tree)) :
    exactEntries entries = entries.map fun e => (e.1, exactForm e.2) := by
  induction entries with
  | nil => rfl
  | cons e rest ih =>
    obtain ⟨key, value⟩ := e
    rw [exactEntries, ih, List.map_cons]

theorem map_fst_exactEntries (entries : List (Text × Tree)) :
    (exactEntries entries).map (·.1) = keysOf entries := by
  rw [exactEntries_eq_map, List.map_map]
  rfl

/-- The canonical form of a tree: the keys of every map in order, and every number exact. -/
def canonicalForm (t : Tree) : CanonicalForm := t.sortKeys.exactForm

theorem canonicalForm_array (items : List Tree) :
    canonicalForm (.array items) = .array (items.map canonicalForm) := by
  rw [canonicalForm, sortKeys_array, exactForm, exactItems_eq_map, List.map_map]
  rfl

theorem canonicalForm_array_eq_iff {left right : List Tree} :
    canonicalForm (.array left) = canonicalForm (.array right) ↔
      List.Forall₂ (fun a b => a.canonicalForm = b.canonicalForm) left right := by
  rw [canonicalForm_array, canonicalForm_array, CanonicalForm.array.injEq, ← List.forall₂_eq_eq_eq,
    List.forall₂_map_left_iff, List.forall₂_map_right_iff]

/-- Under each key of the canonical form of a map is the canonical form of the value. -/
theorem lookup_exactEntries_sorted {entries : List (Text × Tree)} (h : (keysOf entries).Nodup)
    (key : Text) : (exactEntries (sortKeysEntries entries)).lookup key =
      (entries.lookup key).map canonicalForm := by
  rw [exactEntries_eq_map, lookup_map (fun _ => exactForm), lookup_sortKeysEntries h,
    Option.map_map]
  rfl

/-- Maps without equal keys have one canonical form exactly if their values do, key by key. -/
theorem canonicalForm_object_eq_iff {left right : List (Text × Tree)}
    (hleft : (keysOf left).Nodup) (hright : (keysOf right).Nodup) :
    canonicalForm (.object left) = canonicalForm (.object right) ↔
      ∀ key, (left.lookup key).map canonicalForm = (right.lookup key).map canonicalForm := by
  rw [canonicalForm, canonicalForm, sortKeys, sortKeys, exactForm, exactForm,
    CanonicalForm.object.injEq]
  constructor
  · intro h key
    rw [← lookup_exactEntries_sorted hleft, h, lookup_exactEntries_sorted hright]
  · intro h
    refine eq_of_lookup_eq ?_ ?_ fun key => ?_
    · rw [map_fst_exactEntries, map_fst_exactEntries]
      refine keysOf_sortKeysEntries_eq_of_isSome hleft hright fun key => ?_
      simpa using congrArg Option.isSome (h key)
    · rw [map_fst_exactEntries]
      exact nodup_keysOf_sortKeysEntries hleft
    · rw [lookup_exactEntries_sorted hleft, h, lookup_exactEntries_sorted hright]

/-! ### Not a number -/

mutual

/-- No number of a tree is not-a-number. -/
def NanFree : Tree → Prop
  | .float x => x ≠ .nan
  | .array items => ItemsNanFree items
  | .object entries => EntriesNanFree entries
  | _ => True

/-- The condition on the items of a sequence. -/
def ItemsNanFree : List Tree → Prop
  | [] => True
  | item :: rest => NanFree item ∧ ItemsNanFree rest

/-- The condition on the values of a map. -/
def EntriesNanFree : List (Text × Tree) → Prop
  | [] => True
  | (_, value) :: rest => NanFree value ∧ EntriesNanFree rest

end

theorem nanFree_array {items : List Tree} : NanFree (.array items) ↔ ∀ t ∈ items, NanFree t := by
  rw [NanFree]
  induction items with
  | nil => simp [ItemsNanFree]
  | cons item rest ih => simp [ItemsNanFree, ih]

theorem nanFree_object {entries : List (Text × Tree)} :
    NanFree (.object entries) ↔ ∀ e ∈ entries, NanFree e.2 := by
  rw [NanFree]
  induction entries with
  | nil => simp [EntriesNanFree]
  | cons e rest ih =>
    obtain ⟨key, value⟩ := e
    simp [EntriesNanFree, ih]

theorem nanFree_object_iff_lookup {entries : List (Text × Tree)} (h : (keysOf entries).Nodup) :
    NanFree (.object entries) ↔ ∀ key, ∀ value ∈ entries.lookup key, NanFree value := by
  rw [nanFree_object]
  constructor
  · exact fun hall key value hvalue => hall _ (mem_of_lookup hvalue)
  · exact fun hall e he => hall e.1 e.2 (lookup_of_mem h he)

/-! ### The same form -/

/-- Two trees have one canonical form, and neither has a number that is not-a-number. -/
def SameForm (a b : Tree) : Prop :=
  a.NanFree ∧ b.NanFree ∧ a.canonicalForm = b.canonicalForm

theorem SameForm.symm {a b : Tree} (h : SameForm a b) : SameForm b a :=
  ⟨h.2.1, h.1, h.2.2.symm⟩

theorem SameForm.trans {a b c : Tree} (h : SameForm a b) (h' : SameForm b c) : SameForm a c :=
  ⟨h.1, h'.2.1, h.2.2.trans h'.2.2⟩

theorem sameForm_self_iff {a : Tree} : SameForm a a ↔ a.NanFree :=
  ⟨And.left, fun h => ⟨h, h, rfl⟩⟩

theorem sameForm_array_iff {left right : List Tree} :
    SameForm (.array left) (.array right) ↔ List.Forall₂ SameForm left right := by
  rw [SameForm, nanFree_array, nanFree_array, canonicalForm_array_eq_iff]
  induction left generalizing right with
  | nil => cases right <;> simp
  | cons a left ih =>
    cases right with
    | nil => simp
    | cons b right =>
      rw [List.forall₂_cons, List.forall₂_cons, List.forall_mem_cons, List.forall_mem_cons, ← ih,
        SameForm]
      tauto

theorem sameForm_object_iff {left right : List (Text × Tree)} (hleft : (keysOf left).Nodup)
    (hright : (keysOf right).Nodup) : SameForm (.object left) (.object right) ↔
      ∀ key, Option.Rel SameForm (left.lookup key) (right.lookup key) := by
  rw [SameForm, nanFree_object_iff_lookup hleft, nanFree_object_iff_lookup hright,
    canonicalForm_object_eq_iff hleft hright, ← forall_and, ← forall_and]
  refine forall_congr' fun key => ?_
  cases left.lookup key <;> cases right.lookup key <;> simp [SameForm]

/-! ### Equality -/

theorem deepEqual_object_iff_rel {left right : List (Text × Tree)} (h : (keysOf left).Nodup) :
    deepEqual (.object left) (.object right) = true ↔
      ∀ key, Option.Rel (fun a b => deepEqual a b = true) (left.lookup key) (right.lookup key) := by
  simp only [deepEqual_object_iff_lookup h, ← lookup_isSome_iff, ← forall_and]
  refine forall_congr' fun key => ?_
  cases left.lookup key <;> cases right.lookup key <;> simp

theorem deepEqual_int_float_iff {n : Int} {x : Double} :
    deepEqual (.int n) (.float x) = true ↔ SameForm (.int n) (.float x) := by
  have hnan : x.exactValue = .rational n → x ≠ .nan := by
    rintro h rfl
    cases h
  rw [deepEqual, scalarEqual, Double.sameValueInt_iff]
  simp only [SameForm, NanFree, canonicalForm, sortKeys, exactForm, CanonicalForm.number.injEq,
    true_and]
  rw [eq_comm (a := ExactValue.rational n), and_iff_right_of_imp hnan]

theorem deepEqual_float_float_iff {x y : Double} :
    deepEqual (.float x) (.float y) = true ↔ SameForm (.float x) (.float y) := by
  rw [deepEqual, scalarEqual, Double.sameValue_iff]
  simp only [SameForm, NanFree, canonicalForm, sortKeys, exactForm, CanonicalForm.number.injEq]
  refine and_congr_right fun hx => (and_iff_right_of_imp fun h hy => hx ?_).symm
  rwa [← Double.exactValue_eq_nan_iff, h, Double.exactValue_eq_nan_iff]

/-- Two trees are equal exactly if they have one canonical form and neither has a number that is
not-a-number. -/
theorem deepEqual_iff {a b : Tree} (ha : a.Distinct) (hb : b.Distinct) :
    deepEqual a b = true ↔ SameForm a b := by
  induction a using nested_induction generalizing b with
  | null => cases b <;> simp [deepEqual, SameForm, NanFree, canonicalForm, sortKeys, exactForm]
  | bool x =>
    cases b <;>
      simp [deepEqual, scalarEqual, SameForm, NanFree, canonicalForm, sortKeys, exactForm]
  | str t =>
    cases b <;>
      simp [deepEqual, scalarEqual, SameForm, NanFree, canonicalForm, sortKeys, exactForm]
  | int n =>
    cases b with
    | float y => exact deepEqual_int_float_iff
    | _ => simp [deepEqual, scalarEqual, SameForm, NanFree, canonicalForm, sortKeys, exactForm]
  | float x =>
    cases b with
    | int m => exact deepEqual_int_float_iff.trans ⟨.symm, .symm⟩
    | float y => exact deepEqual_float_float_iff
    | _ => simp [deepEqual, scalarEqual, SameForm, canonicalForm, sortKeys, exactForm]
  | array left ih =>
    cases b with
    | array right =>
      rw [distinct_array] at ha hb
      rw [deepEqual_array_iff, sameForm_array_iff, List.forall₂_iff_zip, List.forall₂_iff_zip]
      refine and_congr_right fun _ => forall₂_congr fun a b => imp_congr_right fun hmem => ?_
      obtain ⟨hleft, hright⟩ := List.of_mem_zip hmem
      exact ih a hleft (ha a hleft) (hb b hright)
    | _ => simp [deepEqual, SameForm, canonicalForm, sortKeys, exactForm]
  | object left ih =>
    cases b with
    | object right =>
      obtain ⟨hkeys, hvalues⟩ := distinct_object.mp ha
      obtain ⟨hkeys', hvalues'⟩ := distinct_object.mp hb
      rw [deepEqual_object_iff_rel hkeys, sameForm_object_iff hkeys hkeys']
      refine forall_congr' fun key => ?_
      cases hleft : left.lookup key with
      | none => cases right.lookup key <;> simp
      | some value =>
        cases hright : right.lookup key with
        | none => simp
        | some value' =>
          have hmem := mem_of_lookup hleft
          rw [Option.rel_some_some, Option.rel_some_some]
          exact ih _ hmem (hvalues _ hmem) (hvalues' _ (mem_of_lookup hright))
    | _ => simp [deepEqual, SameForm, canonicalForm, sortKeys, exactForm]

/-- An integer is not rounded to a double to be compared with one. -/
example :
    deepEqual (.int 9007199254740993) (.float (.finite false 4503599627370496 1)) = false := by
  decide

/-! ### The order of keys -/

/-- The second tree is the first with the keys of some maps, at any depth, in another order. -/
inductive Reordered : Tree → Tree → Prop
  | refl (t : Tree) : Reordered t t
  | trans {t t' t'' : Tree} : Reordered t t' → Reordered t' t'' → Reordered t t''
  /-- The entries of a map change places. -/
  | entries {entries entries' : List (Text × Tree)} (h : entries.Perm entries') :
    Reordered (.object entries) (.object entries')
  /-- Keys change places inside an item of a sequence. -/
  | item (before after : List Tree) {t t' : Tree} : Reordered t t' →
    Reordered (.array (before ++ t :: after)) (.array (before ++ t' :: after))
  /-- Keys change places inside a value of a map. -/
  | value (before after : List (Text × Tree)) (key : Text) {t t' : Tree} : Reordered t t' →
    Reordered (.object (before ++ (key, t) :: after)) (.object (before ++ (key, t') :: after))

theorem lookup_eq_of_perm {entries entries' : List (Text × Tree)} (hkeys : (keysOf entries).Nodup)
    (h : entries.Perm entries') (key : Text) : entries.lookup key = entries'.lookup key := by
  have hkeys' : (keysOf entries').Nodup := (h.map _).nodup_iff.mp hkeys
  ext value
  exact ⟨fun hvalue => lookup_of_mem hkeys' (h.mem_iff.mp (mem_of_lookup hvalue)),
    fun hvalue => lookup_of_mem hkeys (h.mem_iff.mpr (mem_of_lookup hvalue))⟩

/-- Reordered trees have no key twice alike, and are the same with their keys in order. -/
theorem Reordered.distinct_and_sortKeys_eq {t t' : Tree} (h : Reordered t t') (ht : t.Distinct) :
    t'.Distinct ∧ t.sortKeys = t'.sortKeys := by
  induction h with
  | refl t => exact ⟨ht, rfl⟩
  | trans _ _ ih ih' =>
    obtain ⟨ht', heq⟩ := ih ht
    obtain ⟨ht'', heq'⟩ := ih' ht'
    exact ⟨ht'', heq.trans heq'⟩
  | @entries entries entries' hperm =>
    obtain ⟨hkeys, hvalues⟩ := distinct_object.mp ht
    have hkeys' : (keysOf entries').Nodup := (hperm.map _).nodup_iff.mp hkeys
    refine ⟨distinct_object.mpr ⟨hkeys', fun e he => hvalues e (hperm.mem_iff.mpr he)⟩, ?_⟩
    exact (sortKeys_object_eq_iff hkeys hkeys').mpr fun key => by
      rw [lookup_eq_of_perm hkeys hperm]
  | item before after _ ih =>
    rw [distinct_array, List.forall_mem_append, List.forall_mem_cons] at ht
    obtain ⟨ht', heq⟩ := ih ht.2.1
    refine ⟨?_, ?_⟩
    · rw [distinct_array, List.forall_mem_append, List.forall_mem_cons]
      exact ⟨ht.1, ht', ht.2.2⟩
    · simp only [sortKeys_array, List.map_append, List.map_cons, heq]
  | value before after key _ ih =>
    rw [distinct_object, List.forall_mem_append, List.forall_mem_cons] at ht
    obtain ⟨ht', heq⟩ := ih ht.2.2.1
    have hkeys : ∀ t, keysOf (before ++ (key, t) :: after) = keysOf before ++ key :: keysOf after :=
      fun t => by simp [keysOf]
    rw [hkeys] at ht
    refine ⟨?_, ?_⟩
    · rw [distinct_object, List.forall_mem_append, List.forall_mem_cons, hkeys]
      exact ⟨ht.1, ht.2.1, ht', ht.2.2.2⟩
    · simp only [sortKeys, sortKeysEntries_eq_insertionSort, List.map_append, List.map_cons,
        sortEntry, heq]

/-- Equality is symmetric and transitive, reflexive on exactly the trees without not-a-number, the
same whatever the order of keys, and on trees without not-a-number the equality of canonical
forms. -/
theorem deepEqual_lawful {a b c : Tree} (ha : a.Distinct) (hb : b.Distinct) (hc : c.Distinct) :
    deepEqual a b = deepEqual b a ∧
      (deepEqual a b = true → deepEqual b c = true → deepEqual a c = true) ∧
      (deepEqual a a = true ↔ a.NanFree) ∧
      (∀ a' b', Reordered a a' → Reordered b b' → deepEqual a' b' = deepEqual a b) ∧
      (a.NanFree → b.NanFree → (deepEqual a b = true ↔ a.canonicalForm = b.canonicalForm)) := by
  refine ⟨?_, ?_, ?_, ?_, ?_⟩
  · rw [Bool.eq_iff_iff, deepEqual_iff ha hb, deepEqual_iff hb ha]
    exact ⟨.symm, .symm⟩
  · rw [deepEqual_iff ha hb, deepEqual_iff hb hc, deepEqual_iff ha hc]
    exact .trans
  · rw [deepEqual_iff ha ha, sameForm_self_iff]
  · intro a' b' haa' hbb'
    obtain ⟨ha', hsorted⟩ := haa'.distinct_and_sortKeys_eq ha
    obtain ⟨hb', hsorted'⟩ := hbb'.distinct_and_sortKeys_eq hb
    exact (deepEqual_eq_of_sortKeys_eq ha ha' hb hb' hsorted hsorted').symm
  · intro hfree hfree'
    rw [deepEqual_iff ha hb, SameForm, and_iff_right hfree, and_iff_right hfree']

/-- A whole number that is a double too, zero, and a boolean. -/
def exampleInts : Tree :=
  .record [("max", .int 9007199254740992), ("min", .int 0), ("on", .bool true)]

/-- The same with doubles, the zero a negative one. -/
def exampleDoubles : Tree :=
  .record [("max", .float (.finite false 4503599627370496 1)),
    ("min", .float (.finite true 0 (-1074))), ("on", .bool true)]

theorem distinct_exampleInts : exampleInts.Distinct := by
  simp [exampleInts, record, Everywhere]
  decide

theorem distinct_exampleDoubles : exampleDoubles.Distinct := by
  simp [exampleDoubles, record, Everywhere]
  decide

theorem deepEqual_lawful_exampleDoubles :
    deepEqual exampleDoubles exampleInts = true ∧
      deepEqual exampleInts exampleInts = true ∧
      deepEqual exampleInts
        (.record [("min", .float (.finite true 0 (-1074))),
          ("max", .float (.finite false 4503599627370496 1)), ("on", .bool true)]) = true ∧
      exampleInts.canonicalForm = exampleDoubles.canonicalForm := by
  have hequal : deepEqual exampleInts exampleDoubles = true := by decide +kernel
  obtain ⟨hsymm, htrans, hrefl, horder, hform⟩ :=
    deepEqual_lawful distinct_exampleInts distinct_exampleDoubles distinct_exampleInts
  have hback : deepEqual exampleDoubles exampleInts = true := hsymm.symm.trans hequal
  have hfree : exampleInts.NanFree := hrefl.mp (htrans hequal hback)
  have hfree' : exampleDoubles.NanFree := by
    simp [exampleDoubles, record, NanFree, EntriesNanFree]
  refine ⟨hback, htrans hequal hback, ?_, (hform hfree hfree').mp hequal⟩
  exact (horder _ _ (.refl _) (.entries ((List.Perm.swap _ _ _).map _))).trans hequal

end Tree

end AdmissionLedger
