import AdmissionLedger.Proofs.Patch.Apply
import AdmissionLedger.Proofs.Tree.Location
import AdmissionLedger.Proofs.Tree.Preparation

/-!
# Patches rebuild the new tree

Applied to the old tree, the patch between two prepared trees fits at every step and gives
the new one.  Nothing more can be asked than that the two agree: values that are equal
without being identical are left as they were, a key whose new value is missing is
taken away, and keys stand in the order in which they were set.

## Main definitions

* `Tree.Agrees` — equality up to the order of keys, up to values that are found equal, and up to
  keys of maps with a missing value.
* `Tree.document` — a tree as a document, of which a missing one is none.
* `Tree.Rebuilds` — what the edits between two trees have to do.

## Main results

* `Tree.rebuilds_of_distinct` — the edits between two trees turn the old one into one that agrees
  with the new one.
* `Patch.apply_between` — so does the patch between two trees, once both are prepared.
-/

namespace AdmissionLedger

namespace Tree

/-! ### Agreement -/

/-- Two trees agree if they are the same or found equal, or if they are maps whose values agree key
by key, where a missing key has the value `null`. -/
inductive Agrees : Tree → Tree → Prop
  | refl (t : Tree) : Agrees t t
  | equal {left right : Tree} (h : deepEqual left right = true) : Agrees left right
  | map {left right : List (Text × Tree)}
      (h : ∀ key, Agrees (ofOption (left.lookup key)) (ofOption (right.lookup key))) :
      Agrees (.object left) (.object right)

/-- A tree as a document; `null` is none. -/
def document : Tree → Option Tree
  | .null => none
  | t => some t

theorem ofOption_document (t : Tree) : ofOption t.document = t := by
  cases t <;> rfl

/-- What is there and is not `null` is what it is taken for. -/
theorem eq_some_of_ofOption {node : Option Tree} {t : Tree} (h : ofOption node = t)
    (ht : t ≠ .null) : node = some t := by
  cases node with
  | none => exact absurd h.symm ht
  | some t' => exact congrArg some h

/-! ### Edits elsewhere -/

/-- Edits at a location are edits at the root, put there. -/
theorem nodeEdit_eq_map (location : List Text) (old new : Tree) : nodeEdit location old new
    = (nodeEdit [] old new).map (Edit.relocate (location ++ ·)) := by
  unfold nodeEdit
  cases old.kind <;> cases new.kind <;> cases deepEqual old new <;> simp [Edit.relocate]

theorem additions_eq_map (location : List Text) (old new : List (Text × Tree)) :
    additions location old new = (additions [] old new).map (Edit.relocate (location ++ ·)) := by
  unfold additions
  rw [List.map_map]
  rfl

theorem relocate_relocate {ρ σ τ : Type} (f : ρ → σ) (g : σ → τ) (e : Edit ρ) :
    (e.relocate f).relocate g = e.relocate (g ∘ f) := by
  cases e <;> rfl

/-- The changes for an entry of an old map, given what the new map has under its key. -/
def changesUnder (location : List Text) (before : Tree) : Option Tree → List (Edit (List Text))
  | none => [.remove location]
  | some after => if deepEqual before after then [] else edits location before after

theorem entryEdits_cons (location : List Text) (key : Text) (before : Tree)
    (old new : List (Text × Tree)) : entryEdits location ((key, before) :: old) new
      = changesUnder (location ++ [key]) before (new.lookup key) ++
        entryEdits location old new := by
  rw [entryEdits]
  cases new.lookup key <;> rfl

theorem changesUnder_eq_map {before : Tree}
    (h : ∀ after location, edits location before after
      = (edits [] before after).map (Edit.relocate (location ++ ·)))
    (location : List Text) (after? : Option Tree) : changesUnder location before after?
      = (changesUnder [] before after?).map (Edit.relocate (location ++ ·)) := by
  cases after? with
  | none => simp [changesUnder, Edit.relocate]
  | some after =>
    simp only [changesUnder]
    split
    · rfl
    · exact h after location

theorem edits_eq_map (old new : Tree) (location : List Text) :
    edits location old new = (edits [] old new).map (Edit.relocate (location ++ ·)) := by
  refine edits.induct
    (fun _ old new => ∀ location : List Text,
      edits location old new = (edits [] old new).map (Edit.relocate (location ++ ·)))
    (fun _ old new => ∀ location : List Text,
      entryEdits location old new = (entryEdits [] old new).map (Edit.relocate (location ++ ·)))
    ?maps ?nodes ?nil ?cons [] old new location
  case maps =>
    intro _ old new ih location
    rw [edits, edits, ih, additions_eq_map, List.map_append]
  case nodes =>
    intro _ old new hnot location
    rw [edits.eq_2 location old new hnot, edits.eq_2 [] old new hnot, nodeEdit_eq_map]
  case nil =>
    intro _ new location
    rw [entryEdits, entryEdits]
    rfl
  case cons =>
    intro _ key before old new here ihvalue ihrest location
    -- the edits of a value are put below its key first, and then where the map is
    rw [entryEdits_cons, entryEdits_cons, List.map_append, ihrest,
      changesUnder_eq_map ihvalue, changesUnder_eq_map ihvalue ([] ++ [key]), List.map_map]
    congr 2
    funext e
    rw [Function.comp_apply, relocate_relocate]
    congr 1
    funext keys
    exact List.append_assoc _ _ _

/-! ### What the edits bring -/

/-- No value that an edit between two nodes brings has a key twice. -/
theorem bringsDistinct_nodeEdit {new : Tree} (hnew : new.Distinct) (location : List Text)
    (old : Tree) : ∀ e ∈ nodeEdit location old new, e.BringsDistinct := by
  unfold nodeEdit
  split
  · exact List.forall_mem_nil _
  · exact List.forall_mem_singleton.mpr hnew
  · exact List.forall_mem_singleton.mpr distinct_null
  · split
    · exact List.forall_mem_singleton.mpr hnew
    · split
      · exact List.forall_mem_nil _
      · exact List.forall_mem_singleton.mpr hnew

theorem bringsDistinct_additions {new : List (Text × Tree)} (hnew : (object new).Distinct)
    (location : List Text) (old : List (Text × Tree)) :
    ∀ e ∈ additions location old new, e.BringsDistinct := by
  intro e he
  obtain ⟨entry, hentry, rfl⟩ := List.mem_map.mp he
  exact (distinct_object.mp hnew).2 entry (List.mem_filter.mp hentry).1

/-- No value that the edits between two trees bring has a key twice. -/
theorem bringsDistinct_edits {new : Tree} (hnew : new.Distinct) (old : Tree) :
    ∀ e ∈ edits [] old new, e.BringsDistinct := by
  refine edits.induct
    (fun location old new => new.Distinct → ∀ e ∈ edits location old new, e.BringsDistinct)
    (fun location old new => (object new).Distinct →
      ∀ e ∈ entryEdits location old new, e.BringsDistinct)
    ?maps ?nodes ?nil ?cons [] old new hnew
  case maps =>
    intro location old new ih hnew
    rw [edits, List.forall_mem_append]
    exact ⟨ih hnew, bringsDistinct_additions hnew location old⟩
  case nodes =>
    intro location old new hnot hnew
    rw [edits.eq_2 location old new hnot]
    exact bringsDistinct_nodeEdit hnew location old
  case nil =>
    intro location new _
    rw [entryEdits]
    exact List.forall_mem_nil _
  case cons =>
    intro location key before old new here ihvalue ihrest hnew
    rw [entryEdits_cons, List.forall_mem_append]
    refine ⟨?_, ihrest hnew⟩
    cases hafter : new.lookup key with
    | none => exact List.forall_mem_singleton.mpr distinct_null
    | some after =>
      simp only [changesUnder]
      split
      · exact List.forall_mem_nil _
      · exact ihvalue after ((distinct_object.mp hnew).2 _ (mem_of_lookup hafter))

/-! ### What the edits do -/

/-- The edit between two nodes fits the old one and gives one that agrees with the new one. -/
theorem applyAll_nodeEdit {old new : Tree} {node : Option Tree} (hnode : ofOption node = old) :
    ∃ result, Edit.applyAll (nodeEdit [] old new) node = some result ∧
      (ofOption result).Agrees new := by
  unfold nodeEdit
  split
  · next hold hnew =>
    refine ⟨node, rfl, ?_⟩
    rw [hnode, kind_eq_absent_iff.mp hold, kind_eq_absent_iff.mp hnew]
    exact .refl _
  · exact ⟨some new, rfl, .refl new⟩
  · next hnew hold =>
    have hne : old ≠ .null := fun h => hold (kind_eq_absent_iff.mpr h)
    rw [eq_some_of_ofOption hnode hne, kind_eq_absent_iff.mp hnew]
    exact ⟨none, rfl, .refl _⟩
  · next hold _ _ =>
    have hne : old ≠ .null := fun h => hold (kind_eq_absent_iff.mpr h)
    rw [eq_some_of_ofOption hnode hne]
    split
    · exact ⟨some new, rfl, .refl new⟩
    · split
      · next hequal => exact ⟨some old, rfl, .equal hequal⟩
      · exact ⟨some new, rfl, .refl new⟩

/-- Two maps agree at a key. -/
def AgreeAt (key : Text) (left right : List (Text × Tree)) : Prop :=
  Agrees (ofOption (left.lookup key)) (ofOption (right.lookup key))

/-- The changes for an entry of an old map fit a map that still has the entry; they make it agree
with the new map at its key, and leave all other keys. -/
theorem applyAll_changesUnder {key : Text} {before : Tree} {current new : List (Text × Tree)}
    (hcurrent : current.lookup key = some before)
    (ih : ∀ after, new.lookup key = some after →
      ∃ result, Edit.applyAll (edits [] before after) (some before) = some result ∧
        (ofOption result).Agrees after) :
    ∃ current', Edit.applyAll (changesUnder [key] before (new.lookup key)) (some (.object current))
        = some (some (.object current')) ∧
      AgreeAt key current' new ∧ ∀ k ≠ key, current'.lookup k = current.lookup k := by
  have hvalue : ∃ result,
      Edit.applyAll (changesUnder [] before (new.lookup key)) (current.lookup key) = some result ∧
        (ofOption result).Agrees (ofOption (new.lookup key)) := by
    rw [hcurrent]
    cases hnew : new.lookup key with
    | none => exact ⟨none, rfl, .refl _⟩
    | some after =>
      simp only [changesUnder]
      split
      · next hequal => exact ⟨some before, rfl, .equal hequal⟩
      · exact ih after hnew
  obtain ⟨result, happly, hagrees⟩ := hvalue
  obtain ⟨current', happly', hkey, hother⟩ := Edit.applyAll_under happly
  refine ⟨current', ?_, ?_, hother⟩
  · rw [changesUnder_eq_map (edits_eq_map before)]
    exact happly'
  · rw [AgreeAt, hkey]
    exact hagrees

/-- The additions give the keys that they add, and leave all others. -/
theorem applyAll_additions {added : List (Text × Tree)} (hnodup : (keysOf added).Nodup)
    (current : List (Text × Tree)) :
    ∃ current', Edit.applyAll (added.map fun e => .add ([] ++ [e.1]) e.2) (some (.object current))
        = some (some (.object current')) ∧
      (∀ e ∈ added, current'.lookup e.1 = some e.2) ∧
      ∀ k ∉ keysOf added, current'.lookup k = current.lookup k := by
  induction added generalizing current with
  | nil => exact ⟨current, rfl, List.forall_mem_nil _, fun k _ => rfl⟩
  | cons e added ih =>
    rw [keysOf_cons, List.nodup_cons] at hnodup
    obtain ⟨current', happly, hadded, hother⟩ := ih hnodup.2 (put e.1 e.2 current)
    refine ⟨current', happly, ?_, ?_⟩
    · intro e' he'
      rcases List.mem_cons.mp he' with rfl | he'
      · rw [hother _ hnodup.1, lookup_put_self]
      · exact hadded e' he'
    · intro k hk
      rw [keysOf_cons, List.mem_cons, not_or] at hk
      rw [hother k hk.2, lookup_put_of_ne hk.1]

/-- What the edits between two trees have to do. -/
def Rebuilds (old new : Tree) : Prop :=
  ∀ node, ofOption node = old → ∃ result, Edit.applyAll (edits [] old new) node = some result ∧
    (ofOption result).Agrees new

/-- The removals and changes for some entries of an old map fit a map that still has them, and make
it agree with the new map at their keys.  The invariant of the run is that the entries yet to come
are as they were. -/
theorem applyAll_entryEdits {old new : List (Text × Tree)} (hnodup : (keysOf old).Nodup)
    (ih : ∀ e ∈ old, ∀ after, new.lookup e.1 = some after → Rebuilds e.2 after)
    {current : List (Text × Tree)} (hcurrent : ∀ e ∈ old, current.lookup e.1 = some e.2) :
    ∃ current', Edit.applyAll (entryEdits [] old new) (some (.object current))
        = some (some (.object current')) ∧
      (∀ k ∈ keysOf old, AgreeAt k current' new) ∧
      ∀ k ∉ keysOf old, current'.lookup k = current.lookup k := by
  induction old generalizing current with
  | nil =>
    refine ⟨current, ?_, List.forall_mem_nil _, fun k _ => rfl⟩
    rw [entryEdits]
    rfl
  | cons e old ihold =>
    obtain ⟨key, before⟩ := e
    rw [keysOf_cons, List.nodup_cons] at hnodup
    obtain ⟨hkey, hnodup⟩ := hnodup
    obtain ⟨hbefore, hold⟩ := List.forall_mem_cons.mp hcurrent
    obtain ⟨ihkey, ihrest⟩ := List.forall_mem_cons.mp ih
    obtain ⟨middle, hfirst, hagree, hkept⟩ := applyAll_changesUnder hbefore
      fun after hafter => ihkey after hafter (some before) rfl
    -- no later entry has this key, so that the first changes leave all of them
    have hmiddle : ∀ e ∈ old, middle.lookup e.1 = some e.2 := by
      intro e he
      have hmem : e.1 ∈ keysOf old := List.mem_map_of_mem he
      have hne : e.1 ≠ key := fun h => hkey (h ▸ hmem)
      rw [hkept e.1 hne, hold e he]
    obtain ⟨current', hrest, hagrees, hother⟩ := ihold hnodup ihrest hmiddle
    refine ⟨current', ?_, ?_, ?_⟩
    · rw [entryEdits_cons, List.nil_append, Edit.applyAll_append, hfirst]
      exact hrest
    · intro k hk
      rcases List.mem_cons.mp hk with rfl | hk
      · rw [AgreeAt, hother _ hkey]
        exact hagree
      · exact hagrees k hk
    · intro k hk
      rw [keysOf_cons, List.mem_cons, not_or] at hk
      rw [hother k hk.2, hkept k hk.1]

/-- The edits between two maps without equal keys rebuild the new one if the edits between their
values do. -/
theorem rebuilds_object {old new : List (Text × Tree)} (hold : (keysOf old).Nodup)
    (hnew : (keysOf new).Nodup)
    (ih : ∀ e ∈ old, ∀ after, new.lookup e.1 = some after → Rebuilds e.2 after) :
    Rebuilds (.object old) (.object new) := by
  intro node hnode
  rw [eq_some_of_ofOption hnode (fun h => nomatch h)]
  obtain ⟨middle, hfirst, hagrees, hkept⟩ := applyAll_entryEdits hold ih
    fun e he => lookup_of_mem hold he
  have hadded : (keysOf (new.filter fun e => (old.lookup e.1).isNone)).Nodup :=
    hnew.sublist (List.filter_sublist.map _)
  obtain ⟨result, hsecond, hvalues, hother⟩ := applyAll_additions hadded middle
  refine ⟨some (.object result), ?_, .map ?_⟩
  · rw [edits, Edit.applyAll_append, hfirst]
    exact hsecond
  · intro key
    by_cases hmem : key ∈ keysOf old
    · -- a key of the old map was dealt with, and nothing is added under it
      have hkey : key ∉ keysOf (new.filter fun e => (old.lookup e.1).isNone) := by
        intro h
        obtain ⟨e, he, rfl⟩ := List.mem_map.mp h
        have hnone := (List.mem_filter.mp he).2
        rw [Option.isNone_iff_eq_none] at hnone
        have hsome := lookup_isSome_iff.mpr hmem
        rw [hnone] at hsome
        cases hsome
      rw [hother key hkey]
      exact hagrees key hmem
    · -- a key that the old map lacks is added, or the new map lacks it too
      cases hlookup : new.lookup key with
      | some after =>
        have he : (key, after) ∈ new.filter fun e => (old.lookup e.1).isNone := by
          refine List.mem_filter.mpr ⟨mem_of_lookup hlookup, ?_⟩
          rw [lookup_eq_none_of_not_mem hmem]
          rfl
        rw [hvalues (key, after) he]
        exact .refl _
      | none =>
        have hkey : key ∉ keysOf (new.filter fun e => (old.lookup e.1).isNone) := by
          intro h
          have hkeynew : key ∈ keysOf new := (List.filter_sublist.map _).subset h
          rw [← lookup_isSome_iff, hlookup] at hkeynew
          cases hkeynew
        rw [hother key hkey, hkept key hmem, lookup_eq_none_of_not_mem hmem]
        exact .refl _

/-- The edits between two trees without equal keys rebuild the new one from the old one. -/
theorem rebuilds_of_distinct {old new : Tree} (hold : old.Distinct) (hnew : new.Distinct) :
    Rebuilds old new := by
  refine edits.induct (fun _ old new => old.Distinct → new.Distinct → Rebuilds old new)
    (fun _ old new => ∀ e ∈ old, ∀ after, new.lookup e.1 = some after →
      e.2.Distinct → after.Distinct → Rebuilds e.2 after)
    ?maps ?nodes ?nil ?cons [] old new hold hnew
  case maps =>
    intro _ old new ih hold hnew
    obtain ⟨hkeys, hvalues⟩ := distinct_object.mp hold
    obtain ⟨hkeys', hvalues'⟩ := distinct_object.mp hnew
    refine rebuilds_object hkeys hkeys' ?_
    intro e he after hafter
    exact ih e he after hafter (hvalues e he) (hvalues' _ (mem_of_lookup hafter))
  case nodes =>
    intro _ old new hnot _ _ node hnode
    rw [edits.eq_2 [] old new hnot]
    exact applyAll_nodeEdit hnode
  case nil =>
    intro _ new
    exact List.forall_mem_nil _
  case cons =>
    intro _ key before old new here ihvalue ihrest
    rw [List.forall_mem_cons]
    exact ⟨fun after _ => ihvalue after, ihrest⟩

end Tree

namespace Patch

/-- The patch between two trees that can be prepared fits the prepared old tree at every step, and
gives one that agrees with the prepared new tree.  Maps that have no key twice are kept so. -/
theorem apply_between {kind : Text} {old new old' new' : Tree} (hold : old.Distinct)
    (hnew : new.Distinct) (hold' : Tree.prepare kind old = .ok old')
    (hnew' : Tree.prepare kind new = .ok new') :
    ∃ patch result, between kind old new = .ok patch ∧
      patch.apply old'.document = some result ∧ (Tree.ofOption result).Agrees new' ∧
      (Tree.ofOption result).Distinct := by
  have hdistinct : (Tree.ofOption old'.document).Distinct := by
    rw [Tree.ofOption_document]
    exact Tree.distinct_prepare hold hold'
  have hdistinct' := Tree.distinct_prepare hnew hnew'
  obtain ⟨result, happly, hagrees⟩ := Tree.rebuilds_of_distinct
    (Tree.distinct_prepare hold hold') hdistinct' old'.document (Tree.ofOption_document old')
  refine ⟨(Tree.edits [] old' new').map (Edit.relocate Pointer.ofKeys), result, ?_, ?_, hagrees, ?_⟩
  · rw [between, hold', hnew']
    rfl
  · rw [apply_map_ofKeys]
    exact happly
  · exact Edit.distinct_applyAll (Tree.bringsDistinct_edits hdistinct' old') happly hdistinct

/-- A map with keys that have to be escaped, a missing value and noise. -/
def exampleOld : Tree :=
  .record [("a/b", .int 1), ("c~d", .null), ("status", .str "old")]

/-- The same map after some changes. -/
def exampleNew : Tree :=
  .record [("a/b", .array [.int 1]), ("e", .null), ("status", .str "new")]

theorem distinct_exampleOld : exampleOld.Distinct :=
  Tree.distinct_object.mpr ⟨by decide, by simp [Tree.Everywhere]⟩

theorem distinct_exampleNew : exampleNew.Distinct :=
  Tree.distinct_object.mpr ⟨by decide, by simp [Tree.Everywhere]⟩

theorem apply_between_exampleNew : ∃ patch result,
    between "ConfigMap" exampleOld exampleNew = .ok patch ∧
    patch.apply (Tree.record [("a/b", .int 1), ("c~d", .null)]).document = some result ∧
    (Tree.ofOption result).Agrees (.record [("a/b", .array [.int 1]), ("e", .null)]) ∧
    (Tree.ofOption result).Distinct :=
  apply_between distinct_exampleOld distinct_exampleNew rfl rfl

end Patch

end AdmissionLedger
