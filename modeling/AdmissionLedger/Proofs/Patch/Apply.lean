import AdmissionLedger.Patch.Edit
import AdmissionLedger.Proofs.Lookup
import AdmissionLedger.Proofs.Tree.Everywhere
import AdmissionLedger.Proofs.Tree.Pointer

/-!
# Applying patches

A patch is applied edit by edit to a document, which may be missing.  An edit follows
its location through maps alone; every map on the way has to be there.  What it is about
has to be there for a removal or a replacement, but not for an addition.

## Main definitions

* `Edit.act` — what an edit does to the node it is about.
* `Tree.alterAt` — a document with one node changed.
* `Edit.applyAll`, `Patch.apply` — the document after some edits, at keys or at pointers.

## Main results

* `Patch.apply_map_ofKeys` — edits at pointers along keys are edits at keys.
* `Edit.applyAll_under` — edits below a key only change the value of that key, and as they
  change that value alone.
-/

namespace AdmissionLedger

namespace Tree

/-! ### Values of keys -/

theorem lookup_put_self (key : Text) (value : Tree) (entries : List (Text × Tree)) :
    (put key value entries).lookup key = some value := by
  induction entries with
  | nil => rw [put, List.lookup_cons_self]
  | cons e rest ih =>
    obtain ⟨k, v⟩ := e
    rw [put]
    split
    · rw [List.lookup_cons_self]
    · next hne => rw [List.lookup_cons, beq_false_of_ne fun h => hne h.symm, ih]

theorem lookup_put_of_ne {key k : Text} (h : k ≠ key) (value : Tree)
    (entries : List (Text × Tree)) : (put key value entries).lookup k = entries.lookup k := by
  induction entries with
  | nil => rw [put, List.lookup_cons, beq_false_of_ne h]
  | cons e rest ih =>
    obtain ⟨k', v⟩ := e
    rw [put]
    split
    · next heq => rw [List.lookup_cons, List.lookup_cons, heq, beq_false_of_ne h]
    · rw [List.lookup_cons, List.lookup_cons, ih]

/-- Entries with the value of a key set, or with the key taken away. -/
def assign (key : Text) (value : Option Tree) (entries : List (Text × Tree)) :
    List (Text × Tree) :=
  match value with
  | some value => put key value entries
  | none => entries.filter fun e => e.1 ≠ key

theorem lookup_assign_self (key : Text) (value : Option Tree) (entries : List (Text × Tree)) :
    (assign key value entries).lookup key = value := by
  cases value with
  | some value => exact lookup_put_self key value entries
  | none => exact lookup_filter_ne_self key entries

theorem lookup_assign_of_ne {key k : Text} (h : k ≠ key) (value : Option Tree)
    (entries : List (Text × Tree)) : (assign key value entries).lookup k = entries.lookup k := by
  cases value with
  | some value => exact lookup_put_of_ne h value entries
  | none => exact lookup_filter_ne_of_ne h entries

theorem lookup_assign (key k : Text) (value : Option Tree) (entries : List (Text × Tree)) :
    (assign key value entries).lookup k = if k = key then value else entries.lookup k := by
  split
  · next h => rw [h, lookup_assign_self]
  · next h => exact lookup_assign_of_ne h value entries

/-- The values of different keys can be set in either order. -/
theorem lookup_assign_comm {key key' : Text} (h : key ≠ key') (value value' : Option Tree)
    (entries : List (Text × Tree)) (k : Text) :
    (assign key' value' (assign key value entries)).lookup k =
      (assign key value (assign key' value' entries)).lookup k := by
  simp only [lookup_assign]
  by_cases hk : k = key
  · rw [if_pos hk, if_neg (hk ▸ h), if_pos hk]
  · rw [if_neg hk, if_neg hk]

/-- Setting or taking away a key leaves no key twice. -/
theorem distinct_assign {key : Text} {value : Option Tree} {entries : List (Text × Tree)}
    (hvalue : (ofOption value).Distinct) (hentries : (object entries).Distinct) :
    (object (assign key value entries)).Distinct := by
  obtain ⟨hkeys, hvalues⟩ := distinct_object.mp hentries
  rw [distinct_object]
  cases value with
  | some value =>
    refine ⟨nodup_keysOf_put hkeys, ?_⟩
    intro e he
    rcases mem_put he with rfl | he
    · exact hvalue
    · exact hvalues e he
  | none =>
    refine ⟨hkeys.sublist (List.filter_sublist.map _), ?_⟩
    intro e he
    exact hvalues e (List.mem_filter.mp he).1

/-! ### Edits -/

/-- A document with the node at the end of some keys changed.  The keys lead through maps that are
there; what becomes of the node itself is up to the change, which may refuse. -/
def alterAt (change : Option Tree → Option (Option Tree)) :
    List Text → Option Tree → Option (Option Tree)
  | [], node => change node
  | key :: keys, some (.object entries) =>
    (alterAt change keys (entries.lookup key)).map fun value =>
      some (.object (assign key value entries))
  | _ :: _, _ => none

theorem distinct_lookup {key : Text} {entries : List (Text × Tree)}
    (h : (object entries).Distinct) : (ofOption (entries.lookup key)).Distinct := by
  cases hlookup : entries.lookup key with
  | none => exact distinct_null
  | some value => exact (distinct_object.mp h).2 _ (mem_of_lookup hlookup)

/-- A document has no key twice after a change that gives a node without. -/
theorem distinct_alterAt {change : Option Tree → Option (Option Tree)}
    (hchange : ∀ node node', change node = some node' → (ofOption node').Distinct)
    {keys : List Text} {node node' : Option Tree} (h : alterAt change keys node = some node')
    (hnode : (ofOption node).Distinct) : (ofOption node').Distinct := by
  induction keys generalizing node node' with
  | nil => exact hchange node node' h
  | cons key keys ih =>
    unfold alterAt at h
    split at h
    · next hnil => cases hnil
    · next key' keys' entries hcons =>
      cases hcons
      obtain ⟨value, hvalue, rfl⟩ := Option.map_eq_some_iff.mp h
      exact distinct_assign (ih hvalue (distinct_lookup hnode)) hnode
    · cases h

end Tree

namespace Edit

/-- What an edit does to the node it is about: an addition sets it, a removal or a replacement asks
for one that is there. -/
def act {ρ : Type} : Edit ρ → Option Tree → Option (Option Tree)
  | .add _ value, _ => some (some value)
  | .remove _, some _ => some none
  | .replace _ value, some _ => some (some value)
  | _, none => none

theorem act_relocate {ρ σ : Type} (f : ρ → σ) (e : Edit ρ) : (e.relocate f).act = e.act := by
  funext node
  cases e <;> cases node <;> rfl

theorem location_relocate {ρ σ : Type} (f : ρ → σ) (e : Edit ρ) :
    (e.relocate f).location = f e.location := by
  cases e <;> rfl

/-- An edit brings no value with a key twice. -/
def BringsDistinct {ρ : Type} (e : Edit ρ) : Prop :=
  (Tree.ofOption e.value?).Distinct

theorem distinct_act {ρ : Type} {e : Edit ρ} (he : e.BringsDistinct) {node node' : Option Tree}
    (h : e.act node = some node') : (Tree.ofOption node').Distinct := by
  cases e <;> cases node <;> cases h <;> exact he

/-- The document after an edit at keys, if the edit fits. -/
def apply (e : Edit (List Text)) (document : Option Tree) : Option (Option Tree) :=
  Tree.alterAt e.act e.location document

/-- The document after some edits at keys, one after the other. -/
def applyAll (es : List (Edit (List Text))) (document : Option Tree) : Option (Option Tree) :=
  es.foldlM (fun document e => e.apply document) document

/-- A document has no key twice after edits that bring none. -/
theorem distinct_applyAll {es : List (Edit (List Text))} (hes : ∀ e ∈ es, e.BringsDistinct)
    {document result : Option Tree} (h : applyAll es document = some result)
    (hdocument : (Tree.ofOption document).Distinct) : (Tree.ofOption result).Distinct := by
  induction es generalizing document with
  | nil =>
    cases h
    exact hdocument
  | cons e es ih =>
    obtain ⟨he, hes⟩ := List.forall_mem_cons.mp hes
    obtain ⟨middle, hmiddle, hrest⟩ := Option.bind_eq_some_iff.mp h
    exact ih hes hrest (Tree.distinct_alterAt (fun _ _ => distinct_act he) hmiddle hdocument)

theorem applyAll_cons (e : Edit (List Text)) (es : List (Edit (List Text)))
    (document : Option Tree) :
    applyAll (e :: es) document = (e.apply document).bind (applyAll es) :=
  rfl

theorem applyAll_append (es es' : List (Edit (List Text))) (document : Option Tree) :
    applyAll (es ++ es') document = (applyAll es document).bind (applyAll es') := by
  unfold applyAll
  rw [List.foldlM_append]
  rfl

/-- The edit below a key. -/
def under (key : Text) (e : Edit (List Text)) : Edit (List Text) :=
  e.relocate (key :: ·)

/-- An edit below a key changes the value of that key as it would alone. -/
theorem apply_under (key : Text) (e : Edit (List Text)) (entries : List (Text × Tree)) :
    (e.under key).apply (some (.object entries)) =
      (e.apply (entries.lookup key)).map fun value =>
        some (.object (Tree.assign key value entries)) := by
  rw [apply, under, act_relocate, location_relocate, Tree.alterAt]
  rfl

/-- Edits below a key change the value of that key as they would alone, and no other value. -/
theorem applyAll_under {key : Text} {es : List (Edit (List Text))} {entries : List (Text × Tree)}
    {value : Option Tree} (h : applyAll es (entries.lookup key) = some value) :
    ∃ entries',
      applyAll (es.map (under key)) (some (.object entries)) = some (some (.object entries')) ∧
      entries'.lookup key = value ∧ ∀ k ≠ key, entries'.lookup k = entries.lookup k := by
  induction es generalizing entries with
  | nil =>
    refine ⟨entries, rfl, ?_, fun k _ => rfl⟩
    exact Option.some.inj h
  | cons e es ih =>
    rw [applyAll_cons, Option.bind_eq_some_iff] at h
    obtain ⟨middle, hmiddle, hrest⟩ := h
    -- what the first edit leaves of the value is what the key then has
    rw [← Tree.lookup_assign_self key middle entries] at hrest
    obtain ⟨entries', happly, hkey, hother⟩ := ih hrest
    refine ⟨entries', ?_, hkey, ?_⟩
    · rw [List.map_cons, applyAll_cons, apply_under, hmiddle]
      exact happly
    · intro k hk
      rw [hother k hk, Tree.lookup_assign_of_ne hk]

end Edit

namespace Patch

/-- The document after a patch: its pointers are read, and its edits applied one after the other. -/
def apply (p : Patch) (document : Option Tree) : Option (Option Tree) :=
  p.foldlM (fun document e =>
    (Pointer.decode e.location).bind fun keys => Tree.alterAt e.act keys document) document

/-- Edits at pointers along keys are edits at keys. -/
theorem apply_map_ofKeys (es : List (Edit (List Text))) (document : Option Tree) :
    apply (es.map (Edit.relocate Pointer.ofKeys)) document = Edit.applyAll es document := by
  unfold apply Edit.applyAll
  rw [List.foldlM_map]
  congr 1
  funext document e
  rw [Edit.location_relocate, Pointer.decode_ofKeys, Edit.act_relocate]
  rfl

end Patch

end AdmissionLedger
