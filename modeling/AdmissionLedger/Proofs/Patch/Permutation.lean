import AdmissionLedger.Proofs.Patch.Location
import AdmissionLedger.Proofs.Tree.Rearrangement

/-!
# Patches in any order

Changes at locations that are apart can change places: each finds the node that it is about
as it would have found it, and only the order in which keys are set differs.  The edits
between two trees are apart from each other, so they can be made in any order.  Nor does
it matter in which order the keys of the two trees stand.

## Main definitions

* `Edit.sorted` — an edit with the keys of its value in order.
* `Patch.ByLocation` — what a patch between two prepared trees is.
* `Patch.SameEdits` — the same edits, up to their order and that of keys.

## Main results

* `Tree.alterAt_comm` — two changes at locations that are apart.
* `Edit.applyAll_perm` — edits that are apart, in any order.
* `Edit.perm_sorted_edits`, `Patch.exists_between_sameEdits` — edits between trees with their keys
  in another order.
* `Patch.between_byLocation` — the patch between two trees, location by location.
-/

namespace AdmissionLedger

namespace Tree

open Location

/-! ### Changes at keys -/

section

variable {f g : Option Tree → Option (Option Tree)}

theorem alterAt_cons_eq_some_iff {key : Text} {keys : List Text} {node node' : Option Tree} :
    alterAt f (key :: keys) node = some node' ↔ ∃ entries value, node = some (.object entries) ∧
      alterAt f keys (entries.lookup key) = some value ∧
        node' = some (.object (assign key value entries)) := by
  constructor
  · intro h
    unfold alterAt at h
    split at h
    · next hnil => cases hnil
    · next _ _ entries hcons =>
      cases hcons
      obtain ⟨value, hvalue, rfl⟩ := Option.map_eq_some_iff.mp h
      exact ⟨entries, value, rfl, hvalue, rfl⟩
    · cases h
  · rintro ⟨entries, value, rfl, hvalue, rfl⟩
    rw [alterAt, hvalue, Option.map_some]

/-- A change that gives no node with a key twice. -/
def GivesDistinct (f : Option Tree → Option (Option Tree)) : Prop :=
  ∀ node node', f node = some node' → (ofOption node').Distinct

/-- Two changes at locations that are apart can be made in either order. -/
theorem alterAt_comm (hf : GivesDistinct f) (hg : GivesDistinct g) {keys keys' : List Text}
    (hapart : Apart keys keys') {document first second : Option Tree}
    (hdocument : (ofOption document).Distinct) (hfirst : alterAt f keys document = some first)
    (hsecond : alterAt g keys' first = some second) :
    ∃ first' second', alterAt g keys' document = some first' ∧
      alterAt f keys first' = some second' ∧ Alike second second' := by
  induction keys generalizing keys' document first second with
  | nil => exact absurd hapart (not_apart_nil keys')
  | cons key keys ih =>
    cases keys' with
    | nil => exact absurd hapart.symm (not_apart_nil _)
    | cons key' keys' =>
      have hdistinct := distinct_alterAt hg hsecond (distinct_alterAt hf hfirst hdocument)
      obtain ⟨entries, value, rfl, hvalue, rfl⟩ := alterAt_cons_eq_some_iff.mp hfirst
      obtain ⟨_, value', ⟨⟩, hvalue', rfl⟩ := alterAt_cons_eq_some_iff.mp hsecond
      -- it is enough to find the same values under all keys
      suffices ∃ middle last, alterAt g (key' :: keys') (some (.object entries))
          = some (some (.object middle)) ∧
        alterAt f (key :: keys) (some (.object middle)) = some (some (.object last)) ∧
        ∀ k, Alike ((assign key' value' (assign key value entries)).lookup k) (last.lookup k) by
        obtain ⟨middle, last, hmiddle, hlast, halike⟩ := this
        have hdistinct' := distinct_alterAt hf hlast (distinct_alterAt hg hmiddle hdocument)
        exact ⟨_, _, hmiddle, hlast, (alike_object_iff hdistinct hdistinct').mpr halike⟩
      by_cases hkey : key = key'
      · subst hkey
        have htail : Apart keys keys' := (apart_cons_iff.mp hapart).resolve_left (· rfl)
        rw [lookup_assign_self] at hvalue'
        obtain ⟨value₁, value₂, h₁, h₂, halike⟩ :=
          ih htail (distinct_lookup hdocument) hvalue hvalue'
        refine ⟨assign key value₁ entries, assign key value₂ (assign key value₁ entries),
          alterAt_cons_eq_some_iff.mpr ⟨entries, value₁, rfl, h₁, rfl⟩,
          alterAt_cons_eq_some_iff.mpr ⟨_, value₂, rfl, ?_, rfl⟩, fun k => ?_⟩
        · rw [lookup_assign_self]
          exact h₂
        · simp only [lookup_assign]
          split
          · exact halike
          · exact .refl _
      · rw [lookup_assign_of_ne (Ne.symm hkey)] at hvalue'
        refine ⟨assign key' value' entries, assign key value (assign key' value' entries),
          alterAt_cons_eq_some_iff.mpr ⟨entries, value', rfl, hvalue', rfl⟩,
          alterAt_cons_eq_some_iff.mpr ⟨_, value, rfl, ?_, rfl⟩, fun k => ?_⟩
        · rw [lookup_assign_of_ne hkey]
          exact hvalue
        · rw [lookup_assign_comm hkey]
          exact .refl _

/-- A change that only asks whether its node is there does the same to documents that are the same
up to the order of keys. -/
theorem alterAt_congr (hf : GivesDistinct f)
    (hcongr : ∀ node node' : Option Tree, node.isSome = node'.isSome → f node = f node')
    {keys : List Text} {document document' result : Option Tree}
    (hdocument : (ofOption document).Distinct) (hdocument' : (ofOption document').Distinct)
    (halike : Alike document document') (h : alterAt f keys document = some result) :
    ∃ result', alterAt f keys document' = some result' ∧ Alike result result' := by
  induction keys generalizing document document' result with
  | nil =>
    refine ⟨result, ?_, .refl _⟩
    rw [alterAt, ← hcongr document document' halike.isSome_eq]
    exact h
  | cons key keys ih =>
    have hdistinct := distinct_alterAt hf h hdocument
    obtain ⟨entries, value, rfl, hvalue, rfl⟩ := alterAt_cons_eq_some_iff.mp h
    obtain ⟨entries', rfl⟩ := halike.exists_object
    have hlookups := (alike_object_iff hdocument hdocument').mp halike
    obtain ⟨value', hvalue', halike'⟩ := ih (distinct_lookup hdocument)
      (distinct_lookup hdocument') (hlookups key) hvalue
    have h' : alterAt f (key :: keys) (some (.object entries')) = _ :=
      alterAt_cons_eq_some_iff.mpr ⟨entries', value', rfl, hvalue', rfl⟩
    refine ⟨_, h', (alike_object_iff hdistinct (distinct_alterAt hf h' hdocument')).mpr ?_⟩
    intro k
    rw [lookup_assign, lookup_assign]
    split
    · exact halike'
    · exact hlookups k

end

end Tree

namespace Edit

open AdmissionLedger.Tree Location

/-! ### Edits in any order -/

theorem act_eq_of_isSome_eq {ρ : Type} (e : Edit ρ) (node node' : Option Tree)
    (h : node.isSome = node'.isSome) : e.act node = e.act node' := by
  cases node with
  | none =>
    cases node' with
    | none => rfl
    | some _ => cases h
  | some _ =>
    cases node' with
    | none => cases h
    | some _ => cases e <;> rfl

/-- Edits do the same to documents that are the same up to the order of keys. -/
theorem applyAll_congr {es : List (Edit (List Text))} (hes : ∀ e ∈ es, e.BringsDistinct)
    {document document' result : Option Tree} (hdocument : (ofOption document).Distinct)
    (hdocument' : (ofOption document').Distinct) (halike : Alike document document')
    (h : applyAll es document = some result) :
    ∃ result', applyAll es document' = some result' ∧ Alike result result' := by
  induction es generalizing document document' with
  | nil =>
    cases h
    exact ⟨document', rfl, halike⟩
  | cons e es ih =>
    obtain ⟨he, hes⟩ := List.forall_mem_cons.mp hes
    have hgives : GivesDistinct e.act := fun _ _ => distinct_act he
    obtain ⟨middle, hmiddle, hrest⟩ := Option.bind_eq_some_iff.mp h
    obtain ⟨middle', hmiddle', halike'⟩ := alterAt_congr hgives (act_eq_of_isSome_eq e) hdocument
      hdocument' halike hmiddle
    obtain ⟨result', hresult', halike''⟩ := ih hes (distinct_alterAt hgives hmiddle hdocument)
      (distinct_alterAt hgives hmiddle' hdocument') halike' hrest
    exact ⟨result', Option.bind_eq_some_iff.mpr ⟨middle', hmiddle', hresult'⟩, halike''⟩

/-- Edits that are apart can be made in any order, and give the same document up to the order of
keys. -/
theorem applyAll_perm {es es' : List (Edit (List Text))} (hperm : es.Perm es')
    (hapart : es.Pairwise fun e f => Apart e.location f.location)
    (hes : ∀ e ∈ es, e.BringsDistinct) {document result : Option Tree}
    (hdocument : (ofOption document).Distinct) (h : applyAll es document = some result) :
    ∃ result', applyAll es' document = some result' ∧ Alike result result' := by
  induction hperm generalizing document result with
  | nil => exact ⟨result, h, .refl _⟩
  | cons e hperm ih =>
    obtain ⟨he, hes⟩ := List.forall_mem_cons.mp hes
    obtain ⟨middle, hmiddle, hrest⟩ := Option.bind_eq_some_iff.mp h
    have hgives : GivesDistinct e.act := fun _ _ => distinct_act he
    obtain ⟨result', hresult', halike⟩ := ih (List.pairwise_cons.mp hapart).2 hes
      (distinct_alterAt hgives hmiddle hdocument) hrest
    exact ⟨result', Option.bind_eq_some_iff.mpr ⟨middle, hmiddle, hresult'⟩, halike⟩
  | swap f e es =>
    obtain ⟨he, hes⟩ := List.forall_mem_cons.mp hes
    obtain ⟨hf, hes⟩ := List.forall_mem_cons.mp hes
    have hgives : GivesDistinct e.act := fun _ _ => distinct_act he
    have hgives' : GivesDistinct f.act := fun _ _ => distinct_act hf
    obtain ⟨first, hfirst, hrest⟩ := Option.bind_eq_some_iff.mp h
    obtain ⟨second, hsecond, hrest⟩ := Option.bind_eq_some_iff.mp hrest
    have hef := (List.pairwise_cons.mp hapart).1 f List.mem_cons_self
    obtain ⟨first', second', hfirst', hsecond', halike⟩ :=
      alterAt_comm hgives hgives' hef hdocument hfirst hsecond
    -- the edits that follow find the same document up to the order of keys
    obtain ⟨result', hresult', halike'⟩ := applyAll_congr hes
      (distinct_alterAt hgives' hsecond (distinct_alterAt hgives hfirst hdocument))
      (distinct_alterAt hgives hsecond' (distinct_alterAt hgives' hfirst' hdocument)) halike hrest
    refine ⟨result', Option.bind_eq_some_iff.mpr ⟨first', hfirst', ?_⟩, halike'⟩
    exact Option.bind_eq_some_iff.mpr ⟨second', hsecond', hresult'⟩
  | trans hperm hperm' ih ih' =>
    obtain ⟨middle, hmiddle, halike⟩ := ih hapart hes hdocument h
    have hapart' := (hperm.pairwise_iff fun h => Apart.symm h).mp hapart
    obtain ⟨result', hresult', halike'⟩ := ih' hapart' (fun e he => hes e (hperm.mem_iff.mpr he))
      hdocument hmiddle
    exact ⟨result', hresult', halike.trans halike'⟩

/-! ### Trees with their keys in another order -/

/-- The same edit with the keys of its value in order. -/
def sorted {ρ : Type} : Edit ρ → Edit ρ
  | .add location value => .add location value.sortKeys
  | .remove location => .remove location
  | .replace location value => .replace location value.sortKeys

theorem location_sorted {ρ : Type} (e : Edit ρ) : e.sorted.location = e.location := by
  cases e <;> rfl

theorem sorted_relocate {ρ σ : Type} (f : ρ → σ) (e : Edit ρ) :
    (e.relocate f).sorted = e.sorted.relocate f := by
  cases e <;> rfl

/-- Nodes that are the same up to the order of keys call for edits that are. -/
theorem CalledFor.of_alike {ρ : Type} {e : Edit ρ} {old? new? old'? new'? : Option Tree}
    (hold : Alike old? old'?) (hnew : Alike new? new'?)
    (hold₁ : ∀ t, old? = some t → t.Distinct) (hnew₁ : ∀ t, new? = some t → t.Distinct)
    (hold₂ : ∀ t, old'? = some t → t.Distinct) (hnew₂ : ∀ t, new'? = some t → t.Distinct)
    (h : e.CalledFor old? new?) :
    ∃ e' : Edit ρ, e'.CalledFor old'? new'? ∧ e'.sorted = e.sorted := by
  cases e with
  | add location value =>
    obtain ⟨rfl, h⟩ := h
    obtain ⟨value', rfl, hvalue⟩ := hnew.exists_some
    refine ⟨.add location value', ⟨rfl, ?_⟩, by rw [sorted, sorted, hvalue]⟩
    rcases h with rfl | ⟨rfl, hne⟩
    · exact .inl hold.eq_none
    · exact .inr ⟨hold.eq_null, mt (eq_null_iff_of_sortKeys_eq hvalue).mp hne⟩
  | remove location =>
    refine ⟨.remove location, ?_, rfl⟩
    rcases h with ⟨hsome, rfl⟩ | ⟨⟨before, rfl, hne⟩, rfl⟩
    · exact .inl ⟨hold.isSome_eq ▸ hsome, hnew.eq_none⟩
    · obtain ⟨before', rfl, hbefore⟩ := hold.exists_some
      exact .inr ⟨⟨before', rfl, mt (eq_null_iff_of_sortKeys_eq hbefore).mp hne⟩, hnew.eq_null⟩
  | replace location value =>
    obtain ⟨rfl, hvalue, before, rfl, hbefore, h⟩ := h
    obtain ⟨value', rfl, hsame⟩ := hnew.exists_some
    obtain ⟨before', rfl, hsame'⟩ := hold.exists_some
    have hequal : deepEqual before' value' = deepEqual before value :=
      deepEqual_eq_of_sortKeys_eq (hold₂ _ rfl) (hold₁ _ rfl) (hnew₂ _ rfl) (hnew₁ _ rfl) hsame'
        hsame
    refine ⟨.replace location value', ⟨rfl, ?_, before', rfl, ?_, ?_⟩, ?_⟩
    · exact mt (eq_null_iff_of_sortKeys_eq hsame).mp hvalue
    · exact mt (eq_null_iff_of_sortKeys_eq hsame').mp hbefore
    · rw [kind_eq_of_sortKeys_eq hsame', kind_eq_of_sortKeys_eq hsame, hequal]
      exact h
    · rw [sorted, sorted, hsame]

section

variable {old new old' new' : Tree}

theorem nodup_sorted_edits (hold : old.Distinct) (hnew : new.Distinct) :
    ((edits [] old new).map sorted).Nodup := by
  refine List.pairwise_map.mpr ((pairwise_apart_edits hold hnew).imp fun hapart heq => ?_)
  have hlocation := congrArg location heq
  rw [location_sorted, location_sorted] at hlocation
  exact hapart.ne hlocation

/-- What is edited between two trees is edited between trees that are the same up to the order of
keys. -/
theorem sorted_edits_subset (hold : old.Distinct) (hnew : new.Distinct) (hold' : old'.Distinct)
    (hnew' : new'.Distinct) (heq : old.sortKeys = old'.sortKeys)
    (heq' : new.sortKeys = new'.sortKeys) :
    (edits [] old new).map sorted ⊆ (edits [] old' new').map sorted := by
  intro _ hmem
  obtain ⟨e, he, rfl⟩ := List.mem_map.mp hmem
  obtain ⟨hshares, hcalled⟩ := (mem_edits_iff hold hnew e).mp he
  obtain ⟨e', hcalled', hsorted⟩ := CalledFor.of_alike (alike_at? hold hold' heq e.location)
    (alike_at? hnew hnew' heq' e.location) (fun _ => distinct_of_at? hold)
    (fun _ => distinct_of_at? hnew) (fun _ => distinct_of_at? hold')
    (fun _ => distinct_of_at? hnew') hcalled
  have hlocation : e'.location = e.location := by
    rw [← location_sorted, hsorted, location_sorted]
  refine List.mem_map.mpr ⟨e', (mem_edits_iff hold' hnew' e').mpr ?_, hsorted⟩
  rw [hlocation, ← shares_sortKeys hold' hnew', ← heq, ← heq', shares_sortKeys hold hnew]
  exact ⟨hshares, hcalled'⟩

/-- The edits between trees that are the same up to the order of keys are the same in another order,
up to the order of keys. -/
theorem perm_sorted_edits (hold : old.Distinct) (hnew : new.Distinct) (hold' : old'.Distinct)
    (hnew' : new'.Distinct) (heq : old.sortKeys = old'.sortKeys)
    (heq' : new.sortKeys = new'.sortKeys) :
    ((edits [] old new).map sorted).Perm ((edits [] old' new').map sorted) :=
  (List.perm_ext_iff_of_nodup (nodup_sorted_edits hold hnew) (nodup_sorted_edits hold' hnew')).mpr
    fun _ => ⟨fun h => sorted_edits_subset hold hnew hold' hnew' heq heq' h,
      fun h => sorted_edits_subset hold' hnew' hold hnew heq.symm heq'.symm h⟩

end

end Edit

namespace Patch

open AdmissionLedger.Tree Location

/-- What a patch between two prepared trees is, location by location. -/
structure ByLocation (old new : Tree) (patch : Patch) : Prop where
  /-- Every edit is at a location that the trees share. -/
  shared : ∀ e ∈ patch, ∃ location, Shares old new location ∧ e.location = Pointer.ofKeys location
  /-- At such a location those edits are made that are called for there. -/
  called : ∀ e : Edit (List Text), Shares old new e.location →
    (e.relocate Pointer.ofKeys ∈ patch ↔
      e.CalledFor (old.at? e.location) (new.at? e.location))
  /-- Neither of two edits is at the location of the other or above it. -/
  apart : patch.Pairwise fun e f => e.location ≠ f.location ∧ ∃ left right,
    e.location = Pointer.ofKeys left ∧ f.location = Pointer.ofKeys right ∧ Apart left right
  /-- The edits fit the old tree in every order, and give the same document up to the order of
  keys. -/
  applied : ∃ result, patch.apply old.document = some result ∧ ∀ order : Patch, patch.Perm order →
    ∃ result', order.apply old.document = some result' ∧ Alike result result'

/-- Edits that are located by pointers along keys, in another order. -/
theorem exists_perm_of_perm_map {es : List (Edit (List Text))} {order : Patch}
    (h : (es.map (Edit.relocate Pointer.ofKeys)).Perm order) :
    ∃ es', es.Perm es' ∧ order = es'.map (Edit.relocate Pointer.ofKeys) := by
  have hsame : List.Forall₂ (fun e e' => e = Edit.relocate Pointer.ofKeys e')
      (es.map (Edit.relocate Pointer.ofKeys)) es :=
    List.forall₂_map_left_iff.mpr (List.forall₂_same.mpr fun _ _ => rfl)
  obtain ⟨es', hes', hperm⟩ := List.perm_comp_forall₂ h.symm hsame
  refine ⟨es', hperm.symm, ?_⟩
  rw [← List.forall₂_eq_eq_eq, List.forall₂_map_right_iff]
  exact hes'

/-- What is edited between two prepared trees is so by location. -/
theorem byLocation_edits {old new : Tree} (hold : old.Distinct) (hnew : new.Distinct) :
    ByLocation old new ((edits [] old new).map (Edit.relocate Pointer.ofKeys)) where
  shared := by
    intro _ hmem
    obtain ⟨e, he, rfl⟩ := List.mem_map.mp hmem
    exact ⟨e.location, ((mem_edits_iff hold hnew e).mp he).1, Edit.location_relocate _ e⟩
  called := by
    intro e hshares
    rw [List.mem_map_of_injective (Edit.relocate_injective Pointer.ofKeys_injective),
      mem_edits_iff hold hnew]
    exact and_iff_right hshares
  apart := by
    refine List.pairwise_map.mpr ((pairwise_apart_edits hold hnew).imp ?_)
    intro e f hapart
    rw [Edit.location_relocate, Edit.location_relocate]
    exact ⟨fun h => hapart.ne (Pointer.ofKeys_injective h), _, _, rfl, rfl, hapart⟩
  applied := by
    have hdocument : (ofOption old.document).Distinct := by
      rw [ofOption_document]
      exact hold
    obtain ⟨result, hresult, -⟩ := rebuilds_of_distinct hold hnew old.document
      (ofOption_document old)
    refine ⟨result, by rw [apply_map_ofKeys]; exact hresult, fun order hperm => ?_⟩
    obtain ⟨es, hes, rfl⟩ := exists_perm_of_perm_map hperm
    rw [apply_map_ofKeys]
    exact Edit.applyAll_perm hes (pairwise_apart_edits hold hnew) (bringsDistinct_edits hnew old)
      hdocument hresult

/-- Two patches hold the same edits in some order, up to the order of keys in their values. -/
def SameEdits (patch patch' : Patch) : Prop :=
  (patch.map Edit.sorted).Perm (patch'.map Edit.sorted)

/-- Trees that are the same up to the order of keys have the same edits between them. -/
theorem exists_between_sameEdits {kind : Text} {old new old' new' : Tree} {patch : Patch}
    (hold : old.Distinct) (hnew : new.Distinct) (hold' : old'.Distinct) (hnew' : new'.Distinct)
    (heq : old.sortKeys = old'.sortKeys) (heq' : new.sortKeys = new'.sortKeys)
    (h : between kind old new = .ok patch) :
    ∃ patch', between kind old' new' = .ok patch' ∧ SameEdits patch patch' := by
  obtain ⟨prepared, hprepared, h⟩ := Except.bind_eq_ok_iff.mp h
  obtain ⟨prepared', hprepared', h⟩ := Except.bind_eq_ok_iff.mp h
  cases h
  obtain ⟨other, hother, hsame⟩ := returnsAlike_prepare kind hold hold' heq prepared hprepared
  obtain ⟨other', hother', hsame'⟩ :=
    returnsAlike_prepare kind hnew hnew' heq' prepared' hprepared'
  refine ⟨_, between_eq hother hother', ?_⟩
  have hperm := Edit.perm_sorted_edits (distinct_prepare hold hprepared)
    (distinct_prepare hnew hprepared') (distinct_prepare hold' hother)
    (distinct_prepare hnew' hother') hsame hsame'
  have hcomm : Edit.sorted ∘ Edit.relocate Pointer.ofKeys
      = Edit.relocate Pointer.ofKeys ∘ Edit.sorted :=
    funext (Edit.sorted_relocate _)
  rw [SameEdits, List.map_map, List.map_map, hcomm, ← List.map_map, ← List.map_map]
  exact hperm.map _

/-- The patch between two trees that can be prepared is determined location by location, whatever
the order of keys, and its edits can be made in any order. -/
theorem between_byLocation {kind : Text} {old new old' new' : Tree} (hold : old.Distinct)
    (hnew : new.Distinct) (hold' : prepare kind old = .ok old')
    (hnew' : prepare kind new = .ok new') :
    ∃ patch, between kind old new = .ok patch ∧ ByLocation old' new' patch ∧
      ∀ other other' : Tree, other.Distinct → other'.Distinct →
        old.sortKeys = other.sortKeys → new.sortKeys = other'.sortKeys →
        ∃ patch', between kind other other' = .ok patch' ∧ SameEdits patch patch' := by
  have hpatch := between_eq hold' hnew'
  refine ⟨_, hpatch,
    byLocation_edits (distinct_prepare hold hold') (distinct_prepare hnew hnew'), ?_⟩
  intro other other' hother hother' heq heq'
  exact exists_between_sameEdits hold hnew hother hother' heq heq' hpatch

/-- A value that changes its kind, a `null` that is lost and one that is gained, under keys of which
two have to be escaped. -/
theorem between_byLocation_exampleNew :
    let old := Tree.record [("a/b", .int 1), ("c~d", .null)]
    let new := Tree.record [("a/b", .array [.int 1]), ("e", .null)]
    ∃ patch, between "ConfigMap" exampleOld exampleNew = .ok patch ∧
      patch.map Edit.location = ["/a~1b", "/c~0d", "/e"] ∧
      ByLocation old new patch := by
  intro old new
  have hold : prepare "ConfigMap" exampleOld = .ok old := rfl
  have hnew : prepare "ConfigMap" exampleNew = .ok new := rfl
  obtain ⟨patch, hpatch, hby, -⟩ :=
    between_byLocation distinct_exampleOld distinct_exampleNew hold hnew
  refine ⟨patch, hpatch, ?_, hby⟩
  obtain rfl : _ = patch := Except.ok.inj hpatch
  decide

end Patch

end AdmissionLedger
