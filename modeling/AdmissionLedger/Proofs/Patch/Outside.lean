import AdmissionLedger.Proofs.Patch.Location
import AdmissionLedger.Proofs.Tree.Concealment
import AdmissionLedger.Proofs.Tree.Payload

/-!
# What redaction leaves of a patch

Redaction changes nothing but the values of sensitive keys.  It keeps the kind of every
node outside of them, the keys of every map and their order, so that two trees differ at
the same locations before and after it.  What a patch says without passing a sensitive key
is therefore what it says of the plain trees, with the values that it brings redacted.

## Main definitions

* `Edit.mapValue`, `Edit.redact` — an edit with the value changed that it brings.
* `Location.isOutside`, `Edit.isOutside` — no key on the way to an edit is sensitive.

## Main results

* `Tree.outsideOnly_edits_changePayloads` — a change of payloads commutes with the edits outside.
* `Patch.between_outside` — redaction commutes with the patch outside of sensitive keys.
-/

namespace AdmissionLedger

/-! ### Edits and the values they bring -/

namespace Edit

variable {ρ σ : Type}

/-- The edit with a function applied to the value that it brings. -/
def mapValue (f : Tree → Tree) : Edit ρ → Edit ρ
  | .add l v => .add l (f v)
  | .remove l => .remove l
  | .replace l v => .replace l (f v)

/-- The edit with the value redacted that it brings. -/
def redact : Edit ρ → Except EncodeError (Edit ρ)
  | .add l v => (Tree.redact v).map (.add l)
  | .remove l => .ok (.remove l)
  | .replace l v => (Tree.redact v).map (.replace l)

theorem mapValue_relocate (f : Tree → Tree) (g : ρ → σ) (e : Edit ρ) :
    (e.relocate g).mapValue f = (e.mapValue f).relocate g := by
  cases e <;> rfl

theorem redact_relocate (g : ρ → σ) (e : Edit ρ) :
    (e.relocate g).redact = e.redact.map (relocate g) := by
  cases e with
  | remove l => rfl
  | add l v =>
    rw [relocate, redact, redact]
    cases Tree.redact v <;> rfl
  | replace l v =>
    rw [relocate, redact, redact]
    cases Tree.redact v <;> rfl

end Edit

/-- No key of a location is that of a payload. -/
def Location.isOutside (keys : List Text) : Bool :=
  keys.all fun key => key ≠ "data" ∧ key ≠ "stringData"

/-- No token in the path of an edit is the key of a payload. -/
def Edit.isOutside (e : Edit Text) : Bool :=
  (Pointer.decode e.location).all Location.isOutside

namespace Tree

open Edit

theorem isOutside_cons (key : Text) (keys : List Text) : Location.isOutside (key :: keys) =
    (!sensitiveKeys.contains key && Location.isOutside keys) := by
  have hkey : (!sensitiveKeys.contains key) = decide (key ≠ "data" ∧ key ≠ "stringData") := by
    simp [sensitiveKeys]
  rw [hkey]
  rfl

/-- The edits at locations outside of sensitive keys. -/
def outsideOnly (es : List (Edit (List Text))) : List (Edit (List Text)) :=
  es.filter fun e => Location.isOutside e.location

theorem outsideOnly_map_under (key : Text) (es : List (Edit (List Text))) :
    outsideOnly (es.map (under key)) =
      if sensitiveKeys.contains key then [] else (outsideOnly es).map (under key) := by
  have hunder (e : Edit (List Text)) : Location.isOutside (e.under key).location =
      (!sensitiveKeys.contains key && Location.isOutside e.location) := by
    rw [location_under, isOutside_cons]
  rw [outsideOnly, List.filter_map]
  simp only [Function.comp_def, hunder]
  cases sensitiveKeys.contains key
  · rfl
  · simp

section

variable (g : Tree → Tree)

/-- What is so of the edits between two values is so under the key of two maps that have both. -/
theorem outsideOnly_valueEdits (key : Text) (before? after? : Option Tree)
    (ih : ∀ before after, before? = some before → after? = some after →
      outsideOnly (edits [] (changePayloads g before) (changePayloads g after)) =
        (outsideOnly (edits [] before after)).map (mapValue (changePayloads g))) :
    outsideOnly ((valueEdits (before?.map (changeUnder g key)) (after?.map (changeUnder g key))).map
        (under key)) =
      (outsideOnly ((valueEdits before? after?).map (under key))).map
        (mapValue (changePayloads g)) := by
  rw [outsideOnly_map_under, outsideOnly_map_under]
  split
  · -- below a sensitive key there is nothing outside
    rfl
  · next hkey =>
    have hplain : changeUnder g key = changePayloads g := funext fun value => if_neg hkey
    have hcomm : mapValue (changePayloads g) ∘ under key =
        under key ∘ mapValue (changePayloads g) := funext fun e => mapValue_relocate _ _ e
    rw [hplain, List.map_map, hcomm, ← List.map_map]
    refine congrArg (List.map (under key)) ?_
    cases before? with
    | none => cases after? <;> rfl
    | some before =>
      cases after? with
      | none => rfl
      | some after =>
        simp only [Option.map_some, valueEdits, changesUnder_some]
        exact ih before after rfl rfl

theorem outsideOnly_edits_object {old new : List (Text × Tree)}
    (ih : ∀ e ∈ old, ∀ after,
      outsideOnly (edits [] (changePayloads g e.2) (changePayloads g after)) =
        (outsideOnly (edits [] e.2 after)).map (mapValue (changePayloads g))) :
    outsideOnly (edits [] (changePayloads g (.object old)) (changePayloads g (.object new))) =
      (outsideOnly (edits [] (.object old) (.object new))).map (mapValue (changePayloads g)) := by
  have hadditions (old new : List (Text × Tree)) : additions [] old new =
      (new.filter fun e => (old.lookup e.1).isNone).flatMap fun e =>
        (valueEdits none (some e.2)).map (under e.1) := List.map_eq_flatMap
  rw [changePayloads, changePayloads, changeEntries_eq_map, changeEntries_eq_map, edits, edits,
    entryEdits_eq_flatMap, entryEdits_eq_flatMap, hadditions, hadditions, outsideOnly, outsideOnly,
    List.filter_append, List.filter_append, List.map_append]
  congr 1
  -- first the edits below the keys of the old map, then the additions
  · rw [List.flatMap_map, List.filter_flatMap, List.filter_flatMap, List.map_flatMap]
    refine List.flatMap_congr fun e he => ?_
    rw [lookup_map]
    exact outsideOnly_valueEdits g e.1 (some e.2) (new.lookup e.1) fun before after hbefore _ =>
      Option.some.inj hbefore ▸ ih e he after
  · rw [List.filter_map, List.flatMap_map, List.filter_flatMap, List.filter_flatMap,
      List.map_flatMap]
    simp only [Function.comp_def, lookup_map, Option.isNone_map]
    refine List.flatMap_congr fun e _ => ?_
    exact outsideOnly_valueEdits g e.1 none (some e.2) fun before _ hbefore =>
      absurd hbefore.symm (Option.some_ne_none before)

theorem outsideOnly_nodeEdit {old new : Tree} (hmaps : ¬ (old.kind = .map ∧ new.kind = .map)) :
    outsideOnly (nodeEdit [] (changePayloads g old) (changePayloads g new)) =
      (outsideOnly (nodeEdit [] old new)).map (mapValue (changePayloads g)) := by
  unfold nodeEdit
  rw [kind_changePayloads, kind_changePayloads]
  split
  · rfl
  · rfl
  · rfl
  · split
    · rfl
    · next hkinds =>
      -- two nodes of one kind are no maps here, and nothing is changed in them
      have hkinds : old.kind = new.kind := not_not.mp hkinds
      have hold : old.kind ≠ .map := fun h => hmaps ⟨h, hkinds ▸ h⟩
      have hnew : new.kind ≠ .map := hkinds ▸ hold
      rw [changePayloads_of_kind_ne g hold, changePayloads_of_kind_ne g hnew]
      split
      · rfl
      · exact congrArg (fun value => [Edit.replace [] value])
          (changePayloads_of_kind_ne g hnew).symm

/-- A change of payloads makes no difference to the edits outside of sensitive keys but for the
values that they bring. -/
theorem outsideOnly_edits_changePayloads (old new : Tree) :
    outsideOnly (edits [] (changePayloads g old) (changePayloads g new)) =
      (outsideOnly (edits [] old new)).map (mapValue (changePayloads g)) := by
  have hnodes {old new : Tree} (hmaps : ¬ (old.kind = .map ∧ new.kind = .map)) :
      outsideOnly (edits [] (changePayloads g old) (changePayloads g new)) =
        (outsideOnly (edits [] old new)).map (mapValue (changePayloads g)) := by
    rw [edits_nodes hmaps, edits_nodes (by rwa [kind_changePayloads, kind_changePayloads])]
    exact outsideOnly_nodeEdit g hmaps
  induction old using nested_induction generalizing new with
  | object old ih =>
    cases new with
    | object new => exact outsideOnly_edits_object g ih
    | _ => exact hnodes fun h => nomatch h.2
  | _ => exact hnodes fun h => nomatch h.1

end

/-! ### Values outside of sensitive keys -/

/-- What is reached without a sensitive key can be redacted if the whole tree can. -/
theorem exists_redact_of_located {t value : Tree} {keys : List Text}
    (hloc : Located value (keySteps keys) t) (houtside : Location.isOutside keys = true)
    (ht : ∃ r, redact t = .ok r) : ∃ r, redact value = .ok r := by
  induction keys generalizing t with
  | nil =>
    cases hloc
    exact ht
  | cons key keys ih =>
    cases hloc with
    | under hmem hinner =>
      -- the key is not sensitive, so that redaction goes on below it
      rw [isOutside_cons, Bool.and_eq_true, Bool.not_eq_true'] at houtside
      rw [redact, Except.exists_map_iff, redactEntries_eq_mapValues, exists_mapValues_iff] at ht
      have hunder := ht _ hmem
      rw [redactUnder, if_neg (Bool.eq_false_iff.mp houtside.1)] at hunder
      exact ih hinner houtside.2 hunder

/-- The values that edits outside of sensitive keys bring can be redacted if the new tree can. -/
theorem redact_of_mem_outsideOnly {old new : Tree} (hnew : ∃ r, redact new = .ok r)
    {e : Edit (List Text)} (he : e ∈ outsideOnly (edits [] old new)) :
    e.redact = .ok (e.mapValue (changePayloads digestText)) := by
  obtain ⟨he, houtside⟩ := List.mem_filter.mp he
  have hvalue : ∀ value, e.value? = some value →
      redact value = .ok (changePayloads digestText value) := by
    intro value hvalue
    obtain ⟨keys, hlocation, hloc⟩ := bringsFrom_edits [] old new e he value hvalue
    rw [List.nil_append] at hlocation
    obtain ⟨redacted, hredacted⟩ := exists_redact_of_located hloc (hlocation ▸ houtside) hnew
    exact eq_changePayloads_of_redact hredacted ▸ hredacted
  cases e with
  | remove location => rfl
  | add location value => rw [Edit.redact, hvalue value rfl]; rfl
  | replace location value => rw [Edit.redact, hvalue value rfl]; rfl

end Tree

namespace Patch

open AdmissionLedger.Tree

theorem isOutside_relocate_ofKeys (e : Edit (List Text)) :
    (e.relocate Pointer.ofKeys).isOutside = Location.isOutside e.location := by
  rw [Edit.isOutside, Edit.location_relocate, Pointer.decode_ofKeys]
  rfl

/-- The edits of a patch outside of sensitive keys are the relocated ones outside of them. -/
theorem filter_isOutside_relocate (es : List (Edit (List Text))) :
    (es.map (Edit.relocate Pointer.ofKeys)).filter Edit.isOutside =
      (outsideOnly es).map (Edit.relocate Pointer.ofKeys) := by
  rw [List.filter_map, outsideOnly]
  exact congrArg (List.map _) (List.filter_congr fun e _ => isOutside_relocate_ofKeys e)

/-- Redaction commutes with the patch outside of sensitive keys: the edits of a Secret there are,
one by one, those of the same trees under another kind, with the values redacted that they
bring. -/
theorem between_outside {kind : Text} {old new : Tree} (hkind : kind ≠ "Secret")
    (hold : ∃ t, prepare "Secret" old = .ok t) (hnew : ∃ t, prepare "Secret" new = .ok t) :
    ∃ redacted plain, between "Secret" old new = .ok redacted ∧
      between kind old new = .ok plain ∧
      (plain.filter Edit.isOutside).mapM Edit.redact = .ok (redacted.filter Edit.isOutside) := by
  obtain ⟨old', hold⟩ := hold
  obtain ⟨new', hnew⟩ := hnew
  have hprepare (t : Tree) : prepare kind t = .ok (t.withoutNoise []) := if_neg hkind
  have hredact : redact (old.withoutNoise []) = .ok old' := hold
  have hredact' : redact (new.withoutNoise []) = .ok new' := hnew
  refine ⟨_, _, between_eq hold hnew, between_eq (hprepare old) (hprepare new), ?_⟩
  rw [filter_isOutside_relocate, filter_isOutside_relocate, eq_changePayloads_of_redact hredact,
    eq_changePayloads_of_redact hredact', outsideOnly_edits_changePayloads, List.map_map]
  have hcomm : Edit.relocate Pointer.ofKeys ∘ Edit.mapValue (changePayloads digestText) =
      Edit.mapValue (changePayloads digestText) ∘ Edit.relocate Pointer.ofKeys :=
    funext fun e => (Edit.mapValue_relocate _ _ e).symm
  rw [hcomm, ← List.map_map]
  refine Except.mapM_eq_ok (List.forall_mem_map.mpr fun e he => ?_)
  rw [Edit.redact_relocate, redact_of_mem_outsideOnly ⟨new', hredact'⟩ he, Edit.mapValue_relocate]
  rfl

/-- A new map comes with a sensitive key of its own, and the payload of the Secret changes. -/
theorem between_outside_pod :
    let old := record [("data", record [("user", .str "a")])]
    let new := record [("data", record [("user", .str "b")]),
      ("spec", record [("data", .str "c"), ("size", .int 1)])]
    ∃ redacted plain, between "Secret" old new = .ok redacted ∧
      between "Pod" old new = .ok plain ∧
      (plain.filter Edit.isOutside).mapM Edit.redact = .ok (redacted.filter Edit.isOutside) :=
  between_outside (by decide) ⟨_, rfl⟩ ⟨_, rfl⟩

end Patch

end AdmissionLedger
