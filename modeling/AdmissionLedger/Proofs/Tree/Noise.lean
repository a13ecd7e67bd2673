import AdmissionLedger.Proofs.Text.Numeral
import AdmissionLedger.Proofs.Tree.Concealment
import AdmissionLedger.Proofs.Tree.Pointer

/-!
# What noise exclusion takes away

Whether a field is noise is asked of its pointer, by comparing texts.  Since pointers are
read back to the keys that they were made of, the question is one about keys: a field is
noise exactly if it is at one of six locations, or below one, and is reached through maps.
All else is kept, and stands where it stood.

## Main definitions

* `Place`, `places` — the places of a tree in order, each with its route and what stands there.
* `noiseLocations`, `InNoise` — the six locations, and the routes that lead to one or below.

## Main results

* `places_injective` — a tree is known by its places.
* `isNoise_pointer_concat_iff` — what is noise among the parts of a node that is not.
* `places_withoutNoise` — the places that noise exclusion leaves.
* `eq_withoutNoise_iff_places` — so the result is known, and a second exclusion changes nothing.
-/

namespace AdmissionLedger.Tree

deriving instance DecidableEq for Step

/-! ### The places of a tree -/

/-- A place in a tree. -/
structure Place where
  /-- The steps to the place from the root. -/
  route : List Step
  /-- The scalar that stands there, or the container without its parts. -/
  node : Tree

/-- A place in a part of a tree as a place in the tree. -/
def Place.below (step : Step) (p : Place) : Place :=
  { p with route := step :: p.route }

mutual

/-- The places of a tree in order, a container before its parts. -/
def places : Tree → List Place
  | .object entries => ⟨[], .object []⟩ :: entryPlaces entries
  | .array items => ⟨[], .array []⟩ :: itemPlaces 0 items
  | t => [⟨[], t⟩]

/-- The places in the values of some entries. -/
def entryPlaces : List (Text × Tree) → List Place
  | [] => []
  | (key, value) :: rest => (places value).map (.below (.key key)) ++ entryPlaces rest

/-- The places in some items, the first one at `index`. -/
def itemPlaces (index : Nat) : List Tree → List Place
  | [] => []
  | item :: rest => (places item).map (.below (.item index)) ++ itemPlaces (index + 1) rest

end

/-! ### Parts -/

/-- A node without its parts. -/
def bare : Tree → Tree
  | .object _ => .object []
  | .array _ => .array []
  | t => t

/-- The parts of a node, each with the step to it. -/
def parts : Tree → List (Step × Tree)
  | .object entries => entries.map fun e => (.key e.1, e.2)
  | .array items => items.zipIdx.map fun (item, index) => (.item index, item)
  | _ => []

/-- The places in some parts. -/
def partPlaces (ps : List (Step × Tree)) : List Place :=
  ps.flatMap fun part => (places part.2).map (.below part.1)

theorem places_eq (t : Tree) : places t = ⟨[], t.bare⟩ :: partPlaces t.parts := by
  cases t with
  | object entries =>
    have hentries : entryPlaces entries = partPlaces (object entries).parts := by
      induction entries with
      | nil => rfl
      | cons e rest ih => rw [entryPlaces, ih]; rfl
    rw [places, hentries]
    rfl
  | array items =>
    have hitems (index : Nat) : itemPlaces index items = partPlaces
        ((items.zipIdx index).map fun (item, index) => (.item index, item)) := by
      induction items generalizing index with
      | nil => rfl
      | cons item rest ih => rw [itemPlaces, ih]; rfl
    rw [places, hitems]
    rfl
  | _ => rfl

/-- A node is what it is without its parts, and the parts. -/
theorem eq_of_bare_of_parts {t t' : Tree} (hbare : t.bare = t'.bare) (hparts : t.parts = t'.parts) :
    t = t' := by
  cases t <;> cases t' <;> try first | exact hbare | cases hbare
  · next items items' =>
    have hitems := congrArg (List.map Prod.snd) hparts
    simpa [parts, List.map_map, Function.comp_def] using hitems
  · next entries entries' =>
    refine congrArg object ((List.map_inj_right fun e e' h => ?_).mp hparts)
    rw [Prod.mk.injEq, Step.key.injEq] at h
    exact Prod.ext h.1 h.2

/-- A tree has a property if every node has it whose parts have it. -/
theorem parts_induction {motive : Tree → Prop}
    (node : ∀ t, (∀ part ∈ t.parts, motive part.2) → motive t) (t : Tree) : motive t := by
  induction t using nested_induction with
  | object entries ih =>
    refine node _ fun part hpart => ?_
    obtain ⟨e, he, rfl⟩ := List.mem_map.mp hpart
    exact ih e he
  | array items ih =>
    refine node _ fun part hpart => ?_
    obtain ⟨⟨item, index⟩, hitem, rfl⟩ := List.mem_map.mp hpart
    exact ih item (List.fst_mem_of_mem_zipIdx hitem)
  | _ => exact node _ (List.forall_mem_nil _)

/-! ### Trees known by their places -/

theorem Place.below_injective (step : Step) : Function.Injective (Place.below step) := by
  intro p q h
  cases p
  cases q
  simpa [below] using h

/-- The places of some parts: the first part, what is inside of it, and the places of the others. -/
theorem partPlaces_cons (step : Step) (t : Tree) (rest : List (Step × Tree)) :
    partPlaces ((step, t) :: rest) =
      ⟨[step], t.bare⟩ :: ((partPlaces t.parts).map (.below step) ++ partPlaces rest) := by
  rw [partPlaces, List.flatMap_cons, places_eq]
  rfl

/-- What is inside of a part ends where the next part begins. -/
theorem takeWhile_inner (step : Step) (inner rest : List (Step × Tree)) :
    ((partPlaces inner).map (Place.below step) ++ partPlaces rest).takeWhile
        (fun p => p.route.length ≠ 1) =
      (partPlaces inner).map (Place.below step) := by
  rw [List.takeWhile_append_of_pos]
  · cases rest with
    | nil => simp [partPlaces]
    | cons part rest => simp [partPlaces_cons part.1 part.2]
  · simp only [partPlaces, List.mem_map, List.mem_flatMap]
    rintro _ ⟨_, ⟨part, -, place, -, rfl⟩, rfl⟩
    simp [Place.below]

/-- The places of some parts tell the parts, if those of each part do. -/
theorem eq_of_partPlaces_eq {ps ps' : List (Step × Tree)}
    (hparts : ∀ part ∈ ps, ∀ t, places part.2 = places t → part.2 = t)
    (h : partPlaces ps = partPlaces ps') : ps = ps' := by
  induction ps generalizing ps' with
  | nil =>
    cases ps' with
    | nil => rfl
    | cons part' rest' => cases h.trans (partPlaces_cons part'.1 part'.2 rest')
  | cons part rest ih =>
    cases ps' with
    | nil => cases h.symm.trans (partPlaces_cons part.1 part.2 rest)
    | cons part' rest' =>
      obtain ⟨step, t⟩ := part
      obtain ⟨step', t'⟩ := part'
      obtain ⟨ht, hrest⟩ := List.forall_mem_cons.mp hparts
      -- the first part is known by its own place, and by the places up to the next part
      rw [partPlaces_cons, partPlaces_cons, List.cons.injEq] at h
      obtain ⟨hfirst, hplaces⟩ := h
      obtain ⟨rfl, hbare⟩ : step = step' ∧ t.bare = t'.bare := by simpa using hfirst
      have hinner := congrArg (List.takeWhile fun p : Place => p.route.length ≠ 1) hplaces
      rw [takeWhile_inner, takeWhile_inner] at hinner
      rw [hinner] at hplaces
      have hvalue : places t = places t' := by
        rw [places_eq, places_eq, hbare,
          (List.map_inj_right fun _ _ h => Place.below_injective step h).mp hinner]
      obtain rfl : t = t' := ht t' hvalue
      rw [ih hrest (List.append_cancel_left hplaces)]

/-- A tree is known by its places. -/
theorem places_injective : Function.Injective places := by
  intro t
  induction t using parts_induction with
  | node t ih =>
    intro t' h
    rw [places_eq, places_eq, List.cons.injEq, Place.mk.injEq] at h
    exact eq_of_bare_of_parts h.1.2 (eq_of_partPlaces_eq (fun part hpart t => @ih part hpart t) h.2)

/-! ### Noise by location -/

/-- The key of a step, as pointers have it. -/
def Step.token : Step → Text
  | .key name => name
  | .item index => Text.decimal index

/-- The pointer along a route. -/
def pointer (route : List Step) : Text :=
  Pointer.ofKeys (route.map Step.token)

/-- The locations of the excluded fields. -/
def noiseLocations : List (List Text) :=
  [["metadata", "managedFields"], ["metadata", "resourceVersion"], ["metadata", "generation"],
    ["metadata", "creationTimestamp"], ["status"],
    ["metadata", "annotations", "kubectl.kubernetes.io/last-applied-configuration"]]

/-- A route leads to an excluded field or below one, through maps up to there. -/
def InNoise (route : List Step) : Prop :=
  ∃ location ∈ noiseLocations, keySteps location <+: route

instance (route : List Step) : Decidable (InNoise route) :=
  inferInstanceAs (Decidable (∃ location ∈ noiseLocations, keySteps location <+: route))

/-- The excluded fields of which the pointers below are compared too. -/
def noiseMaps : List (List Text) :=
  [["status"], ["metadata", "managedFields"]]

theorem noisePaths_eq : noisePaths = noiseLocations.map Pointer.ofKeys := by decide +kernel

theorem noiseRoots_eq :
    noiseRoots = noiseMaps.map fun location => Pointer.ofKeys location ++ [Pointer.slash] := by
  decide

/-- A pointer is noise if it leads to an excluded field, or on below one that is a map. -/
theorem isNoise_ofKeys_iff {keys : List Text} (hkeys : keys ≠ []) :
    isNoise (Pointer.ofKeys keys) = true ↔ keys ∈ noiseLocations ∨
      ∃ location ∈ noiseMaps, ∃ key more, keys = location ++ key :: more := by
  have hslash : (Pointer.ofKeys keys).startsWith "/" = true := by
    obtain ⟨key, more, rfl⟩ := List.exists_cons_of_ne_nil hkeys
    rw [Pointer.ofKeys_cons]
    rfl
  rw [isNoise, if_pos hslash, Bool.or_eq_true, List.contains_iff_mem, noisePaths_eq,
    List.mem_map_of_injective Pointer.ofKeys_injective, noiseRoots_eq, List.any_map,
    List.any_eq_true]
  simp only [Function.comp_apply, Text.startsWith, List.isPrefixOf_iff_prefix,
    Pointer.slash_prefix_ofKeys_iff]

/-- No key on the way to an excluded field is the index of an item. -/
theorem token_eq_iff {step : Step} {key : Text}
    (hkey : ∃ location ∈ noiseLocations, key ∈ location) : step.token = key ↔ step = .key key := by
  cases step with
  | key name => simp [Step.token]
  | item index =>
    refine iff_of_false (fun h => ?_) nofun
    have hdigits : ∀ c ∈ key, c.isDigit = true := by
      intro c hc
      rw [← h] at hc
      exact Text.isDigit_of_mem_decimal hc
    have hnone : ∀ location ∈ noiseLocations, ∀ key ∈ location,
        ¬ ∀ c ∈ key, c.isDigit = true := by decide
    obtain ⟨location, hlocation, hmem⟩ := hkey
    exact hnone location hlocation key hmem hdigits

/-- A route is in noise exactly if its keys begin with those of an excluded field. -/
theorem inNoise_iff (route : List Step) :
    InNoise route ↔ ∃ location ∈ noiseLocations, location <+: route.map Step.token := by
  refine exists_congr fun location => and_congr_right fun hlocation => ?_
  have htoken : ∀ key ∈ location, ∀ step : Step, step.token = key ↔ step = .key key :=
    fun key hkey _ => token_eq_iff ⟨location, hlocation, hkey⟩
  clear hlocation
  induction location generalizing route with
  | nil => simp [keySteps]
  | cons key location ih =>
    rw [List.forall_mem_cons] at htoken
    cases route with
    | nil => simp [keySteps]
    | cons step route =>
      rw [keySteps, List.map_cons, List.map_cons, List.cons_prefix_cons, List.cons_prefix_cons,
        eq_comm, eq_comm (a := key), htoken.1]
      exact and_congr_right fun _ => ih route htoken.2

/-- Of the parts of a node that is not in noise, those are noise to which an excluded location
leads. -/
theorem isNoise_pointer_concat_iff {above : List Step} (habove : ¬ InNoise above) (step : Step) :
    isNoise (pointer (above ++ [step])) = true ↔ InNoise (above ++ [step]) := by
  have hmaps : ∀ location ∈ noiseMaps, location ∈ noiseLocations := by decide
  rw [inNoise_iff] at habove ⊢
  rw [pointer, isNoise_ofKeys_iff (by simp), List.map_append, List.map_singleton]
  -- if a location ended further up, the node above would be in noise
  constructor
  · rintro (hlocation | ⟨location, hmap, key, more, hkeys⟩)
    · exact ⟨_, hlocation, List.prefix_rfl⟩
    · exact ⟨location, hmaps location hmap, hkeys ▸ List.prefix_append _ _⟩
  · rintro ⟨location, hlocation, hprefix⟩
    rcases List.prefix_concat_iff.mp hprefix with rfl | hprefix
    · exact .inl hlocation
    · exact absurd ⟨location, hlocation, hprefix⟩ habove

/-- What is in noise with the step to an item is so without it. -/
theorem not_inNoise_concat_item {above : List Step} (habove : ¬ InNoise above) (index : Nat) :
    ¬ InNoise (above ++ [.item index]) := by
  rintro ⟨location, hlocation, hprefix⟩
  rcases List.prefix_concat_iff.mp hprefix with heq | hprefix
  · have hmem : Step.item index ∈ keySteps location := heq ▸ List.mem_append_right _ (by simp)
    exact throughMaps_keySteps location index hmem
  · exact habove ⟨location, hlocation, hprefix⟩

/-! ### What is left -/

theorem pointer_concat (above : List Step) (step : Step) :
    pointer (above ++ [step]) = Pointer.child (pointer above) step.token := by
  rw [pointer, List.map_append, List.map_singleton, Pointer.ofKeys_concat]
  rfl

theorem bare_withoutNoise (path : Text) (t : Tree) : (t.withoutNoise path).bare = t.bare := by
  cases t <;> rfl

theorem entriesWithoutNoise_eq (path : Text) (entries : List (Text × Tree)) :
    entriesWithoutNoise path entries =
      (entries.filter fun e => !isNoise (Pointer.child path e.1)).map fun e =>
        (e.1, e.2.withoutNoise (Pointer.child path e.1)) := by
  induction entries with
  | nil => rfl
  | cons e rest ih =>
    obtain ⟨key, value⟩ := e
    rw [entriesWithoutNoise, ih]
    cases hnoise : isNoise (Pointer.child path key) <;> simp [hnoise]

/-- Items that are no noise keep their indices. -/
theorem zipIdx_itemsWithoutNoise {path : Text}
    (hitems : ∀ index, isNoise (Pointer.child path (Text.decimal index)) = false) (index : Nat)
    (items : List Tree) : (itemsWithoutNoise path index items).zipIdx index =
      (items.zipIdx index).map fun (item, index) =>
        (item.withoutNoise (Pointer.child path (Text.decimal index)), index) := by
  induction items generalizing index with
  | nil => rfl
  | cons item rest ih =>
    simp only [itemsWithoutNoise, hitems, Bool.false_eq_true, if_false, List.zipIdx_cons, ih,
      List.map_cons]

/-- The parts that are left of a node are those that are not in noise, without the noise in them. -/
theorem parts_withoutNoise {above : List Step} (habove : ¬ InNoise above) (t : Tree) :
    (t.withoutNoise (pointer above)).parts =
      (t.parts.filter fun part => ¬ InNoise (above ++ [part.1])).map fun part =>
        (part.1, part.2.withoutNoise (pointer (above ++ [part.1]))) := by
  have hnoise (step : Step) : isNoise (Pointer.child (pointer above) step.token) =
      decide (InNoise (above ++ [step])) := by
    rw [← pointer_concat, Bool.eq_iff_iff, decide_eq_true_eq]
    exact isNoise_pointer_concat_iff habove step
  cases t with
  | object entries =>
    have hkey (key : Text) := hnoise (.key key)
    simp only [Step.token] at hkey
    rw [withoutNoise, parts, parts, entriesWithoutNoise_eq, List.filter_map, List.map_map,
      List.map_map]
    simp only [hkey, pointer_concat, Function.comp_def, decide_not]
    rfl
  | array items =>
    have hitem (index : Nat) :
        isNoise (Pointer.child (pointer above) (Text.decimal index)) = false :=
      (hnoise (.item index)).trans (decide_eq_false (not_inNoise_concat_item habove index))
    rw [withoutNoise, parts, parts, zipIdx_itemsWithoutNoise hitem, List.filter_eq_self.mpr,
      List.map_map, List.map_map]
    · simp only [pointer_concat]
      rfl
    · simp only [List.mem_map]
      rintro _ ⟨⟨item, index⟩, -, rfl⟩
      simpa using not_inNoise_concat_item habove index
  | _ => rfl

/-- The places that are left at and below a node that is not in noise are those that are not in
noise. -/
theorem places_withoutNoise_pointer {above : List Step} (habove : ¬ InNoise above) (t : Tree) :
    (t.withoutNoise (pointer above)).places =
      t.places.filter fun place => ¬ InNoise (above ++ place.route) := by
  induction t using parts_induction generalizing above with
  | node t ih =>
    have hroot : ¬ InNoise (above ++ []) := (List.append_nil above).symm ▸ habove
    rw [places_eq, places_eq, bare_withoutNoise, parts_withoutNoise habove, List.filter_cons,
      if_pos (decide_eq_true hroot)]
    refine congrArg _ ?_
    generalize t.parts = ps at ih
    induction ps with
    | nil => rfl
    | cons part rest ihrest =>
      obtain ⟨step, value⟩ := part
      obtain ⟨hvalue, hrest⟩ := List.forall_mem_cons.mp ih
      have hroute (place : Place) : above ++ (place.below step).route =
          (above ++ [step]) ++ place.route := List.append_cons above step place.route
      rw [partPlaces, partPlaces, List.flatMap_cons, List.filter_append, List.filter_map,
        List.filter_cons]
      simp only [Function.comp_def, hroute]
      by_cases hstep : InNoise (above ++ [step])
      · -- the part goes, and all places below it with it
        have hbelow (route : List Step) : InNoise ((above ++ [step]) ++ route) := by
          obtain ⟨location, hlocation, hprefix⟩ := hstep
          exact ⟨location, hlocation, hprefix.trans (List.prefix_append _ _)⟩
        simp only [hstep, hbelow, not_true_eq_false, decide_false, Bool.false_eq_true, if_false,
          List.filter_false, List.map_nil, List.nil_append]
        exact ihrest hrest
      · rw [if_pos (decide_eq_true hstep), List.map_cons, List.flatMap_cons, hvalue hstep]
        exact congrArg _ (ihrest hrest)

/-- The places that are left of a tree are those that are not in noise. -/
theorem places_withoutNoise (t : Tree) :
    (t.withoutNoise []).places = t.places.filter fun place => ¬ InNoise place.route := by
  have hroot : ¬ InNoise [] := by decide
  exact places_withoutNoise_pointer hroot t

/-- What noise exclusion makes of a tree is the tree with just the places that do not lead to one of
the six excluded fields, through maps, or below one: all others are kept with what stands there, and
in their order.  A second exclusion changes nothing. -/
theorem eq_withoutNoise_iff_places (t : Tree) :
    (∀ t', t' = t.withoutNoise [] ↔
        t'.places = t.places.filter fun place => ¬ InNoise place.route) ∧
      (t.withoutNoise []).withoutNoise [] = t.withoutNoise [] := by
  constructor
  · intro t'
    rw [← places_withoutNoise, places_injective.eq_iff]
  · refine places_injective ?_
    rw [places_withoutNoise, places_withoutNoise, List.filter_filter]
    simp only [Bool.and_self]

end AdmissionLedger.Tree
