import AdmissionLedger.Proofs.Tree.Everywhere
import AdmissionLedger.Proofs.Tree.Preparation

/-!
# What redaction conceals

Redaction walks through maps until it meets a sensitive key, and hashes what stands
there.  A sequence outside of these keys is kept as it is, with all sensitive keys that
it has below.  So a location tells by its first steps what happens to it: behind a
sensitive key nothing but digests is left, and behind a sequence everything.

## Main definitions

* `Step`, `Located` — the steps into a tree, and the value at the end of a route.
* `Concealed` — nothing of a value is left but digests.
* `PayloadRoute`, `ThroughMaps`, `EntersSequence` — routes to payloads, and what they cross.
* `PayloadsConcealed` — of all payloads nothing but digests is left.
* `Conceals`, `ConcealsAt` — what a tree, or a part of one, conceals of another tree.

## Main results

* `conceals_redact`, `conceals_prepare` — what is concealed, and what is not.
* `Conceals.payloadsConcealed_iff` — all payloads are concealed exactly if those in sequences were.
* `bringsFrom_edits` — a value that an edit brings stands in the new tree where it is put.
-/

namespace AdmissionLedger.Tree

/-! ### Locations -/

/-- One step into a tree. -/
inductive Step
  | key (key : Text)
  | item (index : Nat)

/-- Whether a step leads to a value that has to be hashed. -/
def Step.isSensitive : Step → Bool
  | .key name => sensitiveKeys.contains name
  | .item _ => false

/-- The value stands at the end of a route into a tree. -/
inductive Located (value : Tree) : List Step → Tree → Prop
  | root : Located value [] value
  | under {key : Text} {inner : Tree} {entries : List (Text × Tree)} {route : List Step}
      (hmem : (key, inner) ∈ entries) (h : Located value route inner) :
      Located value (.key key :: route) (.object entries)
  | among {index : Nat} {inner : Tree} {items : List Tree} {route : List Step}
      (hitem : items[index]? = some inner) (h : Located value route inner) :
      Located value (.item index :: route) (.array items)

theorem Located.append {value inner t : Tree} {route route' : List Step}
    (h : Located inner route t) (h' : Located value route' inner) :
    Located value (route ++ route') t := by
  induction h with
  | root => exact h'
  | under hmem _ ih => exact .under hmem ih
  | among hitem _ ih => exact .among hitem ih

/-- The route leads to the value of a sensitive key, outside of other sensitive keys. -/
def PayloadRoute (route : List Step) : Prop :=
  ∃ above key, route = above ++ [.key key] ∧ key ∈ sensitiveKeys ∧
    ∀ step ∈ above, step.isSensitive = false

/-- The route crosses no sequence. -/
def ThroughMaps (route : List Step) : Prop :=
  ∀ index, .item index ∉ route

/-- The route enters a sequence before it passes a sensitive key. -/
def EntersSequence (route : List Step) : Prop :=
  ∃ above index below, route = above ++ .item index :: below ∧
    ∀ step ∈ above, step.isSensitive = false

theorem PayloadRoute.exists_isSensitive {route : List Step} (h : PayloadRoute route) :
    ∃ step ∈ route, step.isSensitive = true := by
  obtain ⟨above, key, rfl, hkey, -⟩ := h
  exact ⟨.key key, by simp, List.contains_iff_mem.mpr hkey⟩

/-- A route to a payload that crosses a sequence enters it before it passes a sensitive key. -/
theorem PayloadRoute.entersSequence {route : List Step} (h : PayloadRoute route)
    (hmaps : ¬ ThroughMaps route) : EntersSequence route := by
  obtain ⟨above, key, rfl, -, habove⟩ := h
  simp only [ThroughMaps, not_forall, not_not, List.mem_append, List.mem_singleton,
    reduceCtorEq, or_false] at hmaps
  obtain ⟨index, hindex⟩ := hmaps
  obtain ⟨before, after, rfl⟩ := List.append_of_mem hindex
  exact ⟨before, index, after ++ [.key key], by simp,
    fun step hstep => habove step (List.mem_append_left _ hstep)⟩

/-! ### Concealed values -/

/-- A value is the digest of some value. -/
def IsDigest (t : Tree) : Prop :=
  ∃ value text, digest value = .ok text ∧ t = .str text

/-- Nothing of a value is left but digests. -/
inductive Concealed : Tree → Prop
  | missing : Concealed .null
  | whole {t : Tree} (h : IsDigest t) : Concealed t
  | values {entries : List (Text × Tree)} (h : ∀ e ∈ entries, IsDigest e.2) :
      Concealed (.object entries)

/-- What stands inside of a concealed value is concealed. -/
theorem Concealed.of_located {value t : Tree} {route : List Step} (ht : Concealed t)
    (h : Located value route t) : Concealed value := by
  cases ht with
  | missing =>
    cases h
    exact .missing
  | whole hdigest =>
    obtain ⟨of, text, hof, rfl⟩ := hdigest
    cases h
    exact .whole ⟨of, text, hof, rfl⟩
  | values hdigests =>
    cases h with
    | root => exact .values hdigests
    | under hmem h =>
      obtain ⟨of, text, hof, htext⟩ := hdigests _ hmem
      cases htext
      -- a digest is a text, and nothing stands inside of it but itself
      cases h
      exact .whole ⟨of, text, hof, rfl⟩

/-- Of all payloads, in whatever containers, nothing is left but digests. -/
def PayloadsConcealed (t : Tree) : Prop :=
  ∀ value route, Located value route t → PayloadRoute route → Concealed value

theorem isDigest_of_map {value t : Tree} (h : (digest value).map .str = .ok t) : IsDigest t := by
  obtain ⟨text, htext, rfl⟩ := Except.map_eq_ok_iff.mp h
  exact ⟨value, text, htext, rfl⟩

/-- The value of a sensitive key is concealed. -/
theorem concealed_hashPayload {t t' : Tree} (h : hashPayload t = .ok t') : Concealed t' := by
  unfold hashPayload at h
  split at h
  · cases h
    exact .missing
  · obtain ⟨hashed, hhashed, rfl⟩ := Except.map_eq_ok_iff.mp h
    rw [hashValues_eq_mapValues] at hhashed
    refine .values fun e he => ?_
    obtain ⟨value, -, hvalue⟩ := exists_of_mem_mapValues hhashed he
    exact isDigest_of_map hvalue
  · exact .whole (isDigest_of_map h)

/-! ### Redacted trees -/

/-- What one tree conceals of another: everything behind a sensitive key, and nothing inside of a
sequence that stands outside of these keys. -/
structure Conceals (source t : Tree) : Prop where
  behindKeys : ∀ value route, Located value route t → ThroughMaps route →
    (∃ step ∈ route, step.isSensitive = true) → Concealed value
  inSequences : ∀ value route, EntersSequence route →
    (Located value route t ↔ Located value route source)

theorem redact_eq_object {t : Tree} {entries' : List (Text × Tree)}
    (h : redact t = .ok (.object entries')) :
    ∃ entries, t = .object entries ∧ mapValues redactUnder entries = .ok entries' := by
  unfold redact at h
  split at h
  · next entries =>
    obtain ⟨redacted, hredacted, heq⟩ := Except.map_eq_ok_iff.mp h
    cases heq
    exact ⟨entries, rfl, redactEntries_eq_mapValues entries ▸ hredacted⟩
  · next hnot =>
    cases h
    exact absurd rfl (hnot entries')

/-- Only maps are changed. -/
theorem redact_eq_self {t t' : Tree} (h : redact t = .ok t')
    (hnot : ∀ entries, t ≠ .object entries) :
    t' = t := by
  unfold redact at h
  split at h
  · exact absurd rfl (hnot _)
  · cases h
    rfl

/-- Behind a sensitive key nothing but digests is left. -/
theorem concealed_of_located {t t' value : Tree} {route : List Step} (h : redact t = .ok t')
    (hloc : Located value route t') (hmaps : ThroughMaps route)
    (hkey : ∃ step ∈ route, step.isSensitive = true) : Concealed value := by
  induction hloc generalizing t with
  | root =>
    obtain ⟨step, hstep, -⟩ := hkey
    cases hstep
  | among => exact absurd List.mem_cons_self (hmaps _)
  | under hmem hinner ih =>
    obtain ⟨entries, rfl, hentries⟩ := redact_eq_object h
    obtain ⟨before, -, hunder⟩ := exists_of_mem_mapValues hentries hmem
    unfold redactUnder at hunder
    split at hunder
    · exact (concealed_hashPayload hunder).of_located hinner
    · next hnot =>
      -- the sensitive key is met further down
      obtain ⟨step, hstep, hsensitive⟩ := hkey
      rcases List.mem_cons.mp hstep with rfl | hstep
      · exact absurd hsensitive hnot
      · exact ih hunder (fun index h => hmaps index (List.mem_cons_of_mem _ h))
          ⟨step, hstep, hsensitive⟩

/-- What stands in a sequence outside of sensitive keys is what stood there before. -/
theorem located_redact_iff {t t' value : Tree} {above below : List Step} {index : Nat}
    (h : redact t = .ok t') (habove : ∀ step ∈ above, step.isSensitive = false) :
    Located value (above ++ .item index :: below) t' ↔
      Located value (above ++ .item index :: below) t := by
  induction above generalizing t t' with
  | nil =>
    -- a map has no items, and all else is kept
    by_cases hmap : ∃ entries, t = .object entries
    · obtain ⟨entries, rfl⟩ := hmap
      rw [redact] at h
      obtain ⟨redacted, -, rfl⟩ := Except.map_eq_ok_iff.mp h
      constructor <;> intro h <;> cases h
    · rw [redact_eq_self h fun entries heq => hmap ⟨entries, heq⟩]
  | cons step above ih =>
    by_cases hmap : ∃ entries, t = .object entries
    · obtain ⟨entries, rfl⟩ := hmap
      rw [redact, redactEntries_eq_mapValues] at h
      obtain ⟨redacted, hredacted, rfl⟩ := Except.map_eq_ok_iff.mp h
      rw [List.forall_mem_cons] at habove
      have hunder : ∀ key, .key key = step → ∀ value, redactUnder key value = redact value := by
        rintro key rfl value
        exact if_neg (Bool.eq_false_iff.mp habove.1)
      constructor
      · intro hloc
        cases hloc with
        | under hmem hinner =>
          obtain ⟨before, hbefore, hredact⟩ := exists_of_mem_mapValues hredacted hmem
          rw [hunder _ rfl] at hredact
          exact .under hbefore ((ih hredact habove.2).mp hinner)
      · intro hloc
        cases hloc with
        | under hmem hinner =>
          obtain ⟨after, hafter, hredact⟩ := exists_mem_of_mapValues hredacted hmem
          rw [hunder _ rfl] at hredact
          exact .under hafter ((ih hredact habove.2).mpr hinner)
    · rw [redact_eq_self h fun entries heq => hmap ⟨entries, heq⟩]

theorem conceals_redact {t t' : Tree} (h : redact t = .ok t') : Conceals t t' where
  behindKeys _ _ := concealed_of_located h
  inSequences := by
    rintro value _ ⟨above, index, below, rfl, habove⟩
    exact located_redact_iff h habove

/-- What is concealed of a Secret is concealed of what the noise leaves of it. -/
theorem conceals_prepare {t t' : Tree} (h : prepare sensitiveKind t = .ok t') :
    Conceals (t.withoutNoise []) t' := by
  rw [prepare, if_pos rfl] at h
  exact conceals_redact h

/-- All payloads are concealed exactly if those are that stood in sequences. -/
theorem Conceals.payloadsConcealed_iff {source t : Tree} (h : Conceals source t) :
    PayloadsConcealed t ↔ ∀ value route, Located value route source → PayloadRoute route →
      ¬ ThroughMaps route → Concealed value := by
  constructor
  · intro hall value route hloc hroute hmaps
    exact hall value route ((h.inSequences value route (hroute.entersSequence hmaps)).mpr hloc)
      hroute
  · intro hsequences value route hloc hroute
    by_cases hmaps : ThroughMaps route
    · exact h.behindKeys value route hloc hmaps hroute.exists_isSensitive
    · exact hsequences value route
        ((h.inSequences value route (hroute.entersSequence hmaps)).mp hloc) hroute hmaps

/-- What the part of a tree that stands at the end of a route conceals of another tree. -/
structure ConcealsAt (source : Tree) (above : List Step) (part : Tree) : Prop where
  behindKeys : ∀ value route, Located value route part → ThroughMaps route →
    (∃ step ∈ above ++ route, step.isSensitive = true) → Concealed value
  inSequences : ∀ value route, Located value route part → EntersSequence (above ++ route) →
    Located value (above ++ route) source

theorem Conceals.concealsAt {source t part : Tree} {above : List Step} (h : Conceals source t)
    (hpart : Located part above t) (hmaps : ThroughMaps above) : ConcealsAt source above part where
  behindKeys := fun value _ hloc hroute => h.behindKeys value _ (hpart.append hloc)
    fun index hmem => (List.mem_append.mp hmem).elim (hmaps index) (hroute index)
  inSequences := fun value _ hloc henters =>
    (h.inSequences value _ henters).mp (hpart.append hloc)

/-! ### Edits -/

/-- The steps along some keys. -/
def keySteps (keys : List Text) : List Step :=
  keys.map .key

theorem throughMaps_keySteps (keys : List Text) : ThroughMaps (keySteps keys) := by
  intro index h
  obtain ⟨key, -, hkey⟩ := List.mem_map.mp h
  cases hkey

/-- A value that an edit brings stands in the new tree where it is put. -/
def BringsFrom (location : List Text) (new : Tree) (e : Edit (List Text)) : Prop :=
  ∀ value, e.value? = some value →
    ∃ keys, e.location = location ++ keys ∧ Located value (keySteps keys) new

theorem bringsFrom_nodeEdit (location : List Text) (old new : Tree) :
    ∀ e ∈ nodeEdit location old new, BringsFrom location new e := by
  have hwhole : ∀ e : Edit (List Text), e.location = location → e.value? = some new →
      BringsFrom location new e := by
    intro e hlocation hvalue value hvalue'
    cases hvalue.symm.trans hvalue'
    exact ⟨[], by rw [hlocation, List.append_nil], .root⟩
  unfold nodeEdit
  split
  · exact List.forall_mem_nil _
  · exact List.forall_mem_singleton.mpr (hwhole _ rfl rfl)
  · exact List.forall_mem_singleton.mpr fun value hvalue => by cases hvalue
  · split
    · exact List.forall_mem_singleton.mpr (hwhole _ rfl rfl)
    · split
      · exact List.forall_mem_nil _
      · exact List.forall_mem_singleton.mpr (hwhole _ rfl rfl)

theorem BringsFrom.under {location : List Text} {key : Text} {inner : Tree}
    {entries : List (Text × Tree)} {e : Edit (List Text)} (hmem : (key, inner) ∈ entries)
    (h : BringsFrom (location ++ [key]) inner e) : BringsFrom location (.object entries) e := by
  intro value hvalue
  obtain ⟨keys, hlocation, hloc⟩ := h value hvalue
  exact ⟨key :: keys, by rw [hlocation, List.append_assoc]; rfl, .under hmem hloc⟩

theorem bringsFrom_edits (location : List Text) (old new : Tree) :
    ∀ e ∈ edits location old new, BringsFrom location new e := by
  refine edits.induct
    (fun location old new => ∀ e ∈ edits location old new, BringsFrom location new e)
    (fun location old new => ∀ e ∈ entryEdits location old new,
      BringsFrom location (.object new) e)
    ?maps ?nodes ?nil ?cons location old new
  case maps =>
    intro location old new ih
    rw [edits, List.forall_mem_append]
    refine ⟨ih, ?_⟩
    intro e he
    obtain ⟨entry, hentry, rfl⟩ := List.mem_map.mp he
    refine .under (List.mem_filter.mp hentry).1 ?_
    intro value hvalue
    cases hvalue
    exact ⟨[], by rw [List.append_nil]; rfl, .root⟩
  case nodes =>
    intro location old new hnot
    rw [edits.eq_2 location old new hnot]
    exact bringsFrom_nodeEdit location old new
  case nil =>
    intro location new
    rw [entryEdits]
    exact List.forall_mem_nil _
  case cons =>
    intro location key before old new here ihvalue ihrest
    rw [entryEdits, List.forall_mem_append]
    refine ⟨?_, ihrest⟩
    cases hafter : new.lookup key with
    | none => exact List.forall_mem_singleton.mpr fun value hvalue => by cases hvalue
    | some after =>
      simp only
      split
      · exact List.forall_mem_nil _
      · exact fun e he => .under (mem_of_lookup hafter) (ihvalue after e he)

end AdmissionLedger.Tree
