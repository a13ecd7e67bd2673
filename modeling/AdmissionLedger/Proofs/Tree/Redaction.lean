import AdmissionLedger.Proofs.Except
import AdmissionLedger.Proofs.Json.Written
import AdmissionLedger.Tree.Redaction

/-!
# What can be redacted

A digest is taken of bytes, and every value has some: its canonical text is ASCII, and
so is the marker that stands for a value without one.  The one exception is a text,
which is hashed by its own bytes and has none if it holds a surrogate.  So redaction
fails exactly if it comes upon such a text.

## Main definitions

* `Tree.isHashable` — whether a value has a digest.
* `Tree.mapValues` — what hashing and redacting the entries of a map have in common.

## Main results

* `Tree.exists_digest_iff` — a value has a digest exactly if it is hashable.
* `Tree.exists_redact_iff` — a tree can be redacted exactly if all its payloads are hashable.
-/

namespace AdmissionLedger

namespace Tree

/-- Whether a value has a digest: all have but texts with a surrogate. -/
def isHashable : Tree → Bool
  | .str t => !t.hasSurrogate
  | _ => true

/-! ### Digests -/

/-- A value that is no text is hashed by its canonical text or by a marker, both of them ASCII. -/
theorem exists_hashInput_of_canonical {t : Tree} (h : ∀ s, t ≠ .str s) :
    ∃ bytes, (Payload.tree t).hashInput = .ok bytes := by
  unfold Payload.hashInput
  split
  · next reason hreason =>
    have hascii : Text.IsAscii (Payload.errorMarker reason) := by
      simp only [Payload.unencodable?] at hreason
      split at hreason
      · cases hreason
      · cases hreason
        decide
    exact ⟨_, Text.encodeUtf8_of_hasSurrogate_eq_false hascii.hasSurrogate⟩
  · cases t with
    | str s => exact absurd rfl (h s)
    | _ => exact ⟨_, encodeUtf8_canonicalText _⟩

theorem exists_hashInput_str_iff {s : Text} :
    (∃ bytes, (Payload.tree (.str s)).hashInput = .ok bytes) ↔ s.hasSurrogate = false := by
  have hinput : (Payload.tree (.str s)).hashInput = s.encodeUtf8 := rfl
  rw [hinput]
  cases hs : s.hasSurrogate with
  | false => simp [Text.encodeUtf8_of_hasSurrogate_eq_false hs]
  | true =>
    obtain ⟨e, he⟩ := Text.encodeUtf8_of_hasSurrogate hs
    simp [he]

/-- A value has a digest exactly if it is hashable. -/
theorem exists_digest_iff (t : Tree) : (∃ d, t.digest = .ok d) ↔ t.isHashable = true := by
  rw [digest, Payload.digest, Except.exists_map_iff]
  -- a text is hashed by its own bytes, every other value by a text that is ASCII
  by_cases h : ∃ s, t = .str s
  · obtain ⟨s, rfl⟩ := h
    rw [exists_hashInput_str_iff, isHashable, Bool.not_eq_true']
  · have hstr : ∀ s, t ≠ .str s := fun s hs => h ⟨s, hs⟩
    refine iff_of_true (exists_hashInput_of_canonical hstr) ?_
    cases t with
    | str s => exact absurd rfl (hstr s)
    | _ => rfl

/-! ### Values of entries -/

/-- Entries with every value changed by a step that may fail. -/
def mapValues (f : Text → Tree → Except EncodeError Tree) :
    List (Text × Tree) → Except EncodeError (List (Text × Tree))
  | [] => .ok []
  | (key, value) :: rest => do
    let value ← f key value
    let others ← mapValues f rest
    return (key, value) :: others

section

variable {f : Text → Tree → Except EncodeError Tree} {entries : List (Text × Tree)}

/-- All values can be changed exactly if each of them can. -/
theorem exists_mapValues_iff :
    (∃ changed, mapValues f entries = .ok changed) ↔ ∀ e ∈ entries, ∃ t, f e.1 e.2 = .ok t := by
  induction entries with
  | nil => simp [mapValues]
  | cons entry rest ih =>
    obtain ⟨key, value⟩ := entry
    rw [mapValues, Except.exists_bind_iff, List.forall_mem_cons, ← ih]
    constructor
    · rintro ⟨t, ht, hrest⟩
      obtain ⟨others, hothers, -⟩ := Except.exists_bind_iff.mp hrest
      exact ⟨⟨t, ht⟩, others, hothers⟩
    · rintro ⟨⟨t, ht⟩, others, hothers⟩
      exact ⟨t, ht, Except.exists_bind_iff.mpr ⟨others, hothers, _, rfl⟩⟩

/-- The changed entries are those before with their changed values, in order. -/
theorem mapValues_cons_eq_ok {key : Text} {value : Tree} {changed : List (Text × Tree)}
    (h : mapValues f ((key, value) :: entries) = .ok changed) :
    ∃ value' others, f key value = .ok value' ∧ mapValues f entries = .ok others ∧
      changed = (key, value') :: others := by
  rw [mapValues, Except.bind_eq_ok_iff] at h
  obtain ⟨value', hvalue, h⟩ := h
  obtain ⟨others, hothers, h⟩ := Except.bind_eq_ok_iff.mp h
  cases h
  exact ⟨value', others, hvalue, hothers, rfl⟩

/-- Changing values leaves the keys. -/
theorem keysOf_mapValues {changed : List (Text × Tree)} (h : mapValues f entries = .ok changed) :
    keysOf changed = keysOf entries := by
  induction entries generalizing changed with
  | nil =>
    cases h
    rfl
  | cons entry rest ih =>
    obtain ⟨key, value⟩ := entry
    obtain ⟨value', others, -, hothers, rfl⟩ := mapValues_cons_eq_ok h
    exact congrArg (key :: ·) (ih hothers)

/-- A changed value stands for one before, under the same key. -/
theorem exists_of_mem_mapValues {changed : List (Text × Tree)} {e' : Text × Tree}
    (h : mapValues f entries = .ok changed) (he' : e' ∈ changed) :
    ∃ value, (e'.1, value) ∈ entries ∧ f e'.1 value = .ok e'.2 := by
  induction entries generalizing changed with
  | nil =>
    cases h
    cases he'
  | cons entry rest ih =>
    obtain ⟨key, value⟩ := entry
    obtain ⟨value', others, hvalue, hothers, rfl⟩ := mapValues_cons_eq_ok h
    rcases List.mem_cons.mp he' with rfl | he'
    · exact ⟨value, List.mem_cons_self, hvalue⟩
    · obtain ⟨value, hmem, hf⟩ := ih hothers he'
      exact ⟨value, List.mem_cons_of_mem _ hmem, hf⟩

/-- Every value has a changed one under its key. -/
theorem exists_mem_of_mapValues {changed : List (Text × Tree)} {e : Text × Tree}
    (h : mapValues f entries = .ok changed) (he : e ∈ entries) :
    ∃ value', (e.1, value') ∈ changed ∧ f e.1 e.2 = .ok value' := by
  induction entries generalizing changed with
  | nil => cases he
  | cons entry rest ih =>
    obtain ⟨key, value⟩ := entry
    obtain ⟨value', others, hvalue, hothers, rfl⟩ := mapValues_cons_eq_ok h
    rcases List.mem_cons.mp he with rfl | he
    · exact ⟨value', List.mem_cons_self, hvalue⟩
    · obtain ⟨value', hmem, hf⟩ := ih hothers he
      exact ⟨value', List.mem_cons_of_mem _ hmem, hf⟩

end

/-! ### Redaction -/

theorem hashValues_eq_mapValues (entries : List (Text × Tree)) :
    hashValues entries = mapValues (fun _ value => (digest value).map .str) entries := by
  induction entries with
  | nil => rfl
  | cons entry rest ih =>
    obtain ⟨key, value⟩ := entry
    rw [hashValues, mapValues, ih]
    cases digest value <;> rfl

/-- All values can be hashed exactly if each of them can. -/
theorem exists_hashValues_iff (entries : List (Text × Tree)) :
    (∃ r, hashValues entries = .ok r) ↔ ∀ e ∈ entries, e.2.isHashable = true := by
  rw [hashValues_eq_mapValues, exists_mapValues_iff]
  simp only [Except.exists_map_iff, exists_digest_iff]

/-- The value of a sensitive key can be hashed exactly if its parts can. -/
theorem exists_hashPayload_iff (t : Tree) :
    (∃ r, hashPayload t = .ok r) ↔ ∀ p ∈ payloadParts t, p.isHashable = true := by
  have hwhole : ∀ t, hashPayload t = (digest t).map .str → payloadParts t = [t] →
      ((∃ r, hashPayload t = .ok r) ↔ ∀ p ∈ payloadParts t, p.isHashable = true) := by
    intro t hhash hparts
    rw [hhash, hparts, Except.exists_map_iff, exists_digest_iff, List.forall_mem_singleton]
  cases t with
  | null => simp [hashPayload, payloadParts]
  | object entries =>
    rw [hashPayload, Except.exists_map_iff, exists_hashValues_iff, payloadParts,
      List.forall_mem_map]
  | bool b => exact hwhole _ rfl rfl
  | int n => exact hwhole _ rfl rfl
  | float x => exact hwhole _ rfl rfl
  | str s => exact hwhole _ rfl rfl
  | array items => exact hwhole _ rfl rfl

/-- What is done with the value under a key: it is hashed under a sensitive key, else searched. -/
def redactUnder (key : Text) (value : Tree) : Except EncodeError Tree :=
  if sensitiveKeys.contains key then hashPayload value else redact value

theorem redactEntries_eq_mapValues (entries : List (Text × Tree)) :
    redactEntries entries = mapValues redactUnder entries := by
  induction entries with
  | nil => rw [redactEntries, mapValues]
  | cons entry rest ih =>
    obtain ⟨key, value⟩ := entry
    rw [redactEntries, mapValues, redactUnder, ih]
    split <;> rfl

/-- The values that are hashed under a key. -/
def payloadsUnder (key : Text) (value : Tree) : List Tree :=
  if sensitiveKeys.contains key then payloadParts value else payloads value

theorem payloadsOfEntries_eq_flatMap (entries : List (Text × Tree)) :
    payloadsOfEntries entries = entries.flatMap fun e => payloadsUnder e.1 e.2 := by
  induction entries with
  | nil => rw [payloadsOfEntries, List.flatMap_nil]
  | cons entry rest ih =>
    obtain ⟨key, value⟩ := entry
    rw [payloadsOfEntries, List.flatMap_cons, ih, payloadsUnder]

/-- A tree can be redacted exactly if all its payloads are hashable. -/
theorem exists_redact_iff (t : Tree) :
    (∃ r, redact t = .ok r) ↔ ∀ p ∈ payloads t, p.isHashable = true := by
  induction t using nested_induction with
  | object entries ih =>
    rw [redact, payloads, Except.exists_map_iff, redactEntries_eq_mapValues, exists_mapValues_iff,
      payloadsOfEntries_eq_flatMap, List.forall_mem_flatMap]
    refine forall₂_congr fun e he => ?_
    unfold redactUnder payloadsUnder
    split
    · exact exists_hashPayload_iff e.2
    · exact ih e he
  | _ => simp [redact, payloads]

end Tree

end AdmissionLedger
