import AdmissionLedger.Proofs.Json.Reading
import AdmissionLedger.Proofs.Tree.Check
import AdmissionLedger.Rules.Document

/-!
# What rule documents can say

A strict document holds no surrogate, so none of the texts of the rules that were read
from it does, and what a requester is told can always be sent.

## Main results

* `Tree.of_fieldOr` — a field has what its default and all checked values have.
* `BlockRules.encodable_of_ofText` — no text of block rules from a document holds a surrogate.
* `BlockRules.hasSurrogate_effectiveMessage` — nor does what the requester is told.
-/

namespace AdmissionLedger

/-- A field has what its default has, and what the check makes of every value of the entries. -/
theorem Tree.of_fieldOr {α : Type} (P : α → Prop) {key : String} {default : α}
    {check : Tree → Check α} {entries : List (Text × Tree)} {a : α} (hdefault : P default)
    (hcheck : ∀ e ∈ entries, ∀ a, check e.2 = .ok a → P a)
    (h : fieldOr key default check entries = .ok a) : P a := by
  unfold fieldOr at h
  split at h
  · cases h
    exact hdefault
  · cases h
    exact hdefault
  · next value hvalue => exact hcheck _ (mem_of_lastOf? hvalue) a h

section

variable {entries : List (Text × Tree)}

/-- A text from encodable entries is encodable. -/
theorem Tree.encodable_str_of_fieldOr (hentries : ∀ e ∈ entries, e.2.Encodable) {key : String}
    {text : Text} (h : fieldOr key [] asText entries = .ok text) : (str text).Encodable := by
  refine of_fieldOr (fun text => (str text).Encodable) (encodable_str.mpr rfl) ?_ h
  intro e he text htext
  rw [← asText_eq_ok_iff.mp htext]
  exact hentries e he

/-- So is a sequence of texts. -/
theorem Tree.encodable_texts_of_fieldOr (hentries : ∀ e ∈ entries, e.2.Encodable) {key : String}
    {ts : List Text} (h : fieldOr key [] asTexts entries = .ok ts) : (texts ts).Encodable := by
  refine of_fieldOr (fun ts => (texts ts).Encodable) (by simp [texts]) ?_ h
  intro e he ts hts
  rw [← asTexts_eq_ok hts]
  exact hentries e he

theorem BlockRules.encodable_of_ofEntries (hentries : ∀ e ∈ entries, e.2.Encodable)
    {rules : BlockRules} (h : ofEntries entries = .ok rules) : rules.toTree.Encodable := by
  simp only [ofEntries, Patterns.ofEntries, Check.seq_eq_ok_iff, Check.map_eq_ok_iff] at h
  obtain ⟨_, message, ⟨_, operations, ⟨patterns, ⟨_, kinds, ⟨_, names, ⟨namespaces, hnamespaces,
    rfl⟩, hnames, rfl⟩, hkinds, rfl⟩, rfl⟩, hoperations, rfl⟩, hmessage, rfl⟩ := h
  rw [toTree, Patterns.fields, Tree.encodable_record]
  simp only [List.cons_append, List.nil_append, List.forall_mem_cons]
  exact ⟨⟨by decide, Tree.encodable_texts_of_fieldOr hentries hnamespaces⟩,
    ⟨by decide, Tree.encodable_texts_of_fieldOr hentries hnames⟩,
    ⟨by decide, Tree.encodable_texts_of_fieldOr hentries hkinds⟩,
    ⟨by decide, Tree.encodable_texts_of_fieldOr hentries hoperations⟩,
    ⟨by decide, Tree.encodable_str_of_fieldOr hentries hmessage⟩, List.forall_mem_nil _⟩

/-- No text of block rules from a document holds a surrogate. -/
theorem BlockRules.encodable_of_ofText {t : Text} {rules : BlockRules} (h : ofText t = .ok rules) :
    rules.toTree.Encodable := by
  simp only [ofText, Json.readStrict, Check.andThen_eq_ok_iff] at h
  obtain ⟨tree, htree, entries, hentries, hrules⟩ := h
  rw [Tree.asEntries_eq_ok_iff] at hentries
  subst hentries
  -- a strict document was read to the end, and holds no surrogate anywhere
  have hencodable : (Tree.object entries).Encodable := by
    split at htree
    · next hread =>
      cases htree
      exact Json.encodable_of_read_strict hread
    · cases htree
  rw [Tree.encodable_object] at hencodable
  exact encodable_of_ofEntries (fun e he => (hencodable e he).2) hrules

/-- What block rules from a document tell a requester holds no surrogate. -/
theorem BlockRules.hasSurrogate_effectiveMessage {t : Text} {rules : BlockRules}
    (h : ofText t = .ok rules) : rules.effectiveMessage.hasSurrogate = false := by
  have htree := encodable_of_ofText h
  rw [toTree, Patterns.fields, Tree.encodable_record] at htree
  have hmessage := (htree ("message", .str rules.message) (by simp)).2
  unfold effectiveMessage
  split
  · decide
  · exact Tree.encodable_str.mp hmessage

end

end AdmissionLedger
