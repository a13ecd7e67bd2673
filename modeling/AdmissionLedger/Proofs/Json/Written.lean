import AdmissionLedger.Json.Writer
import AdmissionLedger.Proofs.Text.Encodable
import AdmissionLedger.Proofs.Tree.Everywhere

/-!
# Which written trees have bytes

One alphabet writes every tree in ASCII, so its text always has bytes.  The other
writes a surrogate as it is, so the text of a tree has bytes exactly if no text in the
tree holds a surrogate.

## Main results

* `Tree.isAscii_write` — the text in the narrow alphabet is ASCII.
* `Tree.hasSurrogate_write_iff` — the text in the wide alphabet can be encoded exactly if the tree
  can.
* `Tree.encodeUtf8_canonicalText` — the canonical text of a tree always has bytes.
-/

namespace AdmissionLedger

open Text

/-! ### Joined parts -/

theorem Text.IsAscii.join {separator : Text} (hsep : IsAscii separator) :
    ∀ (parts : List Text), (∀ p ∈ parts, IsAscii p) → IsAscii (Text.join separator parts) := by
  intro parts
  fun_induction Text.join separator parts with
  | case1 => intro _; exact .nil
  | case2 part => intro h; exact h part List.mem_cons_self
  | case3 part parts _ ih =>
    intro h
    obtain ⟨hpart, hparts⟩ := List.forall_mem_cons.mp h
    exact .append (.append hpart hsep) (ih hparts)

theorem Text.hasSurrogate_join_iff {separator : Text} (hsep : separator.hasSurrogate = false) :
    ∀ (parts : List Text), (Text.join separator parts).hasSurrogate = false ↔
      ∀ p ∈ parts, p.hasSurrogate = false := by
  intro parts
  fun_induction Text.join separator parts with
  | case1 => simp
  | case2 part => simp
  | case3 part parts _ ih =>
    rw [hasSurrogate_append, hasSurrogate_append, hsep, List.forall_mem_cons, ← ih]
    simp

theorem Text.hasSurrogate_flatMap {α : Type} {f : α → Text} {g : α → Bool}
    (h : ∀ a, (f a).hasSurrogate = g a) :
    ∀ l : List α, Text.hasSurrogate (l.flatMap f) = l.any g := by
  intro l
  induction l with
  | nil => rfl
  | cons a l ih => rw [List.flatMap_cons, hasSurrogate_append, h, ih, List.any_cons]

/-! ### Strings -/

namespace Json

theorem isAscii_unitEscape (n : Nat) : IsAscii (unitEscape n) :=
  .cons (by decide) (.cons (by decide) (isAscii_paddedHex 4 n))

theorem isAscii_pointEscape (c : CodePoint) : IsAscii (pointEscape c) := by
  unfold pointEscape
  split
  · decide
  · decide
  · decide
  · decide
  · decide
  · split
    · exact isAscii_unitEscape _
    · exact .append (isAscii_unitEscape _) (isAscii_unitEscape _)

theorem isAscii_writePoint (c : CodePoint) : IsAscii (writePoint .ascii c) := by
  unfold writePoint
  split
  · next h =>
    simp only [Bool.or_eq_true, decide_eq_true_eq] at h
    rcases h with rfl | rfl <;> decide
  · split
    · exact isAscii_pointEscape c
    · split
      · exact isAscii_pointEscape c
      · next h =>
        simp only [decide_true, Bool.true_and, decide_eq_true_eq] at h
        exact .cons (by omega) .nil

theorem isAscii_writeString (t : Text) : IsAscii (writeString .ascii t) :=
  .append (.cons (by decide) (.flatMap fun c _ => isAscii_writePoint c)) (by decide)

/-- In the wide alphabet a code point is written as a surrogate exactly if it is one. -/
theorem hasSurrogate_writePoint (c : CodePoint) :
    (writePoint .unicode c).hasSurrogate = c.isSurrogate := by
  unfold writePoint
  split
  · next h =>
    simp only [Bool.or_eq_true, decide_eq_true_eq] at h
    rcases h with rfl | rfl <;> decide
  · split
    · next h =>
      rw [(isAscii_pointEscape c).hasSurrogate]
      simp [CodePoint.isSurrogate]
      omega
    · simp

theorem hasSurrogate_writeString (t : Text) :
    (writeString .unicode t).hasSurrogate = t.hasSurrogate := by
  have hquote : CodePoint.isSurrogate .doubleQuote = false := by decide
  rw [writeString, hasSurrogate_append, hasSurrogate_cons, hasSurrogate_cons, hquote,
    hasSurrogate_flatMap hasSurrogate_writePoint, hasSurrogate_nil, Text.hasSurrogate]
  simp

end Json

/-! ### Numbers -/

namespace Double

theorem isAscii_positional {digits : Text} (h : IsAscii digits) (place : Int) :
    IsAscii (positional digits place) := by
  unfold positional
  split
  · exact .append (.append (by decide) (.replicate _ (by decide))) h
  · split
    · exact .append (.append h (.replicate _ (by decide))) (by decide)
    · exact .append (.append (h.take _) (by decide)) (h.drop _)

theorem isAscii_scientific {digits : Text} (h : IsAscii digits) (place : Int) :
    IsAscii (scientific digits place) := by
  unfold scientific
  refine .append (.append (.append (h.take 1) ?_) ?_) (isAscii_paddedDecimal _ _)
  · split
    · exact .nil
    · exact .append (by decide) (h.drop 1)
  · split <;> decide

theorem isAscii_toText (x : Double) : IsAscii x.toText := by
  cases x with
  | nan => decide
  | infinite negative => cases negative <;> decide
  | finite negative m e =>
    have hsign : IsAscii (if negative then ↑"-" else ↑"") := by cases negative <;> decide
    have hdigits : IsAscii (shortest m e).1 := isAscii_decimal _
    simp only [toText]
    split
    · exact .append hsign (by decide)
    · split
      · exact .append hsign (isAscii_positional hdigits _)
      · exact .append hsign (isAscii_scientific hdigits _)

end Double

/-! ### Trees -/

namespace Tree

open Json

theorem isAscii_writeDouble (x : Double) : IsAscii (writeDouble x) := by
  unfold writeDouble
  split
  · decide
  · split <;> decide
  · exact x.isAscii_toText

/-- The items of an array are joined by commas. -/
theorem writeItems_eq_join (alphabet : Alphabet) : ∀ items : List Tree,
    writeItems alphabet items = Text.join "," (items.map (write alphabet)) := by
  intro items
  induction items with
  | nil => rfl
  | cons item rest ih =>
    cases rest with
    | nil => rfl
    | cons next rest =>
      change write alphabet item ++ ↑ ',' :: writeItems alphabet (next :: rest)
        = write alphabet item ++ "," ++ Text.join "," ((next :: rest).map (write alphabet))
      rw [ih, List.append_assoc]
      rfl

/-- An entry of an object as it is written. -/
def writeEntry (alphabet : Alphabet) (e : Text × Tree) : Text :=
  writeString alphabet e.1 ++ ↑ ':' :: write alphabet e.2

/-- The entries of an object are joined by commas. -/
theorem writeEntries_eq_join (alphabet : Alphabet) : ∀ entries : List (Text × Tree),
    writeEntries alphabet entries = Text.join "," (entries.map (writeEntry alphabet)) := by
  intro entries
  induction entries with
  | nil => rfl
  | cons e rest ih =>
    obtain ⟨key, value⟩ := e
    cases rest with
    | nil => rfl
    | cons next rest =>
      change writeString alphabet key ++ ↑ ':' :: write alphabet value ++
          ↑ ',' :: writeEntries alphabet (next :: rest)
        = writeEntry alphabet (key, value) ++ "," ++
          Text.join "," ((next :: rest).map (writeEntry alphabet))
      rw [ih, List.append_assoc (writeEntry alphabet (key, value))]
      rfl

/-- In the narrow alphabet every tree is written in ASCII. -/
theorem isAscii_write (t : Tree) : IsAscii (write .ascii t) := by
  induction t using nested_induction with
  | null => decide
  | bool b => cases b <;> decide
  | int n => exact isAscii_ofInt n
  | float x => exact isAscii_writeDouble x
  | str t => exact isAscii_writeString t
  | array items ih =>
    rw [write, writeItems_eq_join]
    refine .append (.append (by decide) (.join (by decide) _ ?_)) (by decide)
    intro p hp
    obtain ⟨t, ht, rfl⟩ := List.mem_map.mp hp
    exact ih t ht
  | object entries ih =>
    rw [write, writeEntries_eq_join]
    refine .append (.append (by decide) (.join (by decide) _ ?_)) (by decide)
    intro p hp
    obtain ⟨e, he, rfl⟩ := List.mem_map.mp hp
    exact .append (isAscii_writeString e.1) (.cons (by decide) (ih e he))

/-- In the wide alphabet the text of a tree can be encoded exactly if all texts in it can. -/
theorem hasSurrogate_write_iff (t : Tree) :
    (write .unicode t).hasSurrogate = false ↔ t.Encodable := by
  have hcomma : (Text.ofString ",").hasSurrogate = false := by decide
  induction t using nested_induction with
  | null => simp [Everywhere, write]; decide
  | bool b => cases b <;> simp [Everywhere, write] <;> decide
  | int n => simp [Everywhere, write, (isAscii_ofInt n).hasSurrogate]
  | float x => simp [Everywhere, write, (isAscii_writeDouble x).hasSurrogate]
  | str t => rw [write, hasSurrogate_writeString, encodable_str]
  | array items ih =>
    rw [write, writeItems_eq_join, hasSurrogate_append, hasSurrogate_append, Bool.or_eq_false_iff,
      Bool.or_eq_false_iff, hasSurrogate_join_iff hcomma, List.forall_mem_map, encodable_array]
    constructor
    · rintro ⟨⟨-, h⟩, -⟩ t ht
      exact (ih t ht).mp (h t ht)
    · intro h
      exact ⟨⟨by decide, fun t ht => (ih t ht).mpr (h t ht)⟩, by decide⟩
  | object entries ih =>
    rw [write, writeEntries_eq_join, hasSurrogate_append, hasSurrogate_append,
      Bool.or_eq_false_iff, Bool.or_eq_false_iff, hasSurrogate_join_iff hcomma,
      List.forall_mem_map, encodable_object]
    have hentry : ∀ e ∈ entries, (writeEntry .unicode e).hasSurrogate = false ↔
        e.1.hasSurrogate = false ∧ e.2.Encodable := by
      intro e he
      have hcolon : CodePoint.isSurrogate (↑ ':') = false := by decide
      have hvalue : (write .unicode e.2).hasSurrogate = false ↔ e.2.Encodable := ih e he
      rw [writeEntry, hasSurrogate_append, hasSurrogate_writeString, hasSurrogate_cons, hcolon,
        Bool.or_eq_false_iff, Bool.false_or, hvalue]
    constructor
    · rintro ⟨⟨-, h⟩, -⟩
      exact fun e he => (hentry e he).mp (h e he)
    · intro h
      exact ⟨⟨by decide, fun e he => (hentry e he).mpr (h e he)⟩, by decide⟩

/-- The canonical text of a tree always has bytes. -/
theorem encodeUtf8_canonicalText (t : Tree) :
    t.canonicalText.encodeUtf8 = .ok (t.canonicalText.flatMap CodePoint.utf8Bytes) :=
  encodeUtf8_of_hasSurrogate_eq_false (isAscii_write t.sortKeys).hasSurrogate

end Tree

end AdmissionLedger
