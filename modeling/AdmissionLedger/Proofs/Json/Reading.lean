import AdmissionLedger.Json.Reader
import AdmissionLedger.Proofs.Except
import AdmissionLedger.Proofs.Number.Rounding
import AdmissionLedger.Proofs.Text.Encodable
import AdmissionLedger.Proofs.Tree.Numbers

/-!
# What reading makes sure of

The reader builds a tree from the strings that it scans and the entries that it adds
one by one.  So a condition on texts that every scanned string meets, and a condition
on keys that adding an entry keeps, hold throughout what is read.  Two such pairs are
in use: a strict document holds no surrogate, and a lenient one no key twice.  Apart from
these, every number that is read is as rounding gives it.

## Main definitions

* `Json.Dialect.Invariant` — conditions that a reading keeps while it builds a tree.
* `Json.Dialect.Keeps` — a reading keeps a condition on texts and one on keys.

## Main results

* `Json.holds_of_read` — what is read meets what the reading keeps.
* `Json.everywhere_of_read` — a condition on texts and one on keys hold throughout what is read.
* `Json.encodable_of_read_strict`, `Json.distinct_of_readBytes`, `Json.asRead_of_readBytes` — the
  uses.
-/

namespace AdmissionLedger.Json

open AdmissionLedger.Tree

/-! ### The invariant of the reader -/

/-- Conditions that a reading keeps: one on trees, one on the entries of a map that is still open,
and one on its keys.  What is scanned meets them, and so do containers of what meets them. -/
structure Dialect.Invariant (dialect : Dialect) (whole : Tree → Prop)
    (part : List (Text × Tree) → Prop) (key : Text → Prop) : Prop where
  string : ∀ {start index : Nat} {t : Text} {s : Scanned Text},
    scanString dialect start index [] t = .ok s → key s.value ∧ whole (.str s.value)
  plain : ∀ {index : Nat} {t : Text} {s : Scanned Tree},
    scanPlain dialect index t = .ok s → whole s.value
  array : ∀ {items : List Tree}, (∀ t ∈ items, whole t) → whole (.array items)
  empty : part []
  add : ∀ {k : Text} {value : Tree} {done : List (Text × Tree)}, key k → part done → whole value →
    part (if dialect.keepsRepeated then done ++ [(k, value)] else put k value done)
  object : ∀ {done : List (Text × Tree)}, part done → whole (.object done)

section

variable {dialect : Dialect} {whole : Tree → Prop} {part : List (Text × Tree) → Prop}
  {key : Text → Prop}

/-- The conditions hold of what an open container has so far. -/
def Frame.Holds (whole : Tree → Prop) (part : List (Text × Tree) → Prop) (key : Text → Prop) :
    Frame → Prop
  | .array done => ∀ t ∈ done, whole t
  | .object done k => key k ∧ part done

variable (hd : dialect.Invariant whole part key)

include hd

/-- A key that was scanned is a string that was scanned. -/
theorem key_of_scanKey {index : Nat} {t : Text} {s : Scanned Text}
    (h : scanKey dialect index t = .ok s) : key s.value := by
  unfold scanKey at h
  split at h
  · cases h
  · split at h
    · obtain ⟨k, hk, h⟩ := Except.bind_eq_ok_iff.mp h
      have hvalue : s.value = k.value := by
        simp only at h
        repeat' split at h
        all_goals cases h
        rfl
      rw [hvalue]
      exact (hd.string hk).1
    · cases h

/-- What is read from a state in which the conditions hold meets them too: of the tree that was just
read, if one was, and of all open containers. -/
theorem holds_of_readFrom :
    ∀ (fuel : Nat) (stack : List Frame) (pending : Option Tree) (index : Nat) (t : Text)
      (s : Scanned Tree), (∀ f ∈ stack, f.Holds whole part key) → (∀ v ∈ pending, whole v) →
      readFrom dialect fuel stack pending index t = .ok s → whole s.value := by
  intro fuel stack pending index t
  -- one case for each row of the reader; rows that fail contradict the success
  fun_induction readFrom dialect fuel stack pending index t with
  | case1 | case2 | case4 | case7 | case12 | case15 | case16 | case19 => intro s _ _ h; cases h
  -- rows that read a value: a text, an empty sequence or map, or a word or number
  | case3 fuel stack index rest ih =>
    intro s hstack _ h
    obtain ⟨v, hv, h⟩ := Except.bind_eq_ok_iff.mp h
    refine ih v s hstack ?_ h
    rintro _ ⟨⟩
    exact (hd.string hv).2
  | case5 fuel stack index rest _ _ _ _ _ _ ih =>
    intro s hstack _ h
    refine ih s hstack ?_ h
    rintro _ ⟨⟩
    exact hd.array (List.forall_mem_nil _)
  | case6 fuel stack index rest _ _ _ _ _ _ ih =>
    intro s hstack _ h
    have hframe : (Frame.array []).Holds whole part key := List.forall_mem_nil _
    exact ih s (List.forall_mem_cons.mpr ⟨hframe, hstack⟩) (by simp) h
  | case8 fuel stack index rest _ _ _ _ _ _ _ ih =>
    intro s hstack _ h
    refine ih s hstack ?_ h
    rintro _ ⟨⟩
    exact hd.object hd.empty
  | case9 fuel stack index rest _ _ _ _ _ _ _ ih =>
    intro s hstack _ h
    obtain ⟨k, hk, h⟩ := Except.bind_eq_ok_iff.mp h
    have hframe : (Frame.object [] k.value).Holds whole part key :=
      ⟨key_of_scanKey hd hk, hd.empty⟩
    exact ih k s (List.forall_mem_cons.mpr ⟨hframe, hstack⟩) (by simp) h
  | case10 fuel stack index c rest _ _ _ ih =>
    intro s hstack _ h
    obtain ⟨v, hv, h⟩ := Except.bind_eq_ok_iff.mp h
    refine ih v s hstack ?_ h
    rintro _ ⟨⟩
    exact hd.plain hv
  -- rows that have a value and look where it belongs: at the end of the document, or in the
  -- innermost open container, which is closed or goes on
  | case11 fuel value index rest =>
    intro s _ hpending h
    rw [← Except.ok.inj h]
    exact hpending value rfl
  | case13 fuel done stack value index rest _ _ _ ih =>
    intro s hstack hpending h
    obtain ⟨hframe, hstack⟩ := List.forall_mem_cons.mp hstack
    refine ih s hstack ?_ h
    rintro _ ⟨⟩
    refine hd.array fun t ht => ?_
    rcases List.mem_cons.mp (List.mem_reverse.mp ht) with rfl | ht
    · exact hpending _ rfl
    · exact hframe t ht
  | case14 fuel done stack value index rest _ _ _ _ _ _ _ ih =>
    intro s hstack hpending h
    obtain ⟨hframe, hstack⟩ := List.forall_mem_cons.mp hstack
    have hnext : (Frame.array (value :: done)).Holds whole part key :=
      List.forall_mem_cons.mpr ⟨hpending value rfl, hframe⟩
    exact ih s (List.forall_mem_cons.mpr ⟨hnext, hstack⟩) (by simp) h
  | case17 fuel done k stack value index rest _ _ _ _ ih =>
    intro s hstack hpending h
    obtain ⟨hframe, hstack⟩ := List.forall_mem_cons.mp hstack
    refine ih s hstack ?_ h
    rintro _ ⟨⟩
    exact hd.object (hd.add hframe.1 hframe.2 (hpending value rfl))
  | case18 fuel done k stack value index rest _ _ _ _ _ _ _ _ ih =>
    intro s hstack hpending h
    obtain ⟨hframe, hstack⟩ := List.forall_mem_cons.mp hstack
    obtain ⟨next, hnext, h⟩ := Except.bind_eq_ok_iff.mp h
    have hadd := hd.add hframe.1 hframe.2 (hpending value rfl)
    exact ih next s (List.forall_mem_cons.mpr ⟨⟨key_of_scanKey hd hnext, hadd⟩, hstack⟩) (by simp) h

/-- What is read meets the condition on trees. -/
theorem holds_of_read {t : Text} {tree : Tree} (h : read dialect t = .ok tree) : whole tree := by
  unfold read at h
  cases hscan : scan dialect t with
  | error e => rw [hscan] at h; cases h
  | ok scanned =>
    rw [hscan] at h
    cases h
    unfold scan at hscan
    obtain ⟨v, hv, hscan⟩ := Except.bind_eq_ok_iff.mp hscan
    have hvalue : tree = v.value := by
      split at hscan
      split at hscan
      · exact (Except.ok.inj hscan).symm
      · cases hscan
    rw [hvalue]
    exact holds_of_readFrom hd _ [] none _ _ v (by simp) (by simp) hv

end

/-! ### Texts and keys -/

/-- A reading whose strings pass a test, and which keeps another one on the keys of a map. -/
structure Dialect.Keeps (dialect : Dialect) (text : Text → Prop) (keys : List Text → Prop) :
    Prop where
  string : ∀ {start index : Nat} {t : Text} {s : Scanned Text},
    scanString dialect start index [] t = .ok s → text s.value
  empty : keys []
  add : ∀ {key : Text} {value : Tree} {done : List (Text × Tree)}, keys (keysOf done) →
    keys (keysOf (if dialect.keepsRepeated then done ++ [(key, value)] else put key value done))

section

variable {text : Text → Prop} {keys : List Text → Prop}

/-- Words and numbers are leaves without texts. -/
theorem everywhere_of_scanPlain {dialect : Dialect} {index : Nat} {t : Text} {s : Scanned Tree}
    (h : scanPlain dialect index t = .ok s) : s.value.Everywhere text keys := by
  have hleaf : ∀ w ∈ literals, w.2.Everywhere text keys := by
    intro w hw
    simp only [literals, List.mem_cons, List.not_mem_nil, or_false] at hw
    rcases hw with rfl | rfl | rfl | rfl | rfl | rfl <;> simp [Tree.Everywhere]
  unfold scanPlain at h
  split at h
  · next word value hfind =>
    rw [← Except.ok.inj h]
    exact hleaf _ (List.mem_of_find?_eq_some hfind)
  · simp only [scanNumber] at h
    repeat' split at h
    all_goals first
      | (rw [← Except.ok.inj h]; simp [Tree.Everywhere])
      | cases h

/-- The two conditions hold of open maps and of trees at every step. -/
theorem Dialect.Keeps.invariant {dialect : Dialect} (hd : dialect.Keeps text keys) :
    dialect.Invariant (Tree.Everywhere text keys)
      (fun done => keys (keysOf done) ∧ ∀ e ∈ done, text e.1 ∧ e.2.Everywhere text keys) text where
  string h := ⟨hd.string h, everywhere_str.mpr (hd.string h)⟩
  plain := everywhere_of_scanPlain
  array := everywhere_array.mpr
  empty := ⟨hd.empty, List.forall_mem_nil _⟩
  add := by
    rintro k value done hk ⟨hkeys, hdone⟩ hvalue
    refine ⟨hd.add hkeys, ?_⟩
    split
    · exact List.forall_mem_append.mpr ⟨hdone, List.forall_mem_singleton.mpr ⟨hk, hvalue⟩⟩
    · exact everywhere_of_put hk hvalue hdone
  object := everywhere_object.mpr

/-- What a reading keeps holds throughout what it reads. -/
theorem everywhere_of_read {dialect : Dialect} (hd : dialect.Keeps text keys) {t : Text}
    {tree : Tree} (h : read dialect t = .ok tree) : tree.Everywhere text keys :=
  holds_of_read hd.invariant h

end

/-! ### Strict documents hold no surrogate -/

/-- A surrogate pair stands for a code point beyond all surrogates. -/
theorem isSurrogate_joinPair {high low : CodePoint} (hhigh : high.isHighSurrogate = true)
    (hlow : low.isLowSurrogate = true) : (CodePoint.joinPair high low).isSurrogate = false := by
  simp only [CodePoint.isHighSurrogate, CodePoint.isLowSurrogate, Bool.and_eq_true,
    decide_eq_true_eq] at hhigh hlow
  have hlt : 0x10000 + (high.val - 0xD800) * 0x400 + (low.val - 0xDC00) < 0x110000 := by omega
  simp only [CodePoint.joinPair, CodePoint.ofNat, hlt, dif_pos, CodePoint.isSurrogate,
    Bool.and_eq_false_iff, decide_eq_false_iff_not]
  omega

/-- A surrogate has no character of its own. -/
theorem toChar_of_isSurrogate {c : CodePoint} (h : c.isSurrogate = true) :
    c.toChar = Char.ofNat 0 := by
  simp only [CodePoint.isSurrogate, Bool.and_eq_true, decide_eq_true_eq] at h
  have hinvalid : ¬ c.val.isValidChar := by
    rintro (hlow | ⟨hhigh, -⟩) <;> omega
  rw [CodePoint.toChar, Char.ofNat, dif_neg hinvalid]
  rfl

/-- An escape of one letter stands for an ASCII code point. -/
theorem isSurrogate_of_escaped? {e c : CodePoint} (h : escaped? e = some c) :
    c.isSurrogate = false := by
  unfold escaped? at h
  split at h
  · next heq =>
    cases h
    cases hs : e.isSurrogate with
    | false => rfl
    | true =>
      rw [toChar_of_isSurrogate hs] at heq
      cases heq
  · cases h; decide
  · cases h; decide
  · cases h; decide
  · cases h; decide
  · cases h; decide
  · split at h
    · next heq =>
      cases h
      simp only [Bool.or_eq_true, decide_eq_true_eq] at heq
      rcases heq with rfl | rfl <;> decide
    · cases h

/-- Where lone surrogates are refused, what is passed is none. -/
theorem not_isSurrogate_of_passed {dialect : Dialect} (hd : dialect.loneSurrogates = false)
    {c : CodePoint} {e : ScanError} {x : Except ScanError (Scanned Text)} {s : Scanned Text}
    (h : (if c.isSurrogate && !dialect.loneSurrogates then .error e else x) = .ok s) :
    c.isSurrogate = false ∧ x = .ok s := by
  rw [hd] at h
  cases hs : c.isSurrogate with
  | false =>
    rw [hs] at h
    exact ⟨rfl, h⟩
  | true =>
    rw [hs] at h
    cases h

/-- A strict reading of a string adds no surrogate to what it has read of it. -/
theorem hasSurrogate_of_scanString {dialect : Dialect} (hd : dialect.loneSurrogates = false)
    {start : Nat} : ∀ (index : Nat) (done t : Text) (s : Scanned Text),
    done.hasSurrogate = false → scanString dialect start index done t = .ok s →
      s.value.hasSurrogate = false := by
  intro index done t
  -- a code point is added in five ways: alone after its escape, as a pair, by a letter, plainly
  fun_induction scanString dialect start index done t with
  | case1 | case3 | case4 | case5 | case11 | case13 | case14 | case15 => intro s _ h; cases h
  | case2 index done rest =>
    intro s hdone h
    cases h
    rw [Text.hasSurrogate_reverse]
    exact hdone
  | case6 index done _ _ _ _ _ high _ hpair _ _ _ _ _ _ low _ hlow _ _ ih =>
    intro s hdone h
    rw [Bool.and_eq_true] at hpair
    refine ih s ?_ h
    rw [Text.hasSurrogate_cons, isSurrogate_joinPair hpair.1 hlow, hdone]
    rfl
  | case7 index done _ _ _ _ _ high _ _ _ _ _ _ _ _ _ _ _ _ _ ih =>
    intro s hdone h
    obtain ⟨hhigh, h⟩ := not_isSurrogate_of_passed hd h
    exact ih s (by simp [hhigh, hdone]) h
  | case8 index done _ _ _ _ _ high _ _ _ _ _ _ _ _ _ _ _ _ ih =>
    intro s hdone h
    obtain ⟨hhigh, h⟩ := not_isSurrogate_of_passed hd h
    exact ih s (by simp [hhigh, hdone]) h
  | case9 index done _ _ _ _ _ _ high _ _ _ _ _ ih =>
    intro s hdone h
    obtain ⟨hhigh, h⟩ := not_isSurrogate_of_passed hd h
    exact ih s (by simp [hhigh, hdone]) h
  | case10 index done _ _ _ _ _ _ high _ _ _ _ ih =>
    intro s hdone h
    obtain ⟨hhigh, h⟩ := not_isSurrogate_of_passed hd h
    exact ih s (by simp [hhigh, hdone]) h
  | case12 index done _ _ _ c hc _ ih =>
    intro s hdone h
    exact ih s (by simp [isSurrogate_of_escaped? hc, hdone]) h
  | case16 index done c _ _ _ _ hc ih =>
    intro s hdone h
    have hplain : c.isSurrogate = false := by
      rw [hd] at hc
      simpa using hc
    exact ih s (by simp [hplain, hdone]) h

theorem strict_keeps : Dialect.strict.Keeps (fun t => t.hasSurrogate = false) (fun _ => True) where
  string h := hasSurrogate_of_scanString rfl _ _ _ _ rfl h
  empty := trivial
  add _ := trivial

/-- A strict document holds no surrogate. -/
theorem encodable_of_read_strict {t : Text} {tree : Tree} (h : read .strict t = .ok tree) :
    tree.Encodable :=
  everywhere_of_read strict_keeps h

/-! ### Lenient documents hold no key twice -/

theorem lenient_keeps (depth : Nat) :
    (Dialect.lenient depth).Keeps (fun _ => True) List.Nodup where
  string _ := trivial
  empty := List.nodup_nil
  add h := nodup_keysOf_put h

/-- A body that was read holds no map with a key twice. -/
theorem distinct_of_readBytes {depth : Nat} {bytes : Bytes} {tree : Tree}
    (h : readBytes depth bytes = .ok tree) : tree.Distinct := by
  unfold readBytes at h
  split at h
  · cases h
  · exact everywhere_of_read (lenient_keeps depth) h

/-! ### Numbers are as rounding gives them -/

/-- A double that was scanned comes of rounding. -/
theorem normalNumbers_of_scanPlain {dialect : Dialect} {index : Nat} {t : Text} {s : Scanned Tree}
    (h : scanPlain dialect index t = .ok s) : s.value.NormalNumbers := by
  have hleaf : ∀ w ∈ literals, w.2.NormalNumbers := by
    intro w hw
    simp only [literals, List.mem_cons, List.not_mem_nil, or_false] at hw
    rcases hw with rfl | rfl | rfl | rfl | rfl | rfl <;> simp [NormalNumbers, Double.Normal]
  unfold scanPlain at h
  split at h
  · next word value hfind =>
    rw [← Except.ok.inj h]
    exact hleaf _ (List.mem_of_find?_eq_some hfind)
  · simp only [scanNumber] at h
    repeat' split at h
    all_goals first
      | (rw [← Except.ok.inj h]; simp [NormalNumbers, Double.normal_ofDecimal])
      | cases h

/-- All numbers are as rounding gives them at every step. -/
theorem invariant_normalNumbers (dialect : Dialect) :
    dialect.Invariant NormalNumbers (fun done => ∀ e ∈ done, e.2.NormalNumbers) fun _ => True where
  string _ := ⟨trivial, by simp [NormalNumbers]⟩
  plain := normalNumbers_of_scanPlain
  array := normalNumbers_array.mpr
  empty := List.forall_mem_nil _
  add := by
    intro k value done _ hdone hvalue
    split
    · exact List.forall_mem_append.mpr ⟨hdone, List.forall_mem_singleton.mpr hvalue⟩
    · intro e he
      rcases mem_put he with rfl | he
      · exact hvalue
      · exact hdone e he
  object := normalNumbers_object.mpr

/-- A body that was read holds no map with a key twice, and only numbers that come of rounding. -/
theorem asRead_of_readBytes {depth : Nat} {bytes : Bytes} {tree : Tree}
    (h : readBytes depth bytes = .ok tree) : tree.AsRead := by
  refine ⟨distinct_of_readBytes h, ?_⟩
  unfold readBytes at h
  split at h
  · cases h
  · exact holds_of_read (invariant_normalNumbers (.lenient depth)) h

end AdmissionLedger.Json
