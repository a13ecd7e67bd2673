import AdmissionLedger.Proofs.Json.Units
import AdmissionLedger.Proofs.Json.Written
import AdmissionLedger.Proofs.Number.Written
import AdmissionLedger.Proofs.Tree.Numbers

/-!
# Trees that are written alike

In ASCII a tree is written so that its text tells where each part ends.  So trees with
finite numbers are written alike only if they are the same, but for texts, of which only
the 16-bit units are written.

## Main definitions

* `Tree.units` — a tree with all its texts in 16-bit units.

## Main results

* `Tree.units_eq_of_write_append` — written trees can be told from what follows them, and tell
  the tree up to units.
* `Tree.write_eq_write_iff` — two trees are written alike exactly if they have the same units.
-/

namespace AdmissionLedger.Tree

open Json

/-! ### Units -/

mutual

/-- A tree with all its texts, values and keys, in 16-bit units. -/
def units : Tree → Tree
  | .str t => .str t.units
  | .array items => .array (itemsUnits items)
  | .object entries => .object (entriesUnits entries)
  | t => t

/-- The items of a sequence in units. -/
def itemsUnits : List Tree → List Tree
  | [] => []
  | item :: rest => units item :: itemsUnits rest

/-- The entries of a map in units. -/
def entriesUnits : List (Text × Tree) → List (Text × Tree)
  | [] => []
  | (key, value) :: rest => (key.units, units value) :: entriesUnits rest

end

/-- An entry of a map in units. -/
def entryUnits (e : Text × Tree) : Text × Tree := (e.1.units, units e.2)

theorem units_array (items : List Tree) : units (.array items) = .array (items.map units) := by
  rw [units]
  congr 1
  induction items with
  | nil => rfl
  | cons item rest ih => rw [itemsUnits, ih, List.map_cons]

theorem units_object (entries : List (Text × Tree)) :
    units (.object entries) = .object (entries.map entryUnits) := by
  rw [units]
  congr 1
  induction entries with
  | nil => rfl
  | cons e rest ih =>
    obtain ⟨key, value⟩ := e
    rw [entriesUnits, ih, List.map_cons, entryUnits]

/-! ### What a written tree begins with -/

/-- What a number is written with. -/
def isNumeric (c : CodePoint) : Bool :=
  c.isDigit || Double.numericMarks.contains c

/-- The forms in which trees are written, numbers being of one form. -/
inductive Form
  | null
  | bool
  | str
  | array
  | object
  | number
  deriving DecidableEq

/-- The form of a tree. -/
def form : Tree → Form
  | .null => .null
  | .bool _ => .bool
  | .int _ => .number
  | .float _ => .number
  | .str _ => .str
  | .array _ => .array
  | .object _ => .object

/-- The form that a code point opens. -/
def formOf? (c : CodePoint) : Option Form :=
  if c = ↑ 'n' then some .null
  else if c = ↑ 't' || c = ↑ 'f' then some .bool
  else if c = .doubleQuote then some .str
  else if c = ↑ '[' then some .array
  else if c = .openBrace then some .object
  else if isNumeric c then some .number
  else none

/-- What follows a written tree: nothing, or no part of a number. -/
def Ends (rest : Text) : Prop := ∀ c ∈ rest.head?, isNumeric c = false

theorem isNumeric_of_isDigit {c : CodePoint} (h : c.isDigit = true) : isNumeric c = true := by
  rw [isNumeric, h, Bool.true_or]

theorem isNumeric_of_mem_marks {c : CodePoint} (h : c ∈ Double.numericMarks) :
    isNumeric c = true := by
  rw [isNumeric, List.contains_iff_mem.mpr h, Bool.or_true]

theorem formOf?_of_isNumeric {c : CodePoint} (h : isNumeric c = true) :
    formOf? c = some .number := by
  have hne : ∀ d : CodePoint, isNumeric d = false → c ≠ d := by
    rintro d hd rfl
    rw [h] at hd
    cases hd
  simp [formOf?, hne (↑ 'n') (by decide), hne (↑ 't') (by decide), hne (↑ 'f') (by decide),
    hne .doubleQuote (by decide), hne (↑ '[') (by decide), hne .openBrace (by decide), h]

theorem isNumeric_of_mem_ofInt {n : Int} {c : CodePoint} (h : c ∈ Text.ofInt n) :
    isNumeric c = true := by
  cases n with
  | ofNat n => exact isNumeric_of_isDigit (Text.isDigit_of_mem_decimal h)
  | negSucc n =>
    rcases List.mem_cons.mp h with rfl | h
    · decide
    · exact isNumeric_of_isDigit (Text.isDigit_of_mem_decimal h)

/-- A finite double is written as a decimal, with or without a minus. -/
theorem exists_isDecimal_of_isFinite {x : Double} (hx : x.isFinite = true) :
    ∃ sign t, x.toText = sign ++ t ∧ (∀ c ∈ sign, c = ↑ '-') ∧ Double.IsDecimal t := by
  cases x with
  | nan => cases hx
  | infinite s => cases hx
  | finite s m e =>
    refine ⟨_, _, Double.toText_finite s m e, ?_, Double.isDecimal_unsignedText m e⟩
    cases s <;> decide

theorem isNumeric_of_mem_toText {x : Double} (hx : x.isFinite = true) {c : CodePoint}
    (h : c ∈ x.toText) : isNumeric c = true := by
  obtain ⟨sign, t, htext, hsign, whole, mark, tail, rfl, -, hwhole, hmark, htail⟩ :=
    exists_isDecimal_of_isFinite hx
  rw [htext, List.mem_append, List.mem_append, List.mem_cons] at h
  rcases h with h | h | rfl | h
  · rw [hsign c h]
    decide
  · exact isNumeric_of_isDigit (hwhole c h)
  · rcases hmark with rfl | rfl <;> decide
  · exact (htail c h).elim isNumeric_of_isDigit isNumeric_of_mem_marks

/-- An integer is written without a point or an exponent. -/
theorem ofInt_ne_toText (n : Int) {x : Double} (hx : x.isFinite = true) :
    Text.ofInt n ≠ x.toText := by
  obtain ⟨sign, t, htext, -, whole, mark, tail, rfl, -, -, hmark, -⟩ :=
    exists_isDecimal_of_isFinite hx
  intro h
  have hmem : mark ∈ Text.ofInt n := by
    rw [h, htext]
    simp
  have hint : mark.isDigit = true ∨ mark = ↑ '-' := by
    cases n with
    | ofNat n => exact .inl (Text.isDigit_of_mem_decimal hmem)
    | negSucc n => exact (List.mem_cons.mp hmem).symm.imp_left Text.isDigit_of_mem_decimal
  rcases hmark with rfl | rfl <;> revert hint <;> decide

theorem toText_ne_nil {x : Double} (hx : x.isFinite = true) : x.toText ≠ [] := by
  obtain ⟨sign, t, htext, -, whole, mark, tail, rfl, -, -, -, -⟩ := exists_isDecimal_of_isFinite hx
  rw [htext]
  simp

theorem ofInt_ne_nil (n : Int) : Text.ofInt n ≠ [] := by
  cases n with
  | ofNat n => exact Text.decimal_ne_nil n
  | negSucc n => exact List.cons_ne_nil _ _

theorem writeDouble_of_isFinite {x : Double} (hx : x.isFinite = true) :
    writeDouble x = x.toText := by
  cases x with
  | nan => cases hx
  | infinite s => cases hx
  | finite s m e => rfl

/-- A written number has nothing but parts of numbers. -/
theorem isNumeric_of_mem_write {t : Tree} (hform : t.form = .number) (ht : t.isFinite = true) :
    ∀ c ∈ write .ascii t, isNumeric c = true := by
  intro c hc
  cases t with
  | int n => exact isNumeric_of_mem_ofInt hc
  | float x =>
    rw [write, writeDouble_of_isFinite ht] at hc
    exact isNumeric_of_mem_toText ht hc
  | _ => cases hform

/-- A written tree begins with what its form begins with. -/
theorem exists_head_write {t : Tree} (ht : t.isFinite = true) :
    ∃ c rest, write .ascii t = c :: rest ∧ formOf? c = some t.form := by
  have hnumber : ∀ u : Text, u ≠ [] → (∀ c ∈ u, isNumeric c = true) →
      ∃ c rest, u = c :: rest ∧ formOf? c = some .number := by
    intro u hne hu
    obtain ⟨c, rest, rfl⟩ := List.exists_cons_of_ne_nil hne
    exact ⟨c, rest, rfl, formOf?_of_isNumeric (hu c List.mem_cons_self)⟩
  cases t with
  | null => exact ⟨↑ 'n', _, rfl, by decide⟩
  | bool b =>
    cases b with
    | true => exact ⟨↑ 't', _, rfl, by decide⟩
    | false => exact ⟨↑ 'f', _, rfl, by decide⟩
  | int n => exact hnumber _ (ofInt_ne_nil n) fun c => isNumeric_of_mem_ofInt
  | float x =>
    rw [write, writeDouble_of_isFinite ht]
    exact hnumber _ (toText_ne_nil ht) fun c => isNumeric_of_mem_toText ht
  | str t => exact ⟨.doubleQuote, _, rfl, show formOf? .doubleQuote = some .str by decide⟩
  | array items => exact ⟨↑ '[', _, rfl, show formOf? (↑ '[') = some .array by decide⟩
  | object entries => exact ⟨.openBrace, _, rfl, show formOf? .openBrace = some .object by decide⟩

/-- Trees that are written alike, up to what follows them, are of one form. -/
theorem form_eq_of_write {a b : Tree} (ha : a.isFinite = true) (hb : b.isFinite = true)
    {rest rest' : Text} (h : write .ascii a ++ rest = write .ascii b ++ rest') :
    a.form = b.form := by
  obtain ⟨c, t, hc, hform⟩ := exists_head_write ha
  obtain ⟨c', t', hc', hform'⟩ := exists_head_write hb
  rw [hc, hc'] at h
  rw [(List.cons.inj h).1, hform'] at hform
  exact (Option.some.inj hform).symm

/-- A tree is not written with the end of a container first. -/
theorem write_append_ne_cons {t : Tree} (ht : t.isFinite = true) {c : CodePoint}
    (hc : formOf? c = none) (rest rest' : Text) : write .ascii t ++ rest ≠ c :: rest' := by
  obtain ⟨c', t', hc', hform⟩ := exists_head_write ht
  intro h
  rw [hc'] at h
  rw [(List.cons.inj h).1, hc] at hform
  cases hform

/-- Numbers end where what follows begins. -/
theorem numeric_append_inj {u v rest rest' : Text} (hu : ∀ c ∈ u, isNumeric c = true)
    (hv : ∀ c ∈ v, isNumeric c = true) (hrest : Ends rest) (hrest' : Ends rest')
    (h : u ++ rest = v ++ rest') : u = v ∧ rest = rest' := by
  have htake : ∀ u rest : Text, (∀ c ∈ u, isNumeric c = true) → Ends rest →
      (u ++ rest).takeWhile isNumeric = u := by
    intro u rest hu hrest
    rw [List.takeWhile_append_of_pos hu]
    cases rest with
    | nil => simp
    | cons c rest => simp [hrest c rfl]
  have heq := congrArg (List.takeWhile isNumeric) h
  rw [htake u rest hu hrest, htake v rest' hv hrest'] at heq
  subst heq
  exact ⟨rfl, List.append_cancel_left h⟩

/-! ### The parts of containers -/

section

variable {α β : Type} (part : α → Text) (close : CodePoint)

/-- What follows the first part of a container: the other parts behind commas, and its end. -/
def following : List α → Text → Text
  | [], rest => close :: rest
  | a :: as, rest => ↑ ',' :: (part a ++ following as rest)

variable {part close}

theorem join_append_close (a : α) (as : List α) (rest : Text) :
    Text.join "," ((a :: as).map part) ++ close :: rest =
      part a ++ following part close as rest := by
  induction as generalizing a with
  | nil => rfl
  | cons b as ih =>
    have hjoin : Text.join "," ((a :: b :: as).map part)
        = part a ++ ↑ ',' :: Text.join "," ((b :: as).map part) := by
      simp only [List.map_cons, Text.join, List.append_assoc]
      rfl
    rw [hjoin, List.append_assoc, List.cons_append, ih, following]

theorem ends_following (hclose : isNumeric close = false) (as : List α) (rest : Text) :
    Ends (following part close as rest) := by
  cases as with
  | nil =>
    rintro c hc
    cases hc
    exact hclose
  | cons a as =>
    rintro c hc
    cases hc
    decide

variable {as bs : List α} (view : α → β)
  (hpart : ∀ a ∈ as, ∀ b ∈ bs, ∀ rest rest', Ends rest → Ends rest' →
    part a ++ rest = part b ++ rest' → view a = view b ∧ rest = rest')
  (hclose : isNumeric close = false) (hcomma : close ≠ ↑ ',')

include hpart hclose hcomma

/-- Parts that can be told from what follows them can be told from each other. -/
theorem following_inj {rest rest' : Text}
    (h : following part close as rest = following part close bs rest') :
    as.map view = bs.map view ∧ rest = rest' := by
  induction as generalizing bs with
  | nil =>
    cases bs with
    | nil => exact ⟨rfl, (List.cons.inj h).2⟩
    | cons b bs => exact absurd (List.cons.inj h).1 hcomma
  | cons a as ih =>
    cases bs with
    | nil => exact absurd (List.cons.inj h).1.symm hcomma
    | cons b bs =>
      obtain ⟨hview, hnext⟩ := hpart a List.mem_cons_self b List.mem_cons_self _ _
        (ends_following hclose as rest) (ends_following hclose bs rest') (List.cons.inj h).2
      obtain ⟨hviews, hrest⟩ := ih (fun a ha b hb => hpart a (List.mem_cons_of_mem _ ha) b
        (List.mem_cons_of_mem _ hb)) hnext
      exact ⟨by rw [List.map_cons, List.map_cons, hview, hviews], hrest⟩

theorem join_append_inj (has : ∀ a ∈ as, ∀ rest rest', part a ++ rest ≠ close :: rest')
    (hbs : ∀ b ∈ bs, ∀ rest rest', part b ++ rest ≠ close :: rest') {rest rest' : Text}
    (h : Text.join "," (as.map part) ++ close :: rest =
      Text.join "," (bs.map part) ++ close :: rest') :
    as.map view = bs.map view ∧ rest = rest' := by
  cases as with
  | nil =>
    cases bs with
    | nil => exact ⟨rfl, (List.cons.inj h).2⟩
    | cons b bs =>
      rw [join_append_close] at h
      exact absurd h.symm (hbs b List.mem_cons_self _ _)
  | cons a as =>
    rw [join_append_close] at h
    cases bs with
    | nil => exact absurd h (has a List.mem_cons_self _ _)
    | cons b bs =>
      rw [join_append_close] at h
      obtain ⟨hview, hnext⟩ := hpart a List.mem_cons_self b List.mem_cons_self _ _
        (ends_following hclose as rest) (ends_following hclose bs rest') h
      obtain ⟨hviews, hrest⟩ := following_inj view (fun a ha b hb => hpart a
        (List.mem_cons_of_mem _ ha) b (List.mem_cons_of_mem _ hb)) hclose hcomma hnext
      exact ⟨by rw [List.map_cons, List.map_cons, hview, hviews], hrest⟩

end

/-! ### Trees -/

theorem write_array_append (items : List Tree) (rest : Text) :
    write .ascii (.array items) ++ rest =
      ↑ '[' :: (Text.join "," (items.map (write .ascii)) ++ ↑ ']' :: rest) := by
  rw [write, writeItems_eq_join]
  simp

theorem write_object_append (entries : List (Text × Tree)) (rest : Text) :
    write .ascii (.object entries) ++ rest =
      .openBrace :: (Text.join "," (entries.map (writeEntry .ascii)) ++ .closeBrace :: rest) := by
  rw [write, writeEntries_eq_join]
  simp

/-- Numbers that are written alike are the same: an integer is never written as a double is. -/
theorem units_eq_of_write_append_number {a b : Tree} (hforma : a.form = .number)
    (hformb : b.form = .number) (ha : a.isFinite = true) (hb : b.isFinite = true)
    (hna : a.NormalNumbers) (hnb : b.NormalNumbers) {rest rest' : Text} (hrest : Ends rest)
    (hrest' : Ends rest') (h : write .ascii a ++ rest = write .ascii b ++ rest') :
    a.units = b.units ∧ rest = rest' := by
  obtain ⟨htext, hrest⟩ := numeric_append_inj (isNumeric_of_mem_write hforma ha)
    (isNumeric_of_mem_write hformb hb) hrest hrest' h
  refine ⟨congrArg units ?_, hrest⟩
  cases a <;> cases hforma <;> cases b <;> cases hformb
  · exact congrArg int (Text.ofInt_injective htext)
  · rw [write, write, writeDouble_of_isFinite hb] at htext
    exact absurd htext (ofInt_ne_toText _ hb)
  · rw [write, write, writeDouble_of_isFinite ha] at htext
    exact absurd htext.symm (ofInt_ne_toText _ ha)
  · rw [write, write, writeDouble_of_isFinite ha, writeDouble_of_isFinite hb] at htext
    rw [normalNumbers_float] at hna hnb
    exact congrArg float (Double.toText_injective hna hnb ha hb htext)

/-- An entry can be told from what follows it if its value can. -/
theorem entryUnits_eq_of_writeEntry_append {e e' : Text × Tree} {rest rest' : Text}
    (hvalue : write .ascii e.2 ++ rest = write .ascii e'.2 ++ rest' →
      e.2.units = e'.2.units ∧ rest = rest')
    (h : writeEntry .ascii e ++ rest = writeEntry .ascii e' ++ rest') :
    entryUnits e = entryUnits e' ∧ rest = rest' := by
  rw [writeEntry, writeEntry, List.append_assoc, List.append_assoc] at h
  -- the key is a string, which tells where it ends, and then the colon follows
  obtain ⟨hname, hcolon⟩ := writeString_append_inj h
  obtain ⟨hunits, hrest⟩ := hvalue (List.cons.inj hcolon).2
  exact ⟨by rw [entryUnits, entryUnits, hname, hunits], hrest⟩

/-- Written trees can be told from what follows them, and tell the tree up to units. -/
theorem units_eq_of_write_append {a b : Tree} (ha : a.isFinite = true) (hb : b.isFinite = true)
    (hna : a.NormalNumbers) (hnb : b.NormalNumbers) {rest rest' : Text} (hrest : Ends rest)
    (hrest' : Ends rest') (h : write .ascii a ++ rest = write .ascii b ++ rest') :
    a.units = b.units ∧ rest = rest' := by
  induction a using nested_induction generalizing b rest rest' with
  | null =>
    have hform := form_eq_of_write ha hb h
    cases b <;> cases hform
    exact ⟨rfl, List.append_cancel_left h⟩
  | bool x =>
    have hform := form_eq_of_write ha hb h
    cases b <;> cases hform
    next y =>
    cases x <;> cases y
    · exact ⟨rfl, List.append_cancel_left h⟩
    · exact absurd (List.cons.inj h).1 (by decide)
    · exact absurd (List.cons.inj h).1 (by decide)
    · exact ⟨rfl, List.append_cancel_left h⟩
  | int n =>
    exact units_eq_of_write_append_number rfl (form_eq_of_write ha hb h).symm ha hb hna hnb hrest
      hrest' h
  | float x =>
    exact units_eq_of_write_append_number rfl (form_eq_of_write ha hb h).symm ha hb hna hnb hrest
      hrest' h
  | str t =>
    have hform := form_eq_of_write ha hb h
    cases b <;> cases hform
    next t' =>
    obtain ⟨hunits, hrest⟩ := writeString_append_inj h
    exact ⟨by rw [units, units, hunits], hrest⟩
  | array items ih =>
    have hform := form_eq_of_write ha hb h
    cases b <;> cases hform
    next items' =>
    rw [isFinite_array] at ha hb
    rw [normalNumbers_array] at hna hnb
    rw [write_array_append, write_array_append] at h
    have hclose : formOf? (↑ ']') = none := by decide
    obtain ⟨hunits, hrest⟩ := join_append_inj units
      (fun t ht t' ht' _ _ hr hr' => ih t ht (ha t ht) (hb t' ht') (hna t ht) (hnb t' ht') hr hr')
      (by decide) (by decide) (fun t ht => write_append_ne_cons (ha t ht) hclose)
      (fun t ht => write_append_ne_cons (hb t ht) hclose) (List.cons.inj h).2
    exact ⟨by rw [units_array, units_array, hunits], hrest⟩
  | object entries ih =>
    have hform := form_eq_of_write ha hb h
    cases b <;> cases hform
    next entries' =>
    rw [isFinite_object] at ha hb
    rw [normalNumbers_object] at hna hnb
    rw [write_object_append, write_object_append] at h
    have hopen : ∀ (e : Text × Tree) (rest rest' : Text),
        writeEntry .ascii e ++ rest ≠ .closeBrace :: rest' :=
      fun e rest rest' heq => absurd (List.cons.inj heq).1 (by decide)
    obtain ⟨hunits, hrest⟩ := join_append_inj entryUnits
      (fun e he e' he' _ _ hr hr' => entryUnits_eq_of_writeEntry_append
        (ih e he (ha e he) (hb e' he') (hna e he) (hnb e' he') hr hr'))
      (by decide) (by decide) (fun e _ => hopen e) (fun e _ => hopen e) (List.cons.inj h).2
    exact ⟨by rw [units_object, units_object, hunits], hrest⟩

/-- A tree is written by its units. -/
theorem write_units (t : Tree) : write .ascii t.units = write .ascii t := by
  induction t using nested_induction with
  | str t => rw [units, write, write, writeString_units]
  | array items ih =>
    rw [units_array, write, write, writeItems_eq_join, writeItems_eq_join, List.map_map]
    have hitems : items.map (write .ascii ∘ units) = items.map (write .ascii) :=
      List.map_congr_left ih
    rw [hitems]
  | object entries ih =>
    rw [units_object, write, write, writeEntries_eq_join, writeEntries_eq_join, List.map_map]
    have hentries : entries.map (writeEntry .ascii ∘ entryUnits) =
        entries.map (writeEntry .ascii) := by
      refine List.map_congr_left fun e he => ?_
      rw [Function.comp_apply, writeEntry, writeEntry, entryUnits, writeString_units, ih e he]
    rw [hentries]
  | _ => rfl

/-- Two trees are written alike exactly if they have the same units. -/
theorem write_eq_write_iff {a b : Tree} (ha : a.isFinite = true) (hb : b.isFinite = true)
    (hna : a.NormalNumbers) (hnb : b.NormalNumbers) :
    write .ascii a = write .ascii b ↔ a.units = b.units := by
  constructor
  · intro h
    have hends : Ends [] := by
      intro c hc
      cases hc
    exact (units_eq_of_write_append ha hb hna hnb hends hends (by rw [h])).1
  · intro h
    rw [← write_units a, h, write_units]

end AdmissionLedger.Tree
