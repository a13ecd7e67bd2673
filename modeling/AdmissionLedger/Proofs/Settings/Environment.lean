import AdmissionLedger.Proofs.Text.Split
import AdmissionLedger.Settings.Environment

/-!
# Variables

A variable that holds a number is read unless its text is no integer, and whatever integer
that is, the nearest number of the range is taken.  A variable that holds a document never
fails: a document that is not valid counts as none, and is warned of.  A variable that
holds a list is taken apart at its commas, and blank items do not count.

## Main definitions

* `Bounds.Nearest` — a number of a range that is nearest to another one.
* `Environment.Gives` — the integer that a variable gives before its range counts.
* `Environment.Refused` — a variable whose text is no integer.
* `Environment.Reads` — what a variable with a document gives, and what is said about it.
* `Environment.Lists` — the items that a variable lists.

## Main results

* `Environment.number_eq_ok_iff`, `Environment.number_eq_error_iff` — the number of a variable.
* `Environment.reads_document` — the document of a variable.
* `Environment.lists_list` — the items of a variable.
-/

namespace AdmissionLedger

/-! ### Ranges -/

/-- A number of a range: the given one if that is in the range, and else the nearest bound. -/
structure Bounds.Nearest (b : Bounds) (given n : Int) : Prop where
  least_le : b.least ≤ n
  le_most : ∀ most ∈ b.most, n ≤ most
  eq_given : b.least ≤ given → (∀ most ∈ b.most, given ≤ most) → n = given
  eq_least : given < b.least → n = b.least
  eq_most : ∀ most ∈ b.most, most < given → n = most

theorem Bounds.nearest_clamp {b : Bounds} (hb : ∀ most ∈ b.most, b.least ≤ most) (given : Int) :
    b.Nearest given (b.clamp given) := by
  obtain ⟨least, most⟩ := b
  cases most with
  | none =>
    simp only [clamp]
    constructor <;> simp only [Option.mem_def, reduceCtorEq, false_implies, implies_true] <;> omega
  | some most =>
    have hle : least ≤ most := hb most rfl
    simp only [clamp]
    constructor <;> simp only [Option.mem_def, Option.some.injEq, forall_eq'] <;> omega

namespace Environment

variable {env : Environment} {key : String}

/-! ### Numbers -/

/-- The integer that a variable gives before its range counts. -/
def Gives (env : Environment) (key : String) (default n : Int) : Prop :=
  match env.lookup (fullName key) with
  | none => n = default
  | some value => value.readInt = .ok n

/-- A variable is set to a text that is no integer. -/
def Refused (env : Environment) (key : String) : Prop :=
  ∃ value fault, env.lookup (fullName key) = some value ∧ value.readInt = .error fault

theorem number_eq_ok_iff {default n : Int} {b : Bounds} :
    env.number key default b = .ok n ↔
      ∃ given, env.Gives key default given ∧ b.clamp given = n := by
  unfold number Gives
  cases env.lookup (fullName key) with
  | none => simp
  | some value => cases hread : value.readInt <;> simp [hread]

theorem number_eq_error_iff {default : Int} {b : Bounds} :
    (∃ e, env.number key default b = .error e) ↔ env.Refused key := by
  unfold number Refused
  cases env.lookup (fullName key) with
  | none => simp
  | some value => cases hread : value.readInt <;> simp [hread]

theorem not_refused_of_number {default n : Int} {b : Bounds}
    (h : env.number key default b = .ok n) : ¬ env.Refused key := by
  intro hrefused
  obtain ⟨e, he⟩ := number_eq_error_iff.mpr hrefused
  rw [h] at he
  cases he

/-- A variable that is read gives a number in its range. -/
theorem nearest_of_number {default n : Int} {b : Bounds} (hb : ∀ most ∈ b.most, b.least ≤ most)
    (h : env.number key default b = .ok n) :
    ∃ given, env.Gives key default given ∧ b.Nearest given n := by
  obtain ⟨given, hgives, rfl⟩ := number_eq_ok_iff.mp h
  exact ⟨given, hgives, Bounds.nearest_clamp hb given⟩

/-! ### Documents -/

/-- What a variable with a document gives, and what is said about it. -/
structure Reads {α : Type} (env : Environment) (key : String) (ofText : Text → Check α)
    (result : Option α) (log : List Log.Entry) : Prop where
  blank : (env.read key).strip = [] → result = none ∧ log = []
  valid : ∀ document, (env.read key).strip ≠ [] → ofText (env.read key).strip = .ok document →
    result = some document ∧ log = []
  invalid : ∀ faults, (env.read key).strip ≠ [] → ofText (env.read key).strip = .bad faults →
    result = none ∧ log = [invalidEntry key]

theorem reads_document {α : Type} (env : Environment) (key : String) (ofText : Text → Check α) :
    env.Reads key ofText (env.document key ofText).value (env.document key ofText).log := by
  unfold document
  constructor
  · intro h
    simp [h]
  · intro document hblank h
    simp [hblank, h]
  · intro faults hblank h
    simp only [List.isEmpty_iff, hblank, if_false, h]
    exact ⟨rfl, rfl⟩

/-! ### Lists -/

/-- The items that a variable lists: what stands between its commas, without the blanks around it,
unless nothing is left. -/
def Lists (env : Environment) (key : String) (items : List Text) : Prop :=
  ∃ pieces, Text.Parted (.ofChar ',') (env.read key) pieces ∧
    items = (pieces.map Text.strip).filter (· ≠ [])

theorem lists_list (env : Environment) (key : String) : env.Lists key (env.list key) := by
  refine ⟨_, Text.parted_iff.mpr rfl, List.filter_congr fun item _ => ?_⟩
  cases item <;> simp

end Environment

end AdmissionLedger
