import AdmissionLedger.Text.CodePoint

/-!
# Punycode

A text is written in ASCII as its own ASCII code points, a hyphen, and a list of
numbers: the other code points in rising order, each by the distance to the one
before in the grid of all places and code points.  The numbers have digits of base
36 whose weights adapt to the size of the last number.

## Main definitions

* `Punycode.encode`, `Punycode.decode?` — writing and reading.
-/

namespace AdmissionLedger.Punycode

/-! ### Numbers -/

/-- The first code point that is written as a number. -/
def firstPoint : Nat := 0x80

/-- The bias before the first number. -/
def firstBias : Nat := 72

/-- A digit below the threshold of its place ends a number.  Places count from zero. -/
def threshold (place bias : Nat) : Nat :=
  min 26 (max 1 (36 * (place + 1) - bias))

theorem one_le_threshold (place bias : Nat) : 1 ≤ threshold place bias := by
  simp only [threshold]
  omega

/-- Divides by 35 until at most 455 is left; the number of steps times 36, and what is left. -/
def scale (steps delta : Nat) : Nat × Nat :=
  if 455 < delta then scale (steps + 36) (delta / 35) else (steps, delta)
termination_by delta

/-- The bias after a number, when `count` code points are in place. -/
def adapt (delta : Nat) (isFirst : Bool) (count : Nat) : Nat :=
  let delta := if isFirst then delta / 700 else delta / 2
  let (steps, rest) := scale 0 (delta + delta / count)
  steps + 36 * rest / (rest + 38)

/-- A digit: letters for 0 to 25, then the decimal digits. -/
def digit (n : Nat) : CodePoint :=
  if n < 26 then .ofNat (0x61 + n) else .ofNat (0x30 + (n - 26))

/-- The value of a digit, in either case. -/
def digitValue? (c : CodePoint) : Option Nat :=
  if 0x61 ≤ c.val && c.val ≤ 0x7A then some (c.val - 0x61)
  else if 0x41 ≤ c.val && c.val ≤ 0x5A then some (c.val - 0x41)
  else if c.isDigit then some (c.val - 0x30 + 26)
  else none

/-- The digits of a number from a place on. -/
def digits (bias place n : Nat) : Text :=
  let t := threshold place bias
  if n < t then [digit n]
  else digit (t + (n - t) % (36 - t)) :: digits bias (place + 1) ((n - t) / (36 - t))
termination_by n
decreasing_by
  have := one_le_threshold place bias
  have := Nat.div_le_self (n - threshold place bias) (36 - threshold place bias)
  omega

/-- The number at the start of a text, and the rest; `weight` is that of the next digit. -/
def readNumber? (bias : Nat) : (place weight total : Nat) → Text → Option (Nat × Text)
  | _, _, _, [] => none
  | place, weight, total, c :: rest =>
    match digitValue? c with
    | none => none
    | some n =>
      let t := threshold place bias
      let total := total + n * weight
      if n < t then some (total, rest)
      else readNumber? bias (place + 1) (weight * (36 - t)) total rest

/-- A number takes at least one digit. -/
theorem readNumber?_length {bias place weight total n : Nat} {t rest : Text}
    (h : readNumber? bias place weight total t = some (n, rest)) : rest.length < t.length := by
  induction t generalizing place weight total with
  | nil => simp [readNumber?] at h
  | cons c t ih =>
    rw [readNumber?] at h
    split at h
    · simp at h
    · simp only at h
      split at h
      · obtain ⟨-, rfl⟩ := Prod.mk.inj (Option.some.inj h)
        simp
      · have := ih h
        simp only [List.length_cons]
        omega

/-! ### Writing -/

/-- What is written while the text is passed over. -/
structure Writer where
  /-- The distance since the last number. -/
  delta : Nat
  bias : Nat
  /-- How many code points are in place. -/
  count : Nat
  isFirst : Bool
  written : Text

/-- Passes over one code point while those of the number `point` are put in place. -/
def Writer.pass (point : Nat) (w : Writer) (c : CodePoint) : Writer :=
  if c.val < point then { w with delta := w.delta + 1 }
  else if c.val = point then
    { delta := 0, bias := adapt w.delta w.isFirst (w.count + 1), count := w.count + 1,
      isFirst := false, written := w.written ++ digits w.bias 0 w.delta }
  else w

/-- Passes over a text once for each of some code points, given in rising order; `next` is the least
code point that may be put in place. -/
def Writer.run (t : Text) : (next : Nat) → List Nat → Writer → Writer
  | _, [], w => w
  | next, point :: rest, w =>
    let w := { w with delta := w.delta + (point - next) * (w.count + 1) }
    let w := t.foldl (Writer.pass point) w
    run t (point + 1) rest { w with delta := w.delta + 1 }

/-- The numbers of a list in rising order, each once. -/
def rising (ns : List Nat) : List Nat :=
  (ns.mergeSort (· ≤ ·)).eraseReps

/-- A text in ASCII. -/
def encode (t : Text) : Text :=
  let basic := t.filter (·.val < firstPoint)
  let others := (t.map CodePoint.val).filter (firstPoint ≤ ·)
  let start : Writer := ⟨0, firstBias, basic.length, true, []⟩
  let numbers := (Writer.run t firstPoint (rising others) start).written
  if basic.isEmpty then numbers else basic ++ CodePoint.ofChar '-' :: numbers

/-! ### Reading -/

/-- Puts the code points of some numbers into a text, one after the other.  `point` was put in place
last, before `index`. -/
def insertAll (point index bias : Nat) (isFirst : Bool) (done : Text) (t : Text) : Option Text :=
  match h : readNumber? bias 0 1 0 t with
  | none => if t.isEmpty then some done else none
  | some (delta, rest) =>
    let places := done.length + 1
    let index := index + delta
    let point := point + index / places
    if hp : point < 0x110000 then
      let done := done.insertIdx (index % places) ⟨point, hp⟩
      insertAll point (index % places + 1) (adapt delta isFirst places) false done rest
    else none
termination_by t.length
decreasing_by exact readNumber?_length h

/-- The text that is written in ASCII; the last hyphen divides it. -/
def decode? (t : Text) : Option Text :=
  let numbers := (t.reverse.takeWhile (· ≠ CodePoint.ofChar '-')).reverse
  let basic := t.take (t.length - numbers.length - 1)
  insertAll firstPoint 0 firstBias true basic numbers

end AdmissionLedger.Punycode
