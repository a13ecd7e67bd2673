import AdmissionLedger.Text.CodePoint
import AdmissionLedger.Text.CompositionTable

/-!
# Composed texts

Many letters with marks can be written as one code point or as several.  A text is
composed if it uses the one wherever there is one, with the marks that are left in
their canonical order.

## Main definitions

* `Composition.decompose`, `Composition.order`, `Composition.compose` — the three steps.
* `Text.isComposed` — whether composing leaves a text as it is.
-/

namespace AdmissionLedger

namespace Composition

/-- The class of a mark; all other code points have class zero. -/
def markClass (n : Nat) : Nat :=
  ((CompositionTable.classes.find? fun row => row.1 ≤ n && n ≤ row.2.1).map (·.2.2)).getD 0

/-! ### Syllables of three letters

The composites of Korean letters follow a rule: a leading letter and a vowel make a
syllable, and a syllable without a trailing letter takes one.
-/

/-- The first syllable, and the number of all syllables. -/
def firstSyllable : Nat := 0xAC00

/-- The number of syllables. -/
def syllableCount : Nat := 11172

/-- The first leading letter; there are 19. -/
def firstLead : Nat := 0x1100

/-- The first vowel; there are 21. -/
def firstVowel : Nat := 0x1161

/-- The number before the first trailing letter; there are 27. -/
def beforeTrail : Nat := 0x11A7

/-- The two parts of a syllable. -/
def splitSyllable? (n : Nat) : Option (Nat × Nat) :=
  if firstSyllable ≤ n && n < firstSyllable + syllableCount then
    let index := n - firstSyllable
    if index % 28 = 0 then some (firstLead + index / 588, firstVowel + index % 588 / 28)
    else some (n - index % 28, beforeTrail + index % 28)
  else none

/-- The syllable of two parts. -/
def joinSyllable? (a b : Nat) : Option Nat :=
  if firstLead ≤ a && a < firstLead + 19 && firstVowel ≤ b && b < firstVowel + 21 then
    some (firstSyllable + ((a - firstLead) * 21 + (b - firstVowel)) * 28)
  else if firstSyllable ≤ a && a < firstSyllable + syllableCount && (a - firstSyllable) % 28 = 0 &&
      beforeTrail < b && b < beforeTrail + 28 then
    some (a + (b - beforeTrail))
  else none

/-! ### The three steps -/

/-- The two parts of a composite. -/
def split? (n : Nat) : Option (Nat × Nat) :=
  (splitSyllable? n).or ((CompositionTable.composites.find? (·.1 == n)).map (·.2))

/-- The composite of two parts. -/
def join? (a b : Nat) : Option Nat :=
  (joinSyllable? a b).or ((CompositionTable.composites.find? (·.2 == (a, b))).map (·.1))

/-- How often the first part of a composite may be a composite again. -/
def depth : Nat := 4

/-- A code point taken apart; only first parts can be taken apart again. -/
def decomposePoint : (fuel : Nat) → Nat → List Nat
  | 0, n => [n]
  | fuel + 1, n =>
    match split? n with
    | some (a, b) => decomposePoint fuel a ++ [b]
    | none => [n]

/-- All composites taken apart. -/
def decompose (ns : List Nat) : List Nat :=
  ns.flatMap (decomposePoint depth)

/-- A mark in its place before ordered code points: after the marks of lower classes. -/
def place (n : Nat) : List Nat → List Nat
  | [] => [n]
  | m :: rest =>
    if markClass m ≠ 0 && markClass m < markClass n then m :: place n rest else n :: m :: rest

/-- The marks after a letter in the order of their classes. -/
def order (ns : List Nat) : List Nat :=
  ns.foldr place []

/-- Joins what can be joined.  `base` is the last code point that is no mark; the marks after it
that stay are in `marks`, last first, and one of the same class or a higher one keeps others
away. -/
def joinFrom : (base : Option Nat) → (marks : List Nat) → List Nat → List Nat
  | base, marks, [] => base.toList ++ marks.reverse
  | none, marks, n :: rest =>
    if markClass n = 0 then marks.reverse ++ joinFrom (some n) [] rest
    else joinFrom none (n :: marks) rest
  | some b, marks, n :: rest =>
    let isKept := match marks with
      | [] => false
      | m :: _ => markClass n ≤ markClass m
    match if isKept then none else join? b n with
    | some joined => joinFrom (some joined) marks rest
    | none =>
      if markClass n = 0 then b :: marks.reverse ++ joinFrom (some n) [] rest
      else joinFrom (some b) (n :: marks) rest

/-- Code points composed as far as can be. -/
def compose (ns : List Nat) : List Nat :=
  joinFrom none [] (order (decompose ns))

end Composition

/-- Whether composing leaves a text as it is. -/
def Text.isComposed (t : Text) : Bool :=
  let ns := t.map CodePoint.val
  t.all (fun c => !c.isIn CompositionTable.replaced) && Composition.compose ns == ns

end AdmissionLedger
