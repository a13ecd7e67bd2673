import AdmissionLedger.Domain.ContextTable
import AdmissionLedger.Domain.Direction
import AdmissionLedger.Text.Composition

/-!
# Code points that depend on their neighbours

A few code points may stand in a label only beside certain others: the two joiners
where they make a difference to the letters around, and seven kinds of marks and
digits where the script uses them.

## Main definitions

* `Context.isJoiner`, `Context.joinerFits` — the joiners and where they may stand.
* `Context.isDependent`, `Context.fits` — the others and where they may stand.
-/

namespace AdmissionLedger.Context

/-! ### Joiners -/

/-- The joiner and the non-joiner. -/
def isJoiner (c : CodePoint) : Bool :=
  c.val == 0x200C || c.val == 0x200D

/-- The class of marks that take the vowel from a letter. -/
def vowelKillerClass : Nat := 9

/-- Runs of ideographs that have no names of their own. -/
def namelessIdeographs : List (Nat × Nat) :=
  [(0x17000, 0x187F7), (0x18D00, 0x18D08)]

/-- Whether nothing is known about a code point. -/
def isUnknown (c : CodePoint) : Bool :=
  Composition.markClass c.val == 0 && (c.direction == .unknown || c.isIn namelessIdeographs)

/-- Whether the first of some neighbours that joining does not pass over is in one of some runs. -/
def joins (runs : List (List (Nat × Nat))) (neighbours : Text) : Bool :=
  match neighbours.find? fun c => !c.isIn ContextTable.transparent with
  | some c => runs.any c.isIn
  | none => false

/-- Whether a joiner may stand between the code points before it, the nearest first, and those after
it.  Beside something unknown it may not. -/
def joinerFits (joiner : CodePoint) (before after : Text) : Bool :=
  match before with
  | [] => false
  | c :: _ =>
    !isUnknown c &&
      (Composition.markClass c.val = vowelKillerClass ||
        (joiner.val == 0x200C &&
          joins [ContextTable.leftJoining, ContextTable.dualJoining] before &&
          joins [ContextTable.rightJoining, ContextTable.dualJoining] after))

/-! ### Marks and digits -/

/-- The middle dot, which stands between two letters l. -/
def isMiddleDot (c : CodePoint) : Bool :=
  c.val == 0xB7

/-- The Greek sign before a numeral. -/
def isGreekNumeralSign (c : CodePoint) : Bool :=
  c.val == 0x375

/-- The two Hebrew marks after a letter. -/
def isHebrewMark (c : CodePoint) : Bool :=
  c.val == 0x5F3 || c.val == 0x5F4

/-- The dot between words in Japanese. -/
def isJapaneseDot (c : CodePoint) : Bool :=
  c.val == 0x30FB

/-- The Arabic digits. -/
def isArabicDigit (c : CodePoint) : Bool :=
  0x660 ≤ c.val && c.val ≤ 0x669

/-- The Arabic digits of the eastern form. -/
def isEasternDigit (c : CodePoint) : Bool :=
  0x6F0 ≤ c.val && c.val ≤ 0x6F9

/-- The marks and digits that depend on their neighbours. -/
def isDependent (c : CodePoint) : Bool :=
  isMiddleDot c || isGreekNumeralSign c || isHebrewMark c || isJapaneseDot c || isArabicDigit c ||
    isEasternDigit c

/-- Whether a mark or a digit may stand between the code points before it, the nearest first, and
those after it. -/
def fits (c : CodePoint) (before after : Text) : Bool :=
  let isEll (c : CodePoint) : Bool := c.val == 0x6C
  if isMiddleDot c then before.head?.any isEll && after.head?.any isEll
  else if isGreekNumeralSign c then after.head?.any (·.isIn ContextTable.greek)
  else if isHebrewMark c then before.head?.any (·.isIn ContextTable.hebrew)
  else if isJapaneseDot c then
    (before ++ after).any fun d => !isJapaneseDot d &&
      (d.isIn ContextTable.hiragana || d.isIn ContextTable.katakana || d.isIn ContextTable.han)
  else if isArabicDigit c then !(before ++ after).any isEasternDigit
  else if isEasternDigit c then !(before ++ after).any isArabicDigit
  else false

end AdmissionLedger.Context
