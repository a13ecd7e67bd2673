import AdmissionLedger.Text.CodePoint

/-!
# Blanks

Two sets of blank code points are in use.  `isWhiteSpace` is the White_Space
property of Unicode; `isBlank` adds the four information separators, which
separate fields of text and are stripped with the other blanks.

## Main definitions

* `CodePoint.isWhiteSpace`, `CodePoint.isBlank`
* `Text.stripBy`, `Text.strip` — a text without the blanks at its two ends.
-/

namespace AdmissionLedger

/-- The White_Space property. -/
def CodePoint.isWhiteSpace (c : CodePoint) : Bool :=
  (0x09 ≤ c.val && c.val ≤ 0x0D) || c.val == 0x20 || c.val == 0x85 || c.val == 0xA0 ||
  c.val == 0x1680 || (0x2000 ≤ c.val && c.val ≤ 0x200A) || c.val == 0x2028 || c.val == 0x2029 ||
  c.val == 0x202F || c.val == 0x205F || c.val == 0x3000

/-- White space and the information separators U+001C to U+001F. -/
def CodePoint.isBlank (c : CodePoint) : Bool :=
  c.isWhiteSpace || (0x1C ≤ c.val && c.val ≤ 0x1F)

/-- White space of ASCII: the blank and U+0009 to U+000D. -/
def CodePoint.isAsciiSpace (c : CodePoint) : Bool :=
  (0x09 ≤ c.val && c.val ≤ 0x0D) || c.val == 0x20

/-- A text without the code points of a set at its two ends. -/
def Text.stripBy (blank : CodePoint → Bool) (t : Text) : Text :=
  ((t.dropWhile blank).reverse.dropWhile blank).reverse

/-- A text without the blanks at its two ends. -/
def Text.strip (t : Text) : Text :=
  t.stripBy CodePoint.isBlank

end AdmissionLedger
