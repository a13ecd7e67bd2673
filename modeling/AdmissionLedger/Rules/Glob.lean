import AdmissionLedger.Text.CodePoint

/-!
# Patterns

In a pattern only the star is special: it stands for any run of code points,
including none.  Every other code point stands for itself.

## Main definitions

* `Glob.Matches` — what it means that a pattern matches a value.
* `Glob.search` — the search for the runs that the stars stand for.
* `Glob.accepts` — whether a pattern matches; one without a star is just compared.
-/

namespace AdmissionLedger.Glob

/-- The code point that stands for any run. -/
def star : CodePoint := ↑ '*'

/-- A value matches a pattern if it splits into pieces, one for each code point of the pattern: any
piece for a star, the code point itself for another. -/
inductive Matches : (pattern value : Text) → Prop
  | nil : Matches [] []
  | star {pattern rest : Text} (piece : Text) (h : Matches pattern rest) :
      Matches (Glob.star :: pattern) (piece ++ rest)
  | literal {pattern rest : Text} (c : CodePoint) (hc : c ≠ Glob.star) (h : Matches pattern rest) :
      Matches (c :: pattern) (c :: rest)

/-- Whether some end of a text, the whole and the empty one included, passes a test. -/
def anySuffix (test : Text → Bool) : Text → Bool
  | [] => test []
  | c :: rest => test (c :: rest) || anySuffix test rest

/-- Whether a value splits into pieces for a pattern.  Of several stars in a row one is enough, and
a star at the end takes all that is left. -/
def search : (pattern value : Text) → Bool
  | [], value => value.isEmpty
  | p :: pattern, value =>
    if p = star then
      match pattern with
      | [] => true
      | q :: _ => if q = star then search pattern value else anySuffix (search pattern) value
    else
      match value with
      | [] => false
      | c :: rest => c = p && search pattern rest

/-- Whether a value matches a pattern. -/
def accepts (pattern value : Text) : Bool :=
  if pattern.contains star then search pattern value else value == pattern

/-- Whether a value matches one of some patterns; it matches none of none. -/
def acceptsAny (patterns : List Text) (value : Text) : Bool :=
  patterns.any fun pattern => accepts pattern value

end AdmissionLedger.Glob
