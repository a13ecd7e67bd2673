import AdmissionLedger.Json.Reader
import AdmissionLedger.Number.Shortest

/-!
# Writing documents

Trees are written without blanks.  One alphabet escapes everything beyond
printable ASCII, the other only what a document must escape.  The canonical text
of a tree has its keys sorted at every map, so that equal maps in different orders
have one text.

## Main definitions

* `Json.Alphabet` — which code points are escaped.
* `Tree.write` — the text of a tree.
* `Tree.sortKeys`, `Tree.canonicalText` — the text with sorted keys, in ASCII.
* `Tree.isFinite` — whether a tree holds only numbers that other readers know.
-/

namespace AdmissionLedger

namespace Json

/-- Which code points of a string are written as escapes. -/
inductive Alphabet
  /-- Quotes, backslashes and all but printable ASCII. -/
  | ascii
  /-- Quotes, backslashes and the controls below the blank. -/
  | unicode
  deriving DecidableEq, Repr

/-- The escape of a 16-bit unit by its number. -/
def unitEscape (n : Nat) : Text :=
  CodePoint.backslash :: ↑ 'u' :: Text.paddedHex 4 n

/-- The escape of a code point, short where there is a short one; beyond 16 bits, a pair. -/
def pointEscape (c : CodePoint) : Text :=
  match c.val with
  | 0x08 => [.backslash, ↑ 'b']
  | 0x09 => [.backslash, ↑ 't']
  | 0x0A => [.backslash, ↑ 'n']
  | 0x0C => [.backslash, ↑ 'f']
  | 0x0D => [.backslash, ↑ 'r']
  | n =>
    if n < 0x10000 then unitEscape n
    else unitEscape (0xD800 + (n - 0x10000) / 0x400) ++ unitEscape (0xDC00 + (n - 0x10000) % 0x400)

/-- A code point of a string as it is written. -/
def writePoint (alphabet : Alphabet) (c : CodePoint) : Text :=
  if c = .doubleQuote || c = .backslash then [.backslash, c]
  else if c.val < 0x20 then pointEscape c
  else if alphabet = .ascii && 0x7F ≤ c.val then pointEscape c
  else [c]

/-- A string as it is written. -/
def writeString (alphabet : Alphabet) (t : Text) : Text :=
  CodePoint.doubleQuote :: t.flatMap (writePoint alphabet) ++ [.doubleQuote]

end Json

namespace Tree

open Json

/-- A double as a document writes it. -/
def writeDouble : Double → Text
  | .nan => "NaN"
  | .infinite negative => if negative then "-Infinity" else "Infinity"
  | x => x.toText

mutual

/-- The text of a tree, without blanks. -/
def write (alphabet : Alphabet) : Tree → Text
  | .null => "null"
  | .bool b => if b then "true" else "false"
  | .int n => Text.ofInt n
  | .float x => writeDouble x
  | .str t => writeString alphabet t
  | .array items => [↑ '['] ++ writeItems alphabet items ++ [↑ ']']
  | .object entries => [.openBrace] ++ writeEntries alphabet entries ++ [.closeBrace]

/-- The texts of the items of an array, commas between. -/
def writeItems (alphabet : Alphabet) : List Tree → Text
  | [] => []
  | [item] => write alphabet item
  | item :: rest => write alphabet item ++ ↑ ',' :: writeItems alphabet rest

/-- The texts of the entries of an object, commas between. -/
def writeEntries (alphabet : Alphabet) : List (Text × Tree) → Text
  | [] => []
  | [(key, value)] => writeString alphabet key ++ ↑ ':' :: write alphabet value
  | (key, value) :: rest =>
    writeString alphabet key ++ ↑ ':' :: write alphabet value ++ ↑ ',' :: writeEntries alphabet rest

end

/-- Puts an entry before the first one with a greater key. -/
def insertByKey (entry : Text × Tree) : List (Text × Tree) → List (Text × Tree)
  | [] => [entry]
  | other :: rest =>
    if Text.le entry.1 other.1 then entry :: other :: rest else other :: insertByKey entry rest

mutual

/-- A tree with the keys of every map in code-point order. -/
def sortKeys : Tree → Tree
  | .array items => .array (sortKeysItems items)
  | .object entries => .object (sortKeysEntries entries)
  | t => t

/-- The items of a sequence, each with its keys in order. -/
def sortKeysItems : List Tree → List Tree
  | [] => []
  | item :: rest => sortKeys item :: sortKeysItems rest

/-- Entries in the order of their keys, each value with its own keys in order. -/
def sortKeysEntries : List (Text × Tree) → List (Text × Tree)
  | [] => []
  | (key, value) :: rest => insertByKey (key, sortKeys value) (sortKeysEntries rest)

end

mutual

/-- Whether no number of a tree is infinite or not a number. -/
def isFinite : Tree → Bool
  | .float x => x.isFinite
  | .array items => itemsFinite items
  | .object entries => entriesFinite entries
  | _ => true

/-- Whether all items hold finite numbers only. -/
def itemsFinite : List Tree → Bool
  | [] => true
  | item :: rest => isFinite item && itemsFinite rest

/-- Whether all values hold finite numbers only. -/
def entriesFinite : List (Text × Tree) → Bool
  | [] => true
  | (_, value) :: rest => isFinite value && entriesFinite rest

end

/-- The one text of all trees that differ in the order of their keys only. -/
def canonicalText (t : Tree) : Text :=
  write .ascii (sortKeys t)

/-- The wording of the refusal of a tree with a number that is not finite. -/
def notFiniteMessage : Text :=
  "Out of range float values are not JSON compliant"

end Tree

end AdmissionLedger
