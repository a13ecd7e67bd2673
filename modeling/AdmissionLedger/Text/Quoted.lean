import AdmissionLedger.Text.Printable

/-!
# Quoted texts

A text is shown in a message between single quotes, or between double quotes when
it holds a single quote and no double one.  The chosen quote, the backslash, tab,
line feed and carriage return are escaped by a backslash, and what is not
printable by its number.

## Main definitions

* `CodePoint.escape` — a code point by its number.
* `Text.quoted`, `Text.quotedAscii` — the two quotations; the second also escapes all beyond ASCII.
-/

namespace AdmissionLedger

/-- A code point by its number, in two, four or eight hexadecimal digits. -/
def CodePoint.escape (c : CodePoint) : Text :=
  if c.val < 0x100 then CodePoint.backslash :: 'x' :: Text.paddedHex 2 c.val
  else if c.val < 0x10000 then CodePoint.backslash :: 'u' :: Text.paddedHex 4 c.val
  else CodePoint.backslash :: 'U' :: Text.paddedHex 8 c.val

namespace Text

/-- The quote for a text: double only if the text holds a single quote and no double one. -/
def quoteFor (t : Text) : CodePoint :=
  if t.contains .apostrophe && !t.contains .doubleQuote then .doubleQuote else .apostrophe

/-- One code point inside a quotation; `plain` tells which ones show themselves. -/
def quotePoint (plain : CodePoint → Bool) (quote c : CodePoint) : Text :=
  if c = quote || c = .backslash then [.backslash, c]
  else match c.val with
    | 0x09 => [.backslash, 't']
    | 0x0A => [.backslash, 'n']
    | 0x0D => [.backslash, 'r']
    | _ => if plain c then [c] else c.escape

/-- A text between quotes, unprintable code points escaped. -/
def quoted (t : Text) : Text :=
  let quote := quoteFor t
  quote :: t.flatMap (quotePoint CodePoint.isPrintable quote) ++ [quote]

/-- A text with all beyond ASCII escaped. -/
def escapedAscii (t : Text) : Text :=
  t.flatMap fun c => if c.val < 0x80 then [c] else c.escape

/-- A text between quotes, unprintable and non-ASCII code points escaped. -/
def quotedAscii (t : Text) : Text :=
  t.quoted.escapedAscii

end Text

end AdmissionLedger
