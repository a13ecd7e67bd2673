/-!
# Texts

A text is a sequence of Unicode code points.  Surrogates are code points too: a
document may escape one that has no partner, and such a text must be kept as it
is, compared and matched like any other, and only fails to be *encoded*.  This is
why texts are not core strings.

## Main definitions

* `CodePoint`, `Text` — code points and sequences of them.
* `CodePoint.upperAscii`, `CodePoint.lowerAscii` — the mappings for ASCII, point by point.
* `Text.ofString` — the text of a string literal; also a coercion.
* `Text.decimal`, `Text.ofInt` — numbers in decimal.
* `Text.join`, `Text.splitOn`, `Text.startsWith`, `Text.padRight` — assembling and taking apart.
-/

namespace AdmissionLedger

/-- A Unicode code point; surrogates are included. -/
structure CodePoint where
  /-- The number of the code point. -/
  val : Nat
  isLt : val < 0x110000
  deriving DecidableEq, Repr

namespace CodePoint

/-- The code point of a character. -/
def ofChar (c : Char) : CodePoint :=
  ⟨c.toNat, by
    have h := c.valid
    simp only [UInt32.isValidChar, Nat.isValidChar] at h
    simp only [Char.toNat]
    omega⟩

instance : Coe Char CodePoint := ⟨ofChar⟩

instance : Inhabited CodePoint := ⟨ofChar ' '⟩

/-- The code point of a number, or the replacement character when there is none. -/
def ofNat (n : Nat) : CodePoint :=
  if h : n < 0x110000 then ⟨n, h⟩ else ofChar '\uFFFD'

/-- The character of a code point; a surrogate has none and gives the null character. -/
def toChar (c : CodePoint) : Char :=
  Char.ofNat c.val

/-- Surrogates are the code points U+D800 to U+DFFF. -/
def isSurrogate (c : CodePoint) : Bool :=
  0xD800 ≤ c.val && c.val < 0xE000

/-- High surrogates open a pair. -/
def isHighSurrogate (c : CodePoint) : Bool :=
  0xD800 ≤ c.val && c.val < 0xDC00

/-- Low surrogates close a pair. -/
def isLowSurrogate (c : CodePoint) : Bool :=
  0xDC00 ≤ c.val && c.val < 0xE000

/-- ASCII digits `0` to `9`. -/
def isDigit (c : CodePoint) : Bool :=
  0x30 ≤ c.val && c.val ≤ 0x39

/-- Whether a code point lies in one of some runs, each given by its first and its last. -/
def isIn (runs : List (Nat × Nat)) (c : CodePoint) : Bool :=
  runs.any fun run => run.1 ≤ c.val && c.val ≤ run.2

/-- The double quotation mark. -/
def doubleQuote : CodePoint := ⟨0x22, by decide⟩

/-- The apostrophe, which is also the single quotation mark. -/
def apostrophe : CodePoint := ⟨0x27, by decide⟩

/-- The backslash. -/
def backslash : CodePoint := ⟨0x5C, by decide⟩

/-- The opening brace. -/
def openBrace : CodePoint := ⟨0x7B, by decide⟩

/-- The closing brace. -/
def closeBrace : CodePoint := ⟨0x7D, by decide⟩

/-- The line feed, which ends a line. -/
def lineFeed : CodePoint := ⟨0x0A, by decide⟩

/-- The code point that a surrogate pair stands for. -/
def joinPair (high low : CodePoint) : CodePoint :=
  ofNat (0x10000 + (high.val - 0xD800) * 0x400 + (low.val - 0xDC00))

/-- The upper case of a code point, if only ASCII letters have one. -/
def upperAscii (c : CodePoint) : CodePoint :=
  if 0x61 ≤ c.val && c.val ≤ 0x7A then ofNat (c.val - 32) else c

/-- The lower case of a code point, if only ASCII letters have one. -/
def lowerAscii (c : CodePoint) : CodePoint :=
  if 0x41 ≤ c.val && c.val ≤ 0x5A then ofNat (c.val + 32) else c

end CodePoint

/-- A sequence of code points. -/
abbrev Text := List CodePoint

namespace Text

/-- The text of a string. -/
def ofString (s : String) : Text :=
  s.toList.map CodePoint.ofChar

instance : Coe String Text := ⟨ofString⟩

/-- The text of a list of ASCII characters. -/
def ofChars (cs : List Char) : Text :=
  cs.map CodePoint.ofChar

/-- A natural number in decimal. -/
def decimal (n : Nat) : Text :=
  ofChars (Nat.toDigits 10 n)

/-- An integer in decimal, a minus sign before a negative one. -/
def ofInt : Int → Text
  | .ofNat n => decimal n
  | .negSucc n => CodePoint.ofChar '-' :: decimal (n + 1)

/-- A natural number in decimal, filled up with zeros on the left to `width` digits. -/
def paddedDecimal (width n : Nat) : Text :=
  let digits := decimal n
  List.replicate (width - digits.length) (CodePoint.ofChar '0') ++ digits

/-- A natural number in lower-case hexadecimal, filled up with zeros to `width` digits. -/
def paddedHex (width n : Nat) : Text :=
  let digits := ofChars (Nat.toDigits 16 n)
  List.replicate (width - digits.length) (CodePoint.ofChar '0') ++ digits

/-- The parts, with `separator` between two of them. -/
def join (separator : Text) : List Text → Text
  | [] => []
  | [part] => part
  | part :: parts => part ++ separator ++ join separator parts

/-- The pieces between the occurrences of one code point; one more than there are occurrences. -/
def splitOn (separator : CodePoint) : Text → List Text
  | [] => [[]]
  | c :: rest =>
    if c = separator then [] :: splitOn separator rest
    else match splitOn separator rest with
      | [] => [[c]]
      | piece :: pieces => (c :: piece) :: pieces

/-- Whether a text begins with another. -/
def startsWith (t start : Text) : Bool :=
  start.isPrefixOf t

/-- A text filled up with blanks on the right to `width` code points. -/
def padRight (width : Nat) (t : Text) : Text :=
  t ++ List.replicate (width - t.length) (CodePoint.ofChar ' ')

/-- Code-point order, a text before its extensions. -/
def le : Text → Text → Bool
  | [], _ => true
  | _ :: _, [] => false
  | a :: as, b :: bs => if a.val < b.val then true else if b.val < a.val then false else le as bs

/-- ASCII capitals in lower case, all else as it is. -/
def lowerAscii (t : Text) : Text :=
  t.map CodePoint.lowerAscii

/-- ASCII small letters in upper case, all else as it is. -/
def upperAscii (t : Text) : Text :=
  t.map CodePoint.upperAscii

/-- Whether a text holds a surrogate. -/
def hasSurrogate (t : Text) : Bool :=
  t.any CodePoint.isSurrogate

end Text

end AdmissionLedger
