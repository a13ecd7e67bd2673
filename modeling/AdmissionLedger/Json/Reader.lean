import AdmissionLedger.Text.Encoding
import AdmissionLedger.Tree.Basic

/-!
# Reading documents

A document is a JSON text, with `NaN` and the infinities as further numbers.  The
reader keeps the open containers on a stack of frames, of which there may be so many, and
every failure names the place where the text stops being a document.

## Main definitions

* `Json.Fault`, `Json.ReadError` — what can be wrong, with `ReadError.message` the wording.
* `Json.Dialect` — the choices in which readings differ: lone surrogates, limits, repeated keys.
* `Json.read`, `Json.readBytes` — the tree of a text, of bytes in any Unicode encoding.
* `Json.readText` — the tree of a text that came decoded.
-/

namespace AdmissionLedger.Json

/-- What is wrong at a place in a text. -/
inductive Fault
  | expectingValue
  | expectingKey
  | expectingColon
  | expectingComma
  | extraData
  | invalidEscape
  | invalidUnicodeEscape
  | invalidControl
  | unterminatedString
  /-- A text begins with a mark that tells the order of bytes. -/
  | byteOrderMark
  deriving DecidableEq, Repr

/-- The wording of a fault. -/
def Fault.message : Fault → Text
  | .expectingValue => "Expecting value"
  | .expectingKey => "Expecting property name enclosed in double quotes"
  | .expectingColon => "Expecting ':' delimiter"
  | .expectingComma => "Expecting ',' delimiter"
  | .extraData => "Extra data"
  | .invalidEscape => "Invalid \\escape"
  | .invalidUnicodeEscape => "Invalid \\uXXXX escape"
  | .invalidControl => "Invalid control character at"
  | .unterminatedString => "Unterminated string starting at"
  | .byteOrderMark => "Unexpected UTF-8 BOM (decode using utf-8-sig)"

/-- The two kinds of container. -/
inductive Container
  | array
  | object
  deriving DecidableEq, Repr

/-- Why reading stops. -/
inductive ScanError
  /-- The text is not a document; the fault shows at an index. -/
  | fault (fault : Fault) (index : Nat)
  /-- An integer has more digits than are read. -/
  | tooManyDigits (count : Nat)
  /-- A container of this kind would be nested too deep. -/
  | tooDeep (container : Container)
  deriving DecidableEq, Repr

/-- The readings of the format that are in use. -/
structure Dialect where
  /-- Whether an escaped surrogate without a partner is accepted. -/
  loneSurrogates : Bool
  /-- How many containers may be open at a time. -/
  maxDepth : Nat
  /-- Whether the digits before the point of a double are limited as those of an integer are. -/
  limitsDoubles : Bool
  /-- Whether an object keeps all entries of a key, or only the last. -/
  keepsRepeated : Bool

/-- The reading of request bodies: any code point, containers as deep as the machine that reads
them allows, keys once. -/
def Dialect.lenient (depth : Nat) : Dialect := ⟨true, depth, false, false⟩

/-- The reading of configuration documents: no lone surrogates, containers two hundred deep, few
digits before a point, and keys as often as they are written. -/
def Dialect.strict : Dialect := ⟨false, 200, true, true⟩

/-- An integer has at most this many digits. -/
def maxDigits : Nat := 4300

/-- Blanks between the parts of a document. -/
def isSpace (c : CodePoint) : Bool :=
  c.val == 0x20 || c.val == 0x09 || c.val == 0x0A || c.val == 0x0D

/-- The index and the rest after the blanks at the start. -/
def skipSpace : (index : Nat) → Text → Nat × Text
  | index, [] => (index, [])
  | index, c :: rest => if isSpace c then skipSpace (index + 1) rest else (index, c :: rest)

/-- The value of a hexadecimal digit. -/
def hexValue? (c : CodePoint) : Option Nat :=
  if c.isDigit then some (c.val - 0x30)
  else if 0x41 ≤ c.val && c.val ≤ 0x46 then some (c.val - 0x37)
  else if 0x61 ≤ c.val && c.val ≤ 0x66 then some (c.val - 0x57)
  else none

/-- The code point of four hexadecimal digits. -/
def hexPoint? (a b c d : CodePoint) : Option CodePoint := do
  let a ← hexValue? a
  let b ← hexValue? b
  let c ← hexValue? c
  let d ← hexValue? d
  return CodePoint.ofNat (((a * 16 + b) * 16 + c) * 16 + d)

/-- The code point that a letter after a backslash stands for. -/
def escaped? (c : CodePoint) : Option CodePoint :=
  match c.toChar with
  | '/' => some c
  | 'b' => some (.ofNat 0x08)
  | 'f' => some (.ofNat 0x0C)
  | 'n' => some (.ofNat 0x0A)
  | 'r' => some (.ofNat 0x0D)
  | 't' => some (.ofNat 0x09)
  | _ => if c = .doubleQuote || c = .backslash then some c else none

/-- What a scanner returns: a value, the index after it and the rest of the text. -/
structure Scanned (α : Type) where
  value : α
  index : Nat
  rest : Text

/-- The rest of a string whose opening quote is at `start`: its code points up to here are `done`,
last first.  An escaped high surrogate joins with an escaped low one right after it, provided that
the text goes on after both. -/
def scanString (dialect : Dialect) (start : Nat) :
    (index : Nat) → (done : Text) → Text → Except ScanError (Scanned Text)
  | _, _, [] => .error (.fault .unterminatedString start)
  | index, done, c :: rest =>
    if c = .doubleQuote then .ok ⟨done.reverse, index + 1, rest⟩
    else if c = .backslash then
      match rest with
      | [] => .error (.fault .unterminatedString start)
      | e :: rest =>
        if e = ↑ 'u' then
          match rest with
          | h₁ :: h₂ :: h₃ :: h₄ :: next :: rest =>
            match hexPoint? h₁ h₂ h₃ h₄ with
            | none => .error (.fault .invalidUnicodeEscape (index + 1))
            | some high =>
              let alone (_ : Unit) : Except ScanError (Scanned Text) :=
                if high.isSurrogate && !dialect.loneSurrogates then
                  .error (.fault .invalidUnicodeEscape (index + 1))
                else scanString dialect start (index + 6) (high :: done) (next :: rest)
              if high.isHighSurrogate && next = .backslash then
                match rest with
                | u :: l₁ :: l₂ :: l₃ :: l₄ :: after :: rest =>
                  if u = ↑ 'u' then
                    match hexPoint? l₁ l₂ l₃ l₄ with
                    | none => .error (.fault .invalidUnicodeEscape (index + 7))
                    | some low =>
                      if low.isLowSurrogate then
                        scanString dialect start (index + 12) (.joinPair high low :: done)
                          (after :: rest)
                      else alone ()
                  else alone ()
                | _ => alone ()
              else alone ()
          | _ => .error (.fault .invalidUnicodeEscape (index + 1))
        else
          match escaped? e with
          | some c => scanString dialect start (index + 2) (c :: done) rest
          | none => .error (.fault .invalidEscape index)
    else if c.val < 0x20 then .error (.fault .invalidControl index)
    else if c.isSurrogate && !dialect.loneSurrogates then .error (.fault .invalidControl index)
    else scanString dialect start (index + 1) (c :: done) rest

/-- The number that decimal digits spell. -/
def digitsValue (digits : Text) : Nat :=
  digits.foldl (fun n c => n * 10 + (c.val - 0x30)) 0

/-- The digits of a fraction at the start of a text, if there is one. -/
def fraction? : Text → Option Text
  | point :: rest =>
    let digits := rest.takeWhile CodePoint.isDigit
    if point = ↑ '.' && !digits.isEmpty then some digits else none
  | [] => none

/-- The sign and the digits of an exponent at the start of a text, if there is one, and how many
code points it takes. -/
def exponent? : Text → Option (Int × Nat)
  | mark :: rest =>
    if mark = ↑ 'e' || mark = ↑ 'E' then
      let negative := Text.startsWith rest "-"
      let signs := if negative || Text.startsWith rest "+" then 1 else 0
      let digits := (rest.drop signs).takeWhile CodePoint.isDigit
      if digits.isEmpty then none
      else
        let n : Int := digitsValue digits
        some (if negative then -n else n, 1 + signs + digits.length)
    else none
  | [] => none

/-- The digits before the point of a number: a zero alone, or digits that do not begin with one. -/
def wholeDigits (t : Text) : Text :=
  match t with
  | c :: _ => if c = ↑ '0' then [c] else t.takeWhile CodePoint.isDigit
  | [] => []

/-- A number at the start of a text; a fraction or an exponent makes it a double. -/
def scanNumber (dialect : Dialect) (index : Nat) (t : Text) : Except ScanError (Scanned Tree) :=
  let negative := t.startsWith "-"
  let unsigned := if negative then t.drop 1 else t
  let whole := wholeDigits unsigned
  if whole.isEmpty then .error (.fault .expectingValue index)
  else
    let afterWhole := unsigned.drop whole.length
    let fraction := fraction? afterWhole
    let afterFraction := match fraction with
      | some digits => afterWhole.drop (1 + digits.length)
      | none => afterWhole
    let exponent := exponent? afterFraction
    let rest := match exponent with
      | some (_, taken) => afterFraction.drop taken
      | none => afterFraction
    let index := index + (t.length - rest.length)
    let isDouble := fraction.isSome || exponent.isSome
    if maxDigits < whole.length && (dialect.limitsDoubles || !isDouble) then
      .error (.tooManyDigits whole.length)
    else if !isDouble then
      let n : Int := digitsValue whole
      .ok ⟨.int (if negative then -n else n), index, rest⟩
    else
      let places := fraction.getD []
      let power := (exponent.map (·.1)).getD 0
      .ok ⟨.float (.ofDecimal negative (digitsValue (whole ++ places)) (power - places.length)),
        index, rest⟩

/-- The words that are values. -/
def literals : List (Text × Tree) :=
  [("null", .null), ("true", .bool true), ("false", .bool false), ("NaN", .float .nan),
    ("Infinity", .float (.infinite false)), ("-Infinity", .float (.infinite true))]

/-- A word or a number at the start of a text. -/
def scanPlain (dialect : Dialect) (index : Nat) (t : Text) : Except ScanError (Scanned Tree) :=
  match literals.find? fun word => t.startsWith word.1 with
  | some (word, value) => .ok ⟨value, index + word.length, t.drop word.length⟩
  | none => scanNumber dialect index t

/-- A key and the colon after it, with the blanks around the colon. -/
def scanKey (dialect : Dialect) (index : Nat) : Text → Except ScanError (Scanned Text)
  | [] => .error (.fault .expectingKey index)
  | c :: rest =>
    if c = .doubleQuote then do
      let key ← scanString dialect index (index + 1) [] rest
      let (index, rest) := skipSpace key.index key.rest
      match rest with
      | c :: rest =>
        if c = ↑ ':' then
          let (index, rest) := skipSpace (index + 1) rest
          return ⟨key.value, index, rest⟩
        else .error (.fault .expectingColon index)
      | [] => .error (.fault .expectingColon index)
    else .error (.fault .expectingKey index)

/-- A container that is open, with what it holds so far. -/
inductive Frame
  /-- The items of an array, last first. -/
  | array (done : List Tree)
  /-- The entries of an object, and the key whose value is being read. -/
  | object (done : List (Text × Tree)) (key : Text)

/-- Reads on with the open containers on a stack.  Either a value is due (`none`) or one has just
been read.  Each round takes at least one code point, but the last, so the length of the text is
fuel enough. -/
def readFrom (dialect : Dialect) : (fuel : Nat) → List Frame → Option Tree → (index : Nat) → Text →
    Except ScanError (Scanned Tree)
  | 0, _, _, index, _ => .error (.fault .expectingValue index)
  | _ + 1, _, none, index, [] => .error (.fault .expectingValue index)
  | fuel + 1, stack, none, index, c :: rest =>
    if c = .doubleQuote then do
      let s ← scanString dialect index (index + 1) [] rest
      readFrom dialect fuel stack (some (.str s.value)) s.index s.rest
    else if c = ↑ '[' then
      if dialect.maxDepth ≤ stack.length then .error (.tooDeep .array)
      else
        let (index, rest) := skipSpace (index + 1) rest
        if rest.startsWith "]" then
          readFrom dialect fuel stack (some (.array [])) (index + 1) (rest.drop 1)
        else readFrom dialect fuel (.array [] :: stack) none index rest
    else if c = .openBrace then
      if dialect.maxDepth ≤ stack.length then .error (.tooDeep .object)
      else
        let (index, rest) := skipSpace (index + 1) rest
        if rest.head? = some .closeBrace then
          readFrom dialect fuel stack (some (.object [])) (index + 1) (rest.drop 1)
        else do
          let key ← scanKey dialect index rest
          readFrom dialect fuel (.object [] key.value :: stack) none key.index key.rest
    else do
      let v ← scanPlain dialect index (c :: rest)
      readFrom dialect fuel stack (some v.value) v.index v.rest
  | _ + 1, [], some value, index, rest => .ok ⟨value, index, rest⟩
  | fuel + 1, .array done :: stack, some value, index, rest =>
    let (index, rest) := skipSpace index rest
    match rest with
    | [] => .error (.fault .expectingComma index)
    | c :: rest =>
      if c = ↑ ']' then
        readFrom dialect fuel stack (some (.array (value :: done).reverse)) (index + 1) rest
      else if c = ↑ ',' then
        let (index, rest) := skipSpace (index + 1) rest
        readFrom dialect fuel (.array (value :: done) :: stack) none index rest
      else .error (.fault .expectingComma index)
  | fuel + 1, .object done key :: stack, some value, index, rest =>
    let done := if dialect.keepsRepeated then done ++ [(key, value)] else Tree.put key value done
    let (index, rest) := skipSpace index rest
    match rest with
    | [] => .error (.fault .expectingComma index)
    | c :: rest =>
      if c = .closeBrace then
        readFrom dialect fuel stack (some (.object done)) (index + 1) rest
      else if c = ↑ ',' then
        let (index, rest) := skipSpace (index + 1) rest
        do
          let key ← scanKey dialect index rest
          readFrom dialect fuel (.object done key.value :: stack) none key.index key.rest
      else .error (.fault .expectingComma index)

/-- The tree of a whole text, blanks around it allowed. -/
def scan (dialect : Dialect) (t : Text) : Except ScanError Tree := do
  let (index, rest) := skipSpace 0 t
  let value ← readFrom dialect (t.length + 2) [] none index rest
  let (index, rest) := skipSpace value.index value.rest
  if rest.isEmpty then return value.value else .error (.fault .extraData index)

/-- Why a document cannot be read. -/
inductive ReadError
  /-- The bytes are not text. -/
  | undecodable (error : DecodeError)
  /-- A fault in a line, at a column counted from one, and at an index of the whole text. -/
  | malformed (fault : Fault) (line column index : Nat)
  /-- An integer has more digits than are read. -/
  | tooManyDigits (count : Nat)
  /-- A container of this kind would be nested too deep. -/
  | tooDeep (container : Container)
  deriving DecidableEq, Repr

/-- The name of a kind of container. -/
def Container.name : Container → Text
  | .array => "array"
  | .object => "object"

/-- The wording for an integer of too many digits. -/
def tooManyDigitsMessage (count : Nat) : Text :=
  Text.ofString "Exceeds the limit (" ++ Text.decimal maxDigits ++
    " digits) for integer string conversion: value has " ++ Text.decimal count ++
    " digits; use sys.set_int_max_str_digits() to increase the limit"

/-- The wording of a failure. -/
def ReadError.message : ReadError → Text
  | .undecodable e => e.message
  | .malformed fault line column index =>
    fault.message ++ ": line " ++ Text.decimal line ++ " column " ++ Text.decimal column ++
      " (char " ++ Text.decimal index ++ ")"
  | .tooManyDigits count => tooManyDigitsMessage count
  | .tooDeep container =>
    Text.ofString "maximum recursion depth exceeded while decoding a JSON " ++ container.name ++
      " from a unicode string"

/-- A failure of the scanner, placed in its text. -/
def ScanError.locate (t : Text) : ScanError → ReadError
  | .fault what index =>
    let before := t.take index
    let line := before.count .lineFeed + 1
    let column := (before.reverse.takeWhile (· ≠ .lineFeed)).length + 1
    .malformed what line column index
  | .tooManyDigits count => .tooManyDigits count
  | .tooDeep container => .tooDeep container

/-- The tree of a text. -/
def read (dialect : Dialect) (t : Text) : Except ReadError Tree :=
  (scan dialect t).mapError (ScanError.locate t)

/-- The tree of a text that came decoded.  A byte order mark is no part of such a text. -/
def readText (depth : Nat) (t : Text) : Except ReadError Tree :=
  match t with
  | ⟨0xFEFF, _⟩ :: _ => .error (.malformed .byteOrderMark 1 1 0)
  | _ => read (.lenient depth) t

/-- The tree of bytes in any Unicode encoding. -/
def readBytes (depth : Nat) (bytes : Bytes) : Except ReadError Tree :=
  match Text.decodeDocument bytes with
  | .error e => .error (.undecodable e)
  | .ok t => read (.lenient depth) t

end AdmissionLedger.Json
