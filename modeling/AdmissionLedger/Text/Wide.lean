import AdmissionLedger.Text.Bytes

/-!
# UTF-16 and UTF-32

Decoders for the two wide encodings in either byte order.  A surrogate without a
partner is passed as the code point it is.

## Main definitions

* `Text.decodeUtf16`, `Text.decodeUtf32` — decoding from a given byte index on.
-/

namespace AdmissionLedger

/-- The order of the bytes of a unit. -/
inductive ByteOrder
  | little
  | big
  deriving DecidableEq, Repr

namespace ByteOrder

/-- The number that two bytes in this order spell. -/
def unit16 : ByteOrder → UInt8 → UInt8 → Nat
  | little, a, b => a.toNat + 256 * b.toNat
  | big, a, b => 256 * a.toNat + b.toNat

/-- The number that four bytes in this order spell. -/
def unit32 : ByteOrder → UInt8 → UInt8 → UInt8 → UInt8 → Nat
  | little, a, b, c, d => unit16 little a b + 65536 * unit16 little c d
  | big, a, b, c, d => 65536 * unit16 big a b + unit16 big c d

/-- The 16-bit encoding with this byte order. -/
def codec16 : ByteOrder → Codec
  | little => .utf16le
  | big => .utf16be

/-- The 32-bit encoding with this byte order. -/
def codec32 : ByteOrder → Codec
  | little => .utf32le
  | big => .utf32be

end ByteOrder

namespace Text

/-- The 16-bit units of bytes that begin at index `pos`, or the failure of a lone last byte. -/
def units16 (order : ByteOrder) : (pos : Nat) → (done : Text) → Bytes → Except DecodeError Text
  | _, done, [] => .ok done.reverse
  | pos, _, [a] => .error ⟨order.codec16, pos, pos + 1, a, .truncated⟩
  | pos, done, a :: b :: rest =>
    units16 order (pos + 2) (CodePoint.ofNat (order.unit16 a b) :: done) rest

/-- A text with each high surrogate joined to a low one right after it. -/
def joinPairs : Text → Text
  | [] => []
  | [c] => [c]
  | c :: d :: rest =>
    if c.isHighSurrogate && d.isLowSurrogate then CodePoint.joinPair c d :: joinPairs rest
    else c :: joinPairs (d :: rest)

/-- The text of UTF-16 bytes that begin at index `pos`. -/
def decodeUtf16 (order : ByteOrder) (pos : Nat) (bytes : Bytes) : Except DecodeError Text :=
  (units16 order pos [] bytes).map joinPairs

/-- The text of UTF-32 bytes that begin at index `pos`, the code points before it in `done`, last
first. -/
def decodeUtf32From (order : ByteOrder) :
    (pos : Nat) → (done : Text) → Bytes → Except DecodeError Text
  | _, done, [] => .ok done.reverse
  | pos, done, a :: b :: c :: d :: rest =>
    let n := order.unit32 a b c d
    if h : n < 0x110000 then decodeUtf32From order (pos + 4) (⟨n, h⟩ :: done) rest
    else .error ⟨order.codec32, pos, pos + 4, a, .outOfRange⟩
  | pos, _, a :: rest => .error ⟨order.codec32, pos, pos + 1 + rest.length, a, .truncated⟩

/-- The text of UTF-32 bytes that begin at index `pos`. -/
def decodeUtf32 (order : ByteOrder) (pos : Nat) (bytes : Bytes) : Except DecodeError Text :=
  decodeUtf32From order pos [] bytes

end Text

end AdmissionLedger
