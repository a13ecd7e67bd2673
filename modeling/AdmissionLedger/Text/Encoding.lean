import AdmissionLedger.Text.Utf8
import AdmissionLedger.Text.Wide

/-!
# The encoding of a document

A document may come in any of the Unicode encodings, with or without a byte order
mark.  Without one the pattern of zero bytes at the start tells: the first code
point of a document is ASCII, so its other bytes are zero.

## Main definitions

* `Encoding.detect` — the encoding of some bytes.
* `Text.decodeDocument` — the text of a document, surrogates passed.
-/

namespace AdmissionLedger

/-- How the text of a document is encoded. -/
inductive Encoding
  /-- UTF-8, after a byte order mark if `marked`. -/
  | utf8 (marked : Bool)
  /-- UTF-16, after a byte order mark if `marked`. -/
  | utf16 (order : ByteOrder) (marked : Bool)
  /-- UTF-32, after a byte order mark if `marked`. -/
  | utf32 (order : ByteOrder) (marked : Bool)
  deriving DecidableEq, Repr

/-- The encoding that the first bytes show. -/
def Encoding.detect (bytes : Bytes) : Encoding :=
  match (bytes.take 4).map UInt8.toNat with
  | 0x00 :: 0x00 :: 0xFE :: 0xFF :: _ => .utf32 .big true
  | 0xFF :: 0xFE :: 0x00 :: 0x00 :: _ => .utf32 .little true
  | 0xFE :: 0xFF :: _ => .utf16 .big true
  | 0xFF :: 0xFE :: _ => .utf16 .little true
  | 0xEF :: 0xBB :: 0xBF :: _ => .utf8 true
  | a :: b :: c :: d :: _ =>
    if a = 0 then (if b = 0 then .utf32 .big false else .utf16 .big false)
    else if b = 0 then (if c = 0 && d = 0 then .utf32 .little false else .utf16 .little false)
    else .utf8 false
  | [a, b] =>
    if a = 0 then .utf16 .big false else if b = 0 then .utf16 .little false else .utf8 false
  | _ => .utf8 false

/-- The text of a document.  A byte order mark is not part of it; byte positions in a failure count
from the mark on in the wide encodings and from after it in UTF-8. -/
def Text.decodeDocument (bytes : Bytes) : Except DecodeError Text :=
  match Encoding.detect bytes with
  | .utf8 marked => decodeUtf8 true (if marked then bytes.drop 3 else bytes)
  | .utf16 order marked =>
    if marked then decodeUtf16 order 2 (bytes.drop 2) else decodeUtf16 order 0 bytes
  | .utf32 order marked =>
    if marked then decodeUtf32 order 4 (bytes.drop 4) else decodeUtf32 order 0 bytes

end AdmissionLedger
