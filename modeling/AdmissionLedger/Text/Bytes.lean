import AdmissionLedger.Text.Quoted

/-!
# Texts as bytes: failures

Encoding a text or decoding bytes fails at a place, and the message of the
failure names the place and shows what stands there.

## Main definitions

* `Bytes`, `Codec` — byte sequences and the encodings of text.
* `EncodeError`, `DecodeError` — the failures, with `message` their wording.
-/

namespace AdmissionLedger

/-- A sequence of bytes. -/
abbrev Bytes := List UInt8

/-- The encodings of texts as bytes. -/
inductive Codec
  | ascii
  | utf8
  | utf16le
  | utf16be
  | utf32le
  | utf32be
  deriving DecidableEq, Repr

namespace Codec

/-- The name of an encoding in messages. -/
def name : Codec → Text
  | ascii => "ascii"
  | utf8 => "utf-8"
  | utf16le => "utf-16-le"
  | utf16be => "utf-16-be"
  | utf32le => "utf-32-le"
  | utf32be => "utf-32-be"

/-- Why an encoding refuses a code point: ASCII ends at 128, the others have no surrogates. -/
def refusal : Codec → Text
  | ascii => "ordinal not in range(128)"
  | _ => "surrogates not allowed"

end Codec

/-- A run of code points that an encoding does not hold. -/
structure EncodeError where
  codec : Codec
  /-- The index of the first of them. -/
  start : Nat
  /-- The index after the last of them. -/
  stop : Nat
  /-- The first of them. -/
  first : CodePoint
  deriving DecidableEq, Repr

/-- The wording of an encoding failure: one code point is shown by its number, several by their
place. -/
def EncodeError.message (e : EncodeError) : Text :=
  let place :=
    if e.stop = e.start + 1 then
      Text.ofString "character '" ++ e.first.escape ++ "' in position " ++ Text.decimal e.start
    else
      Text.ofString "characters in position " ++ Text.decimal e.start ++ "-" ++
        Text.decimal (e.stop - 1)
  Text.ofString "'" ++ e.codec.name ++ "' codec can't encode " ++ place ++ ": " ++ e.codec.refusal

/-- What is wrong with bytes that do not decode. -/
inductive DecodeFault
  /-- The byte begins no code point. -/
  | invalidStart
  /-- A byte that has to continue a code point does not. -/
  | invalidContinuation
  /-- The bytes end inside a code point. -/
  | unexpectedEnd
  /-- The number of bytes is no multiple of the unit. -/
  | truncated
  /-- The number is above the last code point. -/
  | outOfRange
  deriving DecidableEq, Repr

/-- The wording of a fault. -/
def DecodeFault.reason : DecodeFault → Text
  | .invalidStart => "invalid start byte"
  | .invalidContinuation => "invalid continuation byte"
  | .unexpectedEnd => "unexpected end of data"
  | .truncated => "truncated data"
  | .outOfRange => "code point not in range(0x110000)"

/-- A run of bytes that does not decode. -/
structure DecodeError where
  codec : Codec
  /-- The index of the first of them. -/
  start : Nat
  /-- The index after the last of them. -/
  stop : Nat
  /-- The first of them. -/
  first : UInt8
  fault : DecodeFault
  deriving DecidableEq, Repr

/-- The wording of a decoding failure: one byte is shown, several by their place. -/
def DecodeError.message (e : DecodeError) : Text :=
  let place :=
    if e.stop = e.start + 1 then
      Text.ofString "byte 0x" ++ Text.paddedHex 2 e.first.toNat ++ " in position " ++
        Text.decimal e.start
    else
      Text.ofString "bytes in position " ++ Text.decimal e.start ++ "-" ++ Text.decimal (e.stop - 1)
  Text.ofString "'" ++ e.codec.name ++ "' codec can't decode " ++ place ++ ": " ++ e.fault.reason

end AdmissionLedger
