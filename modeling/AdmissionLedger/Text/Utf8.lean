import AdmissionLedger.Text.Bytes

/-!
# UTF-8

The strict encoder refuses surrogates.  The decoder refuses them too unless it is
told to pass them, as the reader of documents does, which takes the three bytes
that a surrogate would have.

## Main definitions

* `Text.encodeUtf8`, `Text.encodeAscii` — encoding, or the first run that cannot be encoded.
* `Text.encodeUtf8Raw` — encoding where surrogates may stand for single bytes.
* `Text.decodeUtf8` — decoding, or the first bytes that cannot be decoded.
* `Text.decodeUtf8Lossy` — decoding with replacements for what cannot be decoded.
-/

namespace AdmissionLedger

/-- The UTF-8 bytes of a code point, the same scheme for a surrogate as for its neighbours. -/
def CodePoint.utf8Bytes (c : CodePoint) : Bytes :=
  if c.val < 0x80 then [UInt8.ofNat c.val]
  else if c.val < 0x800 then [UInt8.ofNat (0xC0 + c.val / 64), UInt8.ofNat (0x80 + c.val % 64)]
  else if c.val < 0x10000 then
    [UInt8.ofNat (0xE0 + c.val / 4096), UInt8.ofNat (0x80 + c.val / 64 % 64),
      UInt8.ofNat (0x80 + c.val % 64)]
  else
    [UInt8.ofNat (0xF0 + c.val / 262144), UInt8.ofNat (0x80 + c.val / 4096 % 64),
      UInt8.ofNat (0x80 + c.val / 64 % 64), UInt8.ofNat (0x80 + c.val % 64)]

/-- Surrogates that stand for the bytes 0x80 to 0xFF, which they end in. -/
def CodePoint.isRawByte (c : CodePoint) : Bool :=
  0xDC80 ≤ c.val && c.val ≤ 0xDCFF

namespace Text

/-- The failure at the first run of code points that an encoding refuses, if there is one.  Those
that are passed over at its beginning are no part of the run. -/
def firstRefused (codec : Codec) (refused passed : CodePoint → Bool) (t : Text) :
    Option EncodeError :=
  let kept (c : CodePoint) : Bool := !refused c || passed c
  let before := t.takeWhile kept
  match t.dropWhile kept with
  | [] => none
  | c :: rest =>
    some ⟨codec, before.length, before.length + 1 + (rest.takeWhile refused).length, c⟩

/-- The UTF-8 bytes of a text without surrogates. -/
def encodeUtf8 (t : Text) : Except EncodeError Bytes :=
  match firstRefused .utf8 CodePoint.isSurrogate (fun _ => false) t with
  | some e => .error e
  | none => .ok (t.flatMap CodePoint.utf8Bytes)

/-- The bytes of a text of ASCII code points. -/
def encodeAscii (t : Text) : Except EncodeError Bytes :=
  match firstRefused .ascii (fun c => 0x80 ≤ c.val) (fun _ => false) t with
  | some e => .error e
  | none => .ok (t.map fun c => UInt8.ofNat c.val)

/-- The UTF-8 bytes of a text in which some surrogates stand for single bytes. -/
def encodeUtf8Raw (t : Text) : Except EncodeError Bytes :=
  match firstRefused .utf8 CodePoint.isSurrogate CodePoint.isRawByte t with
  | some e => .error e
  | none => .ok (t.flatMap fun c => if c.isRawByte then [UInt8.ofNat c.val] else c.utf8Bytes)

end Text

/-- How many bytes follow a first byte, and the range of the second; `none` if the byte begins
nothing.  The ranges exclude over-long forms, surrogates and numbers past the last code point. -/
def utf8Lead (b : Nat) : Option (Nat × Nat × Nat) :=
  if b < 0xC2 then none
  else if b < 0xE0 then some (1, 0x80, 0xBF)
  else if b = 0xE0 then some (2, 0xA0, 0xBF)
  else if b = 0xED then some (2, 0x80, 0x9F)
  else if b < 0xF0 then some (2, 0x80, 0xBF)
  else if b = 0xF0 then some (3, 0x90, 0xBF)
  else if b < 0xF4 then some (3, 0x80, 0xBF)
  else if b = 0xF4 then some (3, 0x80, 0x8F)
  else none

/-- Whether a byte continues a code point. -/
def isContinuation (b : UInt8) : Bool :=
  0x80 ≤ b.toNat && b.toNat < 0xC0

namespace Text

/-- Decodes from a position on, the code points before it already in `done`, last first. -/
def decodeUtf8From (passSurrogates : Bool) :
    (pos : Nat) → (done : Text) → Bytes → Except DecodeError Text
  | _, done, [] => .ok done.reverse
  | pos, done, b :: rest =>
    if b.toNat < 0x80 then
      decodeUtf8From passSurrogates (pos + 1) (CodePoint.ofNat b.toNat :: done) rest
    else
      let fail (stop : Nat) (fault : DecodeFault) : Except DecodeError Text :=
        .error ⟨.utf8, pos, stop, b, fault⟩
      let toEnd := pos + 1 + rest.length
      match utf8Lead b.toNat with
      | none => fail (pos + 1) .invalidStart
      | some (more, low, high) =>
        match rest with
        | [] => fail toEnd .unexpectedEnd
        | b₁ :: rest₁ =>
          let n₁ := b.toNat % (if more = 1 then 32 else if more = 2 then 16 else 8) * 64 +
            b₁.toNat % 64
          if low ≤ b₁.toNat && b₁.toNat ≤ high then
            if more = 1 then
              decodeUtf8From passSurrogates (pos + 2) (CodePoint.ofNat n₁ :: done) rest₁
            else
              match rest₁ with
              | [] => fail toEnd .unexpectedEnd
              | b₂ :: rest₂ =>
                let n₂ := n₁ * 64 + b₂.toNat % 64
                if !isContinuation b₂ then fail (pos + 2) .invalidContinuation
                else if more = 2 then
                  decodeUtf8From passSurrogates (pos + 3) (CodePoint.ofNat n₂ :: done) rest₂
                else
                  match rest₂ with
                  | [] => fail toEnd .unexpectedEnd
                  | b₃ :: rest₃ =>
                    if !isContinuation b₃ then fail (pos + 3) .invalidContinuation
                    else
                      decodeUtf8From passSurrogates (pos + 4)
                        (CodePoint.ofNat (n₂ * 64 + b₃.toNat % 64) :: done) rest₃
          else
            match rest₁ with
            | b₂ :: rest₂ =>
              if passSurrogates && b.toNat = 0xED && isContinuation b₁ && isContinuation b₂ then
                decodeUtf8From passSurrogates (pos + 3)
                  (CodePoint.ofNat (n₁ * 64 + b₂.toNat % 64) :: done) rest₂
              else fail (pos + 1) .invalidContinuation
            | [] => fail (pos + 1) .invalidContinuation

/-- The text of UTF-8 bytes; `passSurrogates` accepts the bytes of surrogates. -/
def decodeUtf8 (passSurrogates : Bool) (bytes : Bytes) : Except DecodeError Text :=
  decodeUtf8From passSurrogates 0 [] bytes

/-- Decodes run by run, at most `fuel` of them. -/
def decodeUtf8Runs : (fuel : Nat) → Bytes → Text
  | 0, _ => []
  | fuel + 1, bytes =>
    match decodeUtf8 false bytes with
    | .ok t => t
    | .error e =>
      let before := match decodeUtf8 false (bytes.take e.start) with
        | .ok t => t
        | .error _ => []
      before ++ CodePoint.ofChar '\uFFFD' :: decodeUtf8Runs fuel (bytes.drop e.stop)

/-- The text of bytes, with a replacement character for each run of bytes that cannot be decoded. -/
def decodeUtf8Lossy (bytes : Bytes) : Text :=
  decodeUtf8Runs (bytes.length + 1) bytes

end Text

end AdmissionLedger
