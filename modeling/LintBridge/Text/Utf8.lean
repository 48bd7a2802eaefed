/-!
# UTF-8

Encoding, and decoding one maximal well-formed or ill-formed piece at a time.
-/

namespace LintBridge.Text

/-- The bytes of a text. -/
def encode (text : List Char) : List UInt8 :=
  text.flatMap String.utf8EncodeChar

/-- Why bytes are no text. -/
inductive DecodeFault where
  | invalidStart
  | invalidContinuation
  | unexpectedEnd
  deriving DecidableEq, Repr

/-- The reason as written in messages. -/
def DecodeFault.reason : DecodeFault → String
  | .invalidStart => "invalid start byte"
  | .invalidContinuation => "invalid continuation byte"
  | .unexpectedEnd => "unexpected end of data"

/-- What stands at the front of a byte sequence: a character, or some bytes that
begin no character. Either takes the given number of bytes. -/
inductive Piece where
  | char (c : Char) (width : Nat)
  | fault (fault : DecodeFault) (width : Nat)

/-- The bytes that may follow a first byte: a first byte of three or four narrows
its second byte, to exclude overlong forms, surrogates and numbers past the last
code point. -/
def secondByteOk (first second : UInt8) : Bool :=
  0x80 ≤ second && second ≤ 0xBF &&
    (if first = 0xE0 then 0xA0 ≤ second
     else if first = 0xED then second ≤ 0x9F
     else if first = 0xF0 then 0x90 ≤ second
     else if first = 0xF4 then second ≤ 0x8F
     else true)

/-- Bytes that continue a character. -/
def isContinuation (byte : UInt8) : Bool :=
  0x80 ≤ byte && byte ≤ 0xBF

/-- The low bits of a byte. -/
def lowBits (byte : UInt8) (modulus : Nat) : Nat :=
  byte.toNat % modulus

/-- The piece at the front of `first :: rest`. -/
def nextPiece (first : UInt8) (rest : List UInt8) : Piece :=
  if first < 0x80 then .char (Char.ofNat first.toNat) 1
  else if first < 0xC2 then .fault .invalidStart 1
  else if first < 0xE0 then
    match rest with
    | [] => .fault .unexpectedEnd 1
    | b :: _ =>
        if isContinuation b then .char (Char.ofNat (lowBits first 32 * 64 + lowBits b 64)) 2
        else .fault .invalidContinuation 1
  else if first < 0xF0 then
    match rest with
    | [] => .fault .unexpectedEnd 1
    | b :: rest =>
        if !secondByteOk first b then .fault .invalidContinuation 1
        else match rest with
          | [] => .fault .unexpectedEnd 2
          | c :: _ =>
              if isContinuation c then
                .char (Char.ofNat ((lowBits first 16 * 64 + lowBits b 64) * 64 + lowBits c 64)) 3
              else .fault .invalidContinuation 2
  else if first < 0xF5 then
    match rest with
    | [] => .fault .unexpectedEnd 1
    | b :: rest =>
        if !secondByteOk first b then .fault .invalidContinuation 1
        else match rest with
          | [] => .fault .unexpectedEnd 2
          | c :: rest =>
              if !isContinuation c then .fault .invalidContinuation 2
              else match rest with
                | [] => .fault .unexpectedEnd 3
                | d :: _ =>
                    if isContinuation d then
                      let upper := (lowBits first 8 * 64 + lowBits b 64) * 64 + lowBits c 64
                      .char (Char.ofNat (upper * 64 + lowBits d 64)) 4
                    else .fault .invalidContinuation 3
  else .fault .invalidStart 1

/-- Decode, writing the replacement character for every ill-formed piece. The
first argument counts the bytes that belong to the piece before. -/
def decodeLossyFrom : Nat → List UInt8 → List Char
  | _, [] => []
  | skip + 1, _ :: rest => decodeLossyFrom skip rest
  | 0, first :: rest =>
      match nextPiece first rest with
      | .char c width => c :: decodeLossyFrom (width - 1) rest
      | .fault _ width => '\uFFFD' :: decodeLossyFrom (width - 1) rest

/-- The text of any byte sequence, ill-formed pieces replaced. -/
def decodeLossy (bytes : List UInt8) : List Char :=
  decodeLossyFrom 0 bytes

/-- An ill-formed piece: its fault, its position, its first byte and its width. -/
structure DecodeError where
  fault : DecodeFault
  position : Nat
  byte : UInt8
  width : Nat
  deriving DecidableEq, Repr

/-- Decode from a position on, stopping at the first ill-formed piece. -/
def decodeFrom : Nat → Nat → List UInt8 → Except DecodeError (List Char)
  | _, _, [] => .ok []
  | position, skip + 1, _ :: rest => decodeFrom (position + 1) skip rest
  | position, 0, first :: rest =>
      match nextPiece first rest with
      | .char c width =>
          match decodeFrom (position + 1) (width - 1) rest with
          | .ok text => .ok (c :: text)
          | .error error => .error error
      | .fault fault width => .error ⟨fault, position, first, width⟩

/-- The text of a well-formed byte sequence. -/
def decode (bytes : List UInt8) : Except DecodeError (List Char) :=
  decodeFrom 0 0 bytes

end LintBridge.Text
