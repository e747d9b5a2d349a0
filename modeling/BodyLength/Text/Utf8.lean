import BodyLength.Text.Quoted

/-!
# Decoding bytes

Files are bytes, and most of them have to be UTF-8. `Utf8.decode` reads a whole file and says, where
it fails, which bytes are to blame and why: a byte that starts no character, a byte that does not
continue the character before it, or an end in the middle of a character. The bytes to blame are the
ones already read of the character, so that the first byte that breaks the rule is not among them.

A file that is read as text arrives in pieces of a fixed size, and a character cut by the end of a
piece is kept back for the next one. `Utf8.decodePieces` reads this way. It accepts the same files,
but a failure counts its position from the start of the piece with what was kept back before it.
-/

namespace BodyLength

/-- Why bytes are no UTF-8. -/
inductive Utf8Reason where
  | startByte
  | continuationByte
  | unexpectedEnd
deriving DecidableEq, Repr

/-- The wording of a reason. -/
def Utf8Reason.message : Utf8Reason → String
  | .startByte => "invalid start byte"
  | .continuationByte => "invalid continuation byte"
  | .unexpectedEnd => "unexpected end of data"

/-- A failure to decode: the position and number of the bytes to blame, the first of them, and why. -/
structure Utf8Error where
  /-- The position of the first byte to blame. -/
  position : Nat
  /-- The number of bytes to blame, at least one. -/
  count : Nat
  /-- The first byte to blame. -/
  byte : UInt8
  /-- What is wrong with them. -/
  reason : Utf8Reason
deriving DecidableEq, Repr

/-- The wording of a failure to decode. -/
def Utf8Error.message (e : Utf8Error) : String :=
  let place :=
    if e.count = 1 then
      "byte 0x" ++ hexPadded 2 e.byte.toNat ++ " in position " ++ toString e.position
    else
      "bytes in position " ++ toString e.position ++ "-" ++ toString (e.position + e.count - 1)
  "'utf-8' codec can't decode " ++ place ++ ": " ++ e.reason.message

namespace Utf8

/-! ## One character -/

/-- Is the byte one that continues a character? -/
def isContinuation (b : UInt8) : Bool :=
  0x80 ≤ b && b < 0xC0

/-- The payload bits of a byte. -/
def payload (b : UInt8) (mask : UInt8) : Nat :=
  (b &&& mask).toNat

/-- May `second` follow `first` in a character of three bytes? Some pairs would encode a character
that has a shorter encoding, others a surrogate. -/
def isSecondOfThree (first second : UInt8) : Bool :=
  isContinuation second &&
    (if first = 0xE0 then 0xA0 ≤ second else if first = 0xED then second < 0xA0 else true)

/-- May `second` follow `first` in a character of four bytes? Some pairs would encode a character
that has a shorter encoding, others no code point at all. -/
def isSecondOfFour (first second : UInt8) : Bool :=
  isContinuation second &&
    (if first = 0xF0 then 0x90 ≤ second else if first = 0xF4 then second < 0x90 else true)

/-- What the start of some bytes is. -/
inductive Step where
  /-- A character of some bytes. -/
  | char (c : Char) (size : Nat)
  /-- No character, for the given number of bytes. -/
  | bad (count : Nat) (reason : Utf8Reason)
  /-- The beginning of a character and then the end. -/
  | cut
deriving DecidableEq, Repr

/-- Reads the bytes after the first one of a character of three bytes. -/
def stepThree (first : UInt8) : List UInt8 → Step
  | [] => .cut
  | second :: rest =>
    if !isSecondOfThree first second then .bad 1 .continuationByte
    else match rest with
      | [] => .cut
      | third :: _ =>
        if !isContinuation third then .bad 2 .continuationByte
        else .char (Char.ofNat
          (payload first 0x0F * 4096 + payload second 0x3F * 64 + payload third 0x3F)) 3

/-- Reads the bytes after the first one of a character of four bytes. -/
def stepFour (first : UInt8) : List UInt8 → Step
  | [] => .cut
  | second :: rest =>
    if !isSecondOfFour first second then .bad 1 .continuationByte
    else match rest with
      | [] => .cut
      | third :: rest =>
        if !isContinuation third then .bad 2 .continuationByte
        else match rest with
          | [] => .cut
          | fourth :: _ =>
            if !isContinuation fourth then .bad 3 .continuationByte
            else .char (Char.ofNat
              (payload first 0x07 * 262144 + payload second 0x3F * 4096 +
                payload third 0x3F * 64 + payload fourth 0x3F)) 4

/-- Reads the first character after the byte `first`. -/
def step (first : UInt8) (rest : List UInt8) : Step :=
  if first < 0x80 then .char (Char.ofNat first.toNat) 1
  else if first < 0xC2 then .bad 1 .startByte
  else if first < 0xE0 then
    match rest with
    | [] => .cut
    | second :: _ =>
      if !isContinuation second then .bad 1 .continuationByte
      else .char (Char.ofNat (payload first 0x1F * 64 + payload second 0x3F)) 2
  else if first < 0xF0 then stepThree first rest
  else if first < 0xF5 then stepFour first rest
  else .bad 1 .startByte

/-! ## Whole texts -/

/-- Decodes bytes of which `skip` still belong to the character read last, the next byte standing at
`pos`. At an end in the middle of a character the bytes that were read of it are given back. -/
def run : Nat → Nat → List UInt8 → Except Utf8Error (List Char × List UInt8)
  | _, _, [] => .ok ([], [])
  | pos, skip + 1, _ :: rest => run (pos + 1) skip rest
  | pos, 0, b :: rest =>
    match step b rest with
    | .char c size => do
      let (cs, kept) ← run (pos + 1) (size - 1) rest
      .ok (c :: cs, kept)
    | .bad count reason => .error ⟨pos, count, b, reason⟩
    | .cut => .ok ([], b :: rest)

/-- Bytes that are the beginning of a character and then end are to blame together. -/
def endOfData (pos : Nat) : List UInt8 → Except Utf8Error (List Char)
  | [] => .ok []
  | b :: rest => .error ⟨pos, rest.length + 1, b, .unexpectedEnd⟩

/-- Decodes a whole text. -/
def decode (bytes : List UInt8) : Except Utf8Error (List Char) := do
  let (cs, kept) ← run 0 0 bytes
  let tail ← endOfData (bytes.length - kept.length) kept
  .ok (cs ++ tail)

/-! ## Texts in pieces -/

/-- Decodes piece after piece, `kept` being what was cut off the piece before. A piece has `size`
bytes, and `pieces` bounds their number. -/
def runPieces (size : Nat) : Nat → List UInt8 → List UInt8 → Except Utf8Error (List Char)
  | 0, kept, _ => endOfData 0 kept
  | pieces + 1, kept, bytes =>
    if bytes.isEmpty then endOfData 0 kept
    else do
      let (cs, kept) ← run 0 0 (kept ++ bytes.take size)
      let rest ← runPieces size pieces kept (bytes.drop size)
      .ok (cs ++ rest)

/-- Decodes a text that arrives in pieces of `size` bytes. -/
def decodePieces (size : Nat) (bytes : List UInt8) : Except Utf8Error (List Char) :=
  runPieces size (bytes.length + 1) [] bytes

/-! ## Encoding -/

/-- The bytes of a character. -/
def encodeChar (c : Char) : List UInt8 :=
  let n := c.toNat
  if n < 0x80 then [n.toUInt8]
  else if n < 0x800 then [(0xC0 + n / 64).toUInt8, (0x80 + n % 64).toUInt8]
  else if n < 0x10000 then
    [(0xE0 + n / 4096).toUInt8, (0x80 + n / 64 % 64).toUInt8, (0x80 + n % 64).toUInt8]
  else
    [(0xF0 + n / 262144).toUInt8, (0x80 + n / 4096 % 64).toUInt8, (0x80 + n / 64 % 64).toUInt8,
      (0x80 + n % 64).toUInt8]

/-- The bytes of a text. -/
def encode (cs : List Char) : List UInt8 :=
  cs.flatMap encodeChar

end Utf8

/-! ## Texts of one byte a character -/

/-- The text that has one character for each byte. -/
def decodeLatin (bytes : List UInt8) : List Char :=
  bytes.map fun b => Char.ofNat b.toNat

/-! ## Line endings -/

/-- Every line ending as a single line feed. -/
def unifyNewlines : List Char → List Char
  | [] => []
  | '\r' :: '\n' :: rest => '\n' :: unifyNewlines rest
  | '\r' :: rest => '\n' :: unifyNewlines rest
  | c :: rest => c :: unifyNewlines rest

end BodyLength
