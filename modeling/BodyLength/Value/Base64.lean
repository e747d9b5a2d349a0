import BodyLength.Number.Binary64

/-!
# Bytes in base 64

Bytes can be written with 64 characters, each for six bits. Characters that are none of them are passed over.
The text has to end with a whole number of bytes, or with enough equals signs to fill the last group of four;
what stands behind these is not read.
-/

namespace BodyLength

/-- The six bits that a character stands for. -/
def sixBits? (c : Char) : Option Nat :=
  if 'A' ≤ c && c ≤ 'Z' then some (c.toNat - 65)
  else if 'a' ≤ c && c ≤ 'z' then some (c.toNat - 71)
  else if '0' ≤ c && c ≤ '9' then some (c.toNat + 4)
  else if c == '+' then some 62
  else if c == '/' then some 63
  else none

/-- Why a text is no base 64. -/
inductive Base64Error where
  /-- There is one character more than the bytes need. -/
  | extraChar (count : Nat)
  /-- The last group is not filled. -/
  | padding
deriving DecidableEq, Repr

/-- The wording of a cause. -/
def Base64Error.message : Base64Error → String
  | extraChar count =>
    "Invalid base64-encoded string: number of data characters (" ++ toString count ++
      ") cannot be 1 more than a multiple of 4"
  | padding => "Incorrect padding"

/-- Reads bytes: `group` characters of the current group have been read, `left` is what they leave for the
next byte, `pads` equals signs have come last, and `count` bytes have been read. -/
def decodeSixBits : Nat → Nat → Nat → Nat → List Char → Except Base64Error (List UInt8)
  | group, _, _, count, [] =>
    if group = 0 then .ok []
    else if group = 1 then .error (.extraChar (count / 3 * 4 + 1))
    else .error .padding
  | group, left, pads, count, c :: rest =>
    if c == '=' then
      if group ≥ 2 && group + pads + 1 ≥ 4 then .ok []
      else decodeSixBits group left (if group ≥ 2 then pads + 1 else pads) count rest
    else
      match sixBits? c with
      | none => decodeSixBits group left pads count rest
      | some bits =>
        if group = 0 then decodeSixBits 1 bits 0 count rest
        else if group = 1 then do
          let bytes ← decodeSixBits 2 (bits % 16) 0 (count + 1) rest
          .ok ((left * 4 + bits / 16).toUInt8 :: bytes)
        else if group = 2 then do
          let bytes ← decodeSixBits 3 (bits % 4) 0 (count + 1) rest
          .ok ((left * 16 + bits / 4).toUInt8 :: bytes)
        else do
          let bytes ← decodeSixBits 0 0 0 (count + 1) rest
          .ok ((left * 64 + bits).toUInt8 :: bytes)

/-- The bytes that a text writes in base 64. -/
def decodeBase64 (text : List Char) : Except Base64Error (List UInt8) :=
  decodeSixBits 0 0 0 0 text

end BodyLength
