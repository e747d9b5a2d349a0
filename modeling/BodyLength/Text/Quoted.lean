import BodyLength.Text.Printable

/-!
# Text shown between quotes

A message that quotes a text from a configuration or a document shows it in one line, between
quotation marks, with everything that is not printable written as an escape. The marks are single
ones, unless the text holds a single mark and no double one.

The escape of a character is as short as its code point allows: two, four or eight hexadecimal
digits. Bytes are shown in the same way, with two digits for all that is not printable ASCII.
-/

namespace BodyLength

/-- A number in hexadecimal digits, with leading zeros up to a width. -/
def hexPadded (width n : Nat) : String :=
  let digits := Nat.toDigits 16 n
  String.ofList (List.replicate (width - digits.length) '0' ++ digits)

/-- The escape of a character by its code point. -/
def codePointEscape (code : Nat) : String :=
  if code < 0x100 then "\\x" ++ hexPadded 2 code
  else if code < 0x10000 then "\\u" ++ hexPadded 4 code
  else "\\U" ++ hexPadded 8 code

/-- The quotation mark for a text. -/
def quoteMark (cs : List Char) : Char :=
  if cs.contains '\'' && !cs.contains '"' then '"' else '\''

/-- A character as it stands between the given marks. -/
def quotedChar (mark c : Char) : String :=
  if c == mark || c == '\\' then String.ofList ['\\', c]
  else if c == '\t' then "\\t"
  else if c == '\n' then "\\n"
  else if c == '\r' then "\\r"
  else if isPrintable c then c.toString
  else codePointEscape c.toNat

/-- A text between quotation marks. -/
def quoted (text : String) : String :=
  let cs := text.toList
  let mark := quoteMark cs
  mark.toString ++ String.join (cs.map (quotedChar mark)) ++ mark.toString

/-- A byte as it stands between the given marks. -/
def quotedByte (mark : Char) (byte : Nat) : String :=
  if byte < 128 then
    let c := Char.ofNat byte
    if 32 ≤ byte && byte < 127 || c == '\t' || c == '\n' || c == '\r' then quotedChar mark c
    else "\\x" ++ hexPadded 2 byte
  else "\\x" ++ hexPadded 2 byte

/-- Bytes between quotation marks. -/
def quotedBytes (bytes : List UInt8) : String :=
  let mark := quoteMark (bytes.map fun b => Char.ofNat b.toNat)
  "b" ++ mark.toString ++ String.join (bytes.map fun b => quotedByte mark b.toNat) ++ mark.toString

end BodyLength
