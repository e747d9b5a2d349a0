import BodyLength.Text.Utf8

/-!
# Source code as text

Source code is read as UTF-8 with or without a byte order mark, and what is no UTF-8 is read with one character
for each byte. So every file is some text. Line endings stay as they are.

A file that ends within the byte order mark is read as no text at all.
-/

namespace BodyLength

/-- The bytes of the byte order mark. -/
def byteOrderMark : List UInt8 :=
  [0xEF, 0xBB, 0xBF]

/-- The bytes without the byte order mark in front, if there is one. -/
def withoutMark (bytes : List UInt8) : List UInt8 :=
  if bytes.take byteOrderMark.length = byteOrderMark then bytes.drop byteOrderMark.length else bytes

/-- Do the bytes end within the byte order mark? -/
def endsWithinMark (bytes : List UInt8) : Bool :=
  decide (bytes.length < byteOrderMark.length) && bytes == byteOrderMark.take bytes.length

/-- The text of source code. -/
def sourceText (bytes : List UInt8) : List Char :=
  if endsWithinMark bytes then []
  else
    match Utf8.decode (withoutMark bytes) with
    | .ok text => text
    | .error _ => decodeLatin bytes

end BodyLength
