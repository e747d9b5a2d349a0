import BodyLength.Source.Token
import BodyLength.Text.CharName

/-!
# String literals

A string token is taken apart into the letters in front of it and the content between its marks. The linter
has no use for the value of a string, but two things about the content matter. A bad escape makes the
program one that cannot be read. And a piece of a formatted string is a constant of its own only if it
stands for at least one character, which a continued line does not.
-/

namespace BodyLength

/-- The pieces of a string token. -/
structure Literal where
  isBytes : Bool
  isRaw : Bool
  isFormatted : Bool
  /-- The number of characters in front of the content. -/
  lead : Nat
  content : List Char
deriving Repr

namespace Literal

/-- Takes a token apart. -/
def ofChars (text : List Char) : Literal :=
  let letters := text.takeWhile fun c => c != '"' && c != '\''
  let marked := text.drop letters.length
  let mark := marked.take 1
  let width := if marked.take 3 == mark ++ mark ++ mark && marked.length ≥ 6 then 3 else 1
  let has := fun (a b : Char) => letters.any fun c => c == a || c == b
  ⟨has 'b' 'B', has 'r' 'R', has 'f' 'F', letters.length + width,
    (marked.drop width).take (marked.length - 2 * width)⟩

end Literal

/-! ## Escapes -/

/-- Is the character a digit of base sixteen? -/
def isHexDigit (c : Char) : Bool :=
  c.isDigit || ('a' ≤ c && c ≤ 'f') || ('A' ≤ c && c ≤ 'F')

/-- Do the characters start with so many digits of base sixteen? -/
def startsWithHex (count : Nat) (cs : List Char) : Bool :=
  (cs.take count).length == count && (cs.take count).all isHexDigit

/-- Do the characters behind the letter of an escape complete it? The name of a character has to be known. -/
def completesEscape (isBytes : Bool) (letter : Char) (cs : List Char) : Bool :=
  if letter == 'x' then startsWithHex 2 cs
  else if isBytes then true
  else if letter == 'u' then startsWithHex 4 cs
  else if letter == 'U' then startsWithHex 8 cs && ofHex (cs.take 8) ≤ 0x10ffff
  else if letter == 'N' then
    match cs with
    | '\x7b' :: rest =>
      let name := rest.takeWhile (· != '\x7d')
      name.length < rest.length && (CharNames.find? name).isSome
    | _ => false
  else true

/-- Are all escapes of a text complete? -/
def hasGoodEscapes (isBytes : Bool) : List Char → Bool
  | [] => true
  | '\\' :: c :: rest => completesEscape isBytes c rest && hasGoodEscapes isBytes rest
  | _ :: rest => hasGoodEscapes isBytes rest

/-- Does a text stand for no character at all? A line that is continued stands for none. -/
def isSilent (isRaw : Bool) : List Char → Bool
  | [] => true
  | '\\' :: '\n' :: rest => !isRaw && isSilent isRaw rest
  | _ => false

namespace Literal

/-- Is a piece of the content well formed? -/
def admits (l : Literal) (piece : List Char) : Bool :=
  l.isRaw || hasGoodEscapes l.isBytes piece

end Literal

end BodyLength
