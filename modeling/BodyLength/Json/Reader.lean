import BodyLength.Json.Basic
import BodyLength.Number.Numeral
import BodyLength.Report.Abort

/-!
# Reading JSON text

The reader accepts a JSON value with blanks around it, and the names of the infinities and of no
number besides. It refuses everything else at the first character that cannot be right, and says what
it would have expected there. A failure is placed by its position in the text and, for people, by the
line and the column, both counted from one; only a line feed ends a line here.

An integer with too many digits is no failure of that kind. It ends the reading where it is met, whatever stands
behind it, and nobody handles it.

An escape that is one half of a pair without the other stands for no character. It is read as the character that
takes the place of unknown ones.

Values nest, so reading one is a recursion, and the number of its steps that are left is handed down.
A level takes two steps, one for the collection and one for its first part, and has consumed at least a
character; a further part takes one step and has consumed at least two. Twice the length of the text is
therefore enough, running out of steps is no case of its own, and it reads as a missing value.
-/

namespace BodyLength

/-! ## Failures -/

/-- What is wrong with a JSON text. -/
inductive JsonProblem where
  | byteOrderMark
  | expectingValue
  | expectingName
  | expectingColon
  | expectingComma
  | unterminatedString
  | controlCharacter
  | invalidEscape
  | invalidUnicodeEscape
  | extraData
deriving DecidableEq, Repr

/-- The wording of a problem. -/
def JsonProblem.message : JsonProblem → String
  | .byteOrderMark => "Unexpected UTF-8 BOM (decode using utf-8-sig)"
  | .expectingValue => "Expecting value"
  | .expectingName => "Expecting property name enclosed in double quotes"
  | .expectingColon => "Expecting ':' delimiter"
  | .expectingComma => "Expecting ',' delimiter"
  | .unterminatedString => "Unterminated string starting at"
  | .controlCharacter => "Invalid control character at"
  | .invalidEscape => "Invalid \\escape"
  | .invalidUnicodeEscape => "Invalid \\uXXXX escape"
  | .extraData => "Extra data"

/-- A problem at a position. -/
structure JsonFault where
  problem : JsonProblem
  position : Nat
deriving DecidableEq, Repr

/-- A problem at a position, with the line and the column of it. -/
structure JsonError where
  problem : JsonProblem
  position : Nat
  line : Nat
  column : Nat
deriving DecidableEq, Repr

/-- The error for a fault in a text. -/
def JsonFault.inText (f : JsonFault) (text : List Char) : JsonError :=
  let before := text.take f.position
  let current := before.reverse.takeWhile (· != '\n')
  ⟨f.problem, f.position, before.count '\n' + 1, current.length + 1⟩

/-- The wording of an error. -/
def JsonError.message (e : JsonError) : String :=
  e.problem.message ++ ": line " ++ toString e.line ++ " column " ++ toString e.column ++
    " (char " ++ toString e.position ++ ")"

namespace Json

/-! ## Cursors -/

/-- The part of a text that is still to be read, and its position. -/
structure Cursor where
  position : Nat
  rest : List Char

/-- Fails at a cursor. -/
def Cursor.fail {α : Type} (c : Cursor) (problem : JsonProblem) : Except (Fault JsonFault) α :=
  .error (.error ⟨problem, c.position⟩)

/-- The cursor some characters further on. -/
def Cursor.skip (c : Cursor) (count : Nat) : Cursor :=
  ⟨c.position + count, c.rest.drop count⟩

/-- The four blanks of the format. -/
def isJsonBlank (c : Char) : Bool :=
  c == ' ' || c == '\t' || c == '\n' || c == '\r'

/-- The cursor behind the blanks. -/
def Cursor.skipBlanks (c : Cursor) : Cursor :=
  c.skip (c.rest.takeWhile isJsonBlank).length

/-! ## Strings -/

/-- The character that a backslash and a letter stand for. -/
def simpleEscape? : Char → Option Char
  | '"' => some '"'
  | '\\' => some '\\'
  | '/' => some '/'
  | 'b' => some '\x08'
  | 'f' => some '\x0c'
  | 'n' => some '\n'
  | 'r' => some '\r'
  | 't' => some '\t'
  | _ => none

/-- Is the character a hexadecimal digit? -/
def isHexDigit (c : Char) : Bool :=
  ('0' ≤ c && c ≤ '9') || ('a' ≤ c && c ≤ 'f') || ('A' ≤ c && c ≤ 'F')

/-- The value of four hexadecimal digits with at least one character behind them. -/
def fourHex? : List Char → Option Nat
  | a :: b :: c :: d :: _ :: _ =>
    if [a, b, c, d].all isHexDigit then some (ofDigits 16 [a, b, c, d]) else none
  | _ => none

/-- What an escape by code point stands for. -/
inductive UnicodeEscape where
  /-- A character, and the number of characters that spell it after the first backslash and letter. -/
  | char (c : Char) (size : Nat)
  /-- A pair whose second half is misspelt. -/
  | badSecond
  /-- A misspelt escape. -/
  | bad

/-- Reads the digits of an escape by code point. A high half of a pair takes a following low half with
it, if a character follows that one. A half that stands alone is no character, and a text consists of characters
here: it is read as the replacement character. -/
def unicodeEscape (cs : List Char) : UnicodeEscape :=
  match fourHex? cs with
  | none => .bad
  | some high =>
    if 0xD800 ≤ high && high < 0xDC00 then
      match cs.drop 4 with
      | '\\' :: 'u' :: more =>
        if more.length < 5 then .char (Char.ofNat 0xFFFD) 4
        else match fourHex? more with
          | none => .badSecond
          | some low =>
            if 0xDC00 ≤ low && low < 0xE000 then
              .char (Char.ofNat (0x10000 + (high - 0xD800) * 0x400 + (low - 0xDC00))) 10
            else .char (Char.ofNat 0xFFFD) 4
      | _ => .char (Char.ofNat 0xFFFD) 4
    else .char (if 0xDC00 ≤ high && high < 0xE000 then Char.ofNat 0xFFFD else Char.ofNat high) 4

/-- Reads a string up to its closing mark. `start` is the position of the opening one and `skip` the
number of characters that the escape read last still takes. -/
def stringBody (start : Nat) : Nat → Nat → List Char → Except JsonFault (List Char × Cursor)
  | _, _, [] => .error ⟨.unterminatedString, start⟩
  | pos, skip + 1, _ :: rest => stringBody start (pos + 1) skip rest
  | pos, 0, c :: rest =>
    if c == '"' then .ok ([], ⟨pos + 1, rest⟩)
    else if c == '\\' then
      match rest with
      | [] => .error ⟨.unterminatedString, start⟩
      | 'u' :: digits =>
        match unicodeEscape digits with
        | .bad => .error ⟨.invalidUnicodeEscape, pos + 1⟩
        | .badSecond => .error ⟨.invalidUnicodeEscape, pos + 7⟩
        | .char decoded size => do
          let (cs, after) ← stringBody start (pos + 1) (size + 1) rest
          .ok (decoded :: cs, after)
      | e :: _ =>
        match simpleEscape? e with
        | none => .error ⟨.invalidEscape, pos⟩
        | some decoded => do
          let (cs, after) ← stringBody start (pos + 1) 1 rest
          .ok (decoded :: cs, after)
    else if c.toNat < 32 then .error ⟨.controlCharacter, pos⟩
    else do
      let (cs, after) ← stringBody start (pos + 1) 0 rest
      .ok (c :: cs, after)

/-- Reads a string behind its opening mark. -/
def readString (c : Cursor) : Except (Fault JsonFault) (String × Cursor) := do
  let (cs, after) ← (stringBody (c.position - 1) c.position 0 c.rest).mapError .error
  .ok (String.ofList cs, after)

/-! ## Numbers -/

/-- The integer digits at the start of a text: a zero alone, or digits that start with another one. -/
def integerDigits : List Char → List Char
  | '0' :: _ => ['0']
  | cs => cs.takeWhile isAsciiDigit

/-- The digits of a fraction, if the text starts with a point and a digit. -/
def fractionDigits : List Char → List Char
  | '.' :: rest => rest.takeWhile isAsciiDigit
  | _ => []

/-- The exponent at the start of a text, and the number of its characters. -/
def exponentPart : List Char → Option (Int × Nat)
  | e :: rest =>
    if e == 'e' || e == 'E' then
      let (negative, digits) := takeSign rest
      let signs := rest.length - digits.length
      let digits := digits.takeWhile isAsciiDigit
      if digits.isEmpty then none
      else
        let n : Int := ofDigits 10 digits
        some (if negative then -n else n, digits.length + signs + 1)
    else none
  | [] => none

/-- The integer that digits denote, if there are not too many of them. -/
def integerOf (negative : Bool) (digits : List Char) : Except (Fault JsonFault) Json :=
  if maxIntegerDigits < digits.length then
    .error (.abort (.impossibleValue (.longInteger digits.length)))
  else
    let n : Int := ofDigits 10 digits
    .ok (int (if negative then -n else n))

/-- Reads a number. -/
def readNumber (c : Cursor) : Except (Fault JsonFault) (Json × Cursor) :=
  let (negative, signs, cs) := match c.rest with
    | '-' :: rest => (true, 1, rest)
    | cs => (false, 0, cs)
  let whole := integerDigits cs
  if whole.isEmpty then c.fail .expectingValue
  else
    let fraction := fractionDigits (cs.drop whole.length)
    let point := if fraction.isEmpty then 0 else 1
    let size := whole.length + point + fraction.length
    match exponentPart (cs.drop size) with
    | some (exponent, width) =>
      .ok (.number (.fraction (DecimalText.value ⟨negative, whole, fraction, exponent⟩)),
        c.skip (signs + size + width))
    | none =>
      if fraction.isEmpty then
        (integerOf negative whole).map fun j => (j, c.skip (signs + size))
      else
        .ok (.number (.fraction (DecimalText.value ⟨negative, whole, fraction, 0⟩)),
          c.skip (signs + size))

/-! ## Values -/

/-- The values that are spelt as words. -/
def wordValues : List (List Char × Json) :=
  [("null".toList, .null), ("true".toList, .bool true), ("false".toList, .bool false),
    ("NaN".toList, .number (.fraction .nan)),
    ("Infinity".toList, .number (.fraction (.infinite false))),
    ("-Infinity".toList, .number (.fraction (.infinite true)))]

/-- Reads a value that is a word or a number. -/
def readAtom (c : Cursor) : Except (Fault JsonFault) (Json × Cursor) :=
  match wordValues.find? fun w => w.1.isPrefixOf c.rest with
  | some (word, j) => .ok (j, c.skip word.length)
  | none => readNumber c

mutual

/-- Reads a value. -/
def readValue : Nat → Cursor → Except (Fault JsonFault) (Json × Cursor)
  | 0, c => c.fail .expectingValue
  | steps + 1, c =>
    match c.rest with
    | [] => c.fail .expectingValue
    | '"' :: _ => do
      let (s, after) ← readString (c.skip 1)
      .ok (.text s, after)
    | '[' :: _ =>
      let inside := (c.skip 1).skipBlanks
      match inside.rest with
      | ']' :: _ => .ok (.list [], inside.skip 1)
      | _ => do
        let (items, after) ← readItems steps inside
        .ok (.list items, after)
    | '\x7b' :: _ =>
      let inside := (c.skip 1).skipBlanks
      match inside.rest with
      | '\x7d' :: _ => .ok (.object [], inside.skip 1)
      | _ => do
        let (members, after) ← readMembers steps inside
        .ok (.object (membersOf members), after)
    | _ => readAtom c

/-- Reads the items of a list up to its closing bracket. -/
def readItems : Nat → Cursor → Except (Fault JsonFault) (List Json × Cursor)
  | 0, c => c.fail .expectingValue
  | steps + 1, c => do
    let (j, after) ← readValue steps c
    let after := after.skipBlanks
    match after.rest with
    | ']' :: _ => .ok ([j], after.skip 1)
    | ',' :: _ => do
      let (rest, after) ← readItems steps (after.skip 1).skipBlanks
      .ok (j :: rest, after)
    | _ => after.fail .expectingComma

/-- Reads the members of an object up to its closing brace. -/
def readMembers : Nat → Cursor → Except (Fault JsonFault) (List (String × Json) × Cursor)
  | 0, c => c.fail .expectingValue
  | steps + 1, c =>
    match c.rest with
    | '"' :: _ => do
      let (name, after) ← readString (c.skip 1)
      let after := after.skipBlanks
      match after.rest with
      | ':' :: _ => do
        let (j, after) ← readValue steps (after.skip 1).skipBlanks
        let after := after.skipBlanks
        match after.rest with
        | '\x7d' :: _ => .ok ([(name, j)], after.skip 1)
        | ',' :: _ => do
          let (rest, after) ← readMembers steps (after.skip 1).skipBlanks
          .ok ((name, j) :: rest, after)
        | _ => after.fail .expectingComma
      | _ => after.fail .expectingColon
    | _ => c.fail .expectingName

end

/-- Reads a text that is one value with blanks around it. -/
def readDocument (text : List Char) : Except (Fault JsonFault) Json :=
  match text with
  | '\uFEFF' :: _ => (Cursor.mk 0 text).fail .byteOrderMark
  | _ => do
    let (j, after) ← readValue (2 * text.length + 2) (Cursor.mk 0 text).skipBlanks
    let after := after.skipBlanks
    if after.rest.isEmpty then .ok j else after.fail .extraData

/-- Reads a text, placing a failure for people. -/
def ofChars (text : List Char) : Except (Fault JsonError) Json :=
  (readDocument text).mapError fun fault => fault.map fun f => f.inText text

end Json

end BodyLength
