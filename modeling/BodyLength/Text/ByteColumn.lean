/-!
# Positions given as a line and a column of bytes

Readers of source code report a place as a line counted from one and a column counted in the bytes
of the line's UTF-8 encoding. `SourceLines` turns such a place into a position, that is a number of
characters. Here a line ends only at a carriage return, a line feed or the pair of both: the
separators that a `LineMap` also counts are ordinary characters of a line.

A column that falls inside the encoding of a character counts for the position before that
character, so the answer never splits one. A column past the end of the line means the end of the
line with its ending, line zero and below mean the start of the text, and lines past the last mean
the end of the text. A negative column counts back from the end of the line's bytes.
-/

namespace BodyLength

/-! ## Splitting into lines -/

/-- Puts a character in front of the first line. -/
def consToFirst (c : Char) : List (List Char) → List (List Char)
  | [] => [[c]]
  | line :: lines => (c :: line) :: lines

/-- The lines of a text, each with its own ending; the last one has none. -/
def splitSourceLines : List Char → List (List Char)
  | [] => [[]]
  | '\r' :: '\n' :: rest => ['\r', '\n'] :: splitSourceLines rest
  | '\r' :: rest => ['\r'] :: splitSourceLines rest
  | '\n' :: rest => ['\n'] :: splitSourceLines rest
  | c :: rest => consToFirst c (splitSourceLines rest)

/-- The size in bytes of a text's UTF-8 encoding. -/
def utf8Length (cs : List Char) : Nat :=
  cs.foldr (fun c n => c.utf8Size + n) 0

/-- How many leading characters have an encoding of at most `budget` bytes together. -/
def charsWithin : Nat → List Char → Nat
  | _, [] => 0
  | budget, c :: rest =>
    if c.utf8Size ≤ budget then charsWithin (budget - c.utf8Size) rest + 1 else 0

/-! ## Looking a place up -/

/-- The lines of a text, each with the position at which it starts, and the text's length. -/
structure SourceLines where
  /-- Start and characters of each line, in order. -/
  lines : Array (Nat × List Char)
  /-- The number of characters of the text. -/
  length : Nat

namespace SourceLines

/-- Pairs each line with its start, the first one starting at `pos`. -/
def withStarts : Nat → List (List Char) → List (Nat × List Char)
  | _, [] => []
  | pos, line :: rest => (pos, line) :: withStarts (pos + line.length) rest

/-- The lines of a text. -/
def ofChars (text : List Char) : SourceLines where
  lines := (withStarts 0 (splitSourceLines text)).toArray
  length := text.length

/-- The number of leading bytes that a column stands for in a line of `size` bytes. -/
def byteBudget (size : Nat) (column : Int) : Nat :=
  if column < 0 then (column + size).toNat else column.toNat

/-- The position of a line counted from one and a column counted in bytes. -/
def offset (s : SourceLines) (line column : Int) : Nat :=
  if line < 1 then 0
  else match s.lines[(line - 1).toNat]? with
    | none => s.length
    | some (start, cs) => start + charsWithin (byteBudget (utf8Length cs) column) cs

end SourceLines

end BodyLength
