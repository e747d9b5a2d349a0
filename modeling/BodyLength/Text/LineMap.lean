/-!
# Lines of a text

A text is a list of characters and a position in it is the number of characters before it. This
module says where lines end and turns a position into a line and a column, both counted from zero.

A line ends at a carriage return, a line feed, a carriage return directly followed by a line feed
(one ending, not two), a line separator or a paragraph separator. `breakEnds` lists the positions
just after those endings, and `LineMap` keeps them as the starts of the lines that follow. A
position between the two characters of a pair still belongs to the line that the pair ends, because
the ending is only complete after its second character.

Positions outside the text are moved to its nearer end before they are looked up, so the lookup
has an answer for every integer.
-/

namespace BodyLength

/-! ## Where lines end -/

/-- The characters that end a line on their own. -/
def isLineBreak (c : Char) : Bool :=
  c == '\n' || c == '\r' || c == '\u2028' || c == '\u2029'

/-- The positions just after each line ending of a text whose first character stands at `pos`. -/
def breakEnds : Nat → List Char → List Nat
  | _, [] => []
  | pos, '\r' :: '\n' :: rest => (pos + 2) :: breakEnds (pos + 2) rest
  | pos, c :: rest =>
    if isLineBreak c then (pos + 1) :: breakEnds (pos + 1) rest else breakEnds (pos + 1) rest

/-! ## The map from positions to lines -/

/-- The length of a text and the position at which each of its lines starts. -/
structure LineMap where
  /-- The number of characters of the text. -/
  length : Nat
  /-- Where the lines start, in increasing order; the first line starts at zero. -/
  lineStarts : List Nat
deriving DecidableEq, Repr

namespace LineMap

/-- The line map of a text. -/
def ofChars (text : List Char) : LineMap where
  length := text.length
  lineStarts := 0 :: breakEnds 0 text

/-- The line map of a string. -/
def ofText (text : String) : LineMap :=
  ofChars text.toList

/-- How many lines there are; a text without a line ending has one. -/
def lineCount (m : LineMap) : Nat :=
  m.lineStarts.length

/-- The position in the text that is nearest to `offset`. -/
def clamp (m : LineMap) (offset : Int) : Nat :=
  (min offset m.length).toNat

/-- The line of a position, found as the last start that is not after it. -/
def lineAt (m : LineMap) (pos : Nat) : Nat :=
  (m.lineStarts.takeWhile (· ≤ pos)).length - 1

/-- The line and the column of an offset, after it is moved into the text. -/
def position (m : LineMap) (offset : Int) : Nat × Nat :=
  let pos := m.clamp offset
  let line := m.lineAt pos
  (line, pos - m.lineStarts.getD line 0)

/-- The line of an offset. -/
def lineOf (m : LineMap) (offset : Int) : Nat :=
  (m.position offset).1

end LineMap

end BodyLength
