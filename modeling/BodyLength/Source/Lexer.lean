import BodyLength.Source.Token
import BodyLength.Text.IdentifierChars
import BodyLength.Text.Printable

/-!
# Cutting source code into tokens

Python source code is cut into tokens from its start, one at a time. At the start of a line the blanks
before its first character are measured and compared with the indentations that are in force; lines that
are empty or only a comment do not count, and inside brackets neither indentation nor line ends mean
anything. Two measures are taken of the same blanks, a tab counting up to the next multiple of eight in
the one and as a single column in the other. Lines must compare alike in both, so that no line depends on
how wide a tab is.

The text is expected with line feeds as its only line endings and with one at its very end.

A lexeme is measured by a function on the characters that follow, one for numbers, one for strings, one
for operators, and the loop around them takes the number of steps that are left. Every step consumes a
character or closes an indentation that an earlier step opened, so twice the length of the text and a few
are enough.
-/

namespace BodyLength

/-! ## Places -/

/-- The text that is still to be cut, and where it starts. -/
structure Place where
  rest : List Char
  line : Nat
  column : Nat

namespace Place

/-- The place behind the next character. -/
def next (p : Place) : Place :=
  match p.rest with
  | [] => p
  | '\n' :: rest => ⟨rest, p.line + 1, 0⟩
  | c :: rest => ⟨rest, p.line, p.column + c.utf8Size⟩

/-- The place some characters further on. -/
def skip (p : Place) : Nat → Place
  | 0 => p
  | n + 1 => p.next.skip n

/-- The line of the next character, or the last line at the end of the text. -/
def currentLine (p : Place) : Nat :=
  if p.rest.isEmpty then p.line - 1 else p.line

end Place

/-! ## Numbers

Each function takes the characters behind what was read of a number and gives those behind more of it,
or nothing when they cannot go on or end a number. -/

namespace NumberLexeme

/-- May the character stand in a name? Beyond ASCII every character may, for all that matters here. -/
def isNamePart (c : Char) : Bool :=
  c.isAlphanum || c == '_' || 128 ≤ c.toNat

/-- Do the characters start with a word that ends there? -/
def startsWithWord (word : List Char) (cs : List Char) : Bool :=
  word.isPrefixOf cs && !((cs.drop word.length).head?.any isNamePart)

/-- May a number end before these characters? No name may follow it directly, except a word that can
stand between two operands. -/
def mayEnd (cs : List Char) : Bool :=
  match cs with
  | [] => true
  | 'i' :: c :: _ => c == 'f' || c == 'n' || c == 's'
  | c :: _ =>
    !isNamePart c ||
      ["and", "else", "for", "or", "not"].any fun word => startsWithWord word.toList cs

/-- The end of a number. -/
def ending (cs : List Char) : Option (List Char) :=
  if mayEnd cs then some cs else none

/-- The digits and underscores behind a digit. -/
def digits : List Char → Option (List Char)
  | '_' :: c :: rest => if c.isDigit then digits rest else none
  | ['_'] => none
  | c :: rest => if c.isDigit then digits rest else some (c :: rest)
  | [] => some []

/-- The digits of a number with another base. `fresh` holds before the first digit of a group, and an
underscore may only stand there. -/
def radixDigits (isRadixDigit : Char → Bool) : Bool → Bool → List Char → Option (List Char)
  | fresh, underscored, c :: rest =>
    if isRadixDigit c then radixDigits isRadixDigit false false rest
    else if fresh then
      if c == '_' && !underscored then radixDigits isRadixDigit true true rest else none
    else if c == '_' then radixDigits isRadixDigit true true rest
    else if c.isDigit then none
    else ending (c :: rest)
  | fresh, _, [] => if fresh then none else some []

/-- The mark of an imaginary number, or the end. -/
def imaginary (cs : List Char) : Option (List Char) :=
  match cs with
  | 'j' :: rest => ending rest
  | 'J' :: rest => ending rest
  | _ => ending cs

/-- The digits of an exponent behind its letter. A letter that starts a word ends the number. -/
def exponentDigits (letter : Char) (cs : List Char) : Option (List Char) :=
  let signed := match cs with
    | '+' :: rest => some rest
    | '-' :: rest => some rest
    | _ => none
  match signed with
  | some (c :: rest) => if c.isDigit then (digits rest).bind imaginary else none
  | some [] => none
  | none =>
    match cs with
    | c :: rest =>
      if c.isDigit then (digits rest).bind imaginary else ending (letter :: cs)
    | [] => none

/-- An exponent, if there is one. -/
def exponent (cs : List Char) : Option (List Char) :=
  match cs with
  | 'e' :: rest => exponentDigits 'e' rest
  | 'E' :: rest => exponentDigits 'E' rest
  | _ => imaginary cs

/-- The digits behind a point. -/
def fraction (cs : List Char) : Option (List Char) :=
  match cs with
  | c :: rest => if c.isDigit then (digits rest).bind exponent else exponent cs
  | [] => some []

/-- The zeros and underscores behind a zero. -/
def zeros : List Char → Option (List Char)
  | '_' :: c :: rest =>
    if !c.isDigit then none else if c == '0' then zeros rest else some (c :: rest)
  | ['_'] => none
  | '0' :: rest => zeros rest
  | cs => some cs

/-- What follows whole digits. Digits behind a leading zero are only right in front of a point, an
exponent or the mark of an imaginary number. -/
def afterWhole (leadingZero : Bool) (cs : List Char) : Option (List Char) :=
  match cs with
  | '.' :: rest => fraction rest
  | c :: _ =>
    if c == 'e' || c == 'E' || c == 'j' || c == 'J' then exponent cs
    else if leadingZero then none
    else ending cs
  | [] => if leadingZero then none else some []

/-- A number that starts with a zero, behind that zero. -/
def afterZero (cs : List Char) : Option (List Char) :=
  (zeros cs).bind fun rest =>
    match rest with
    | c :: more =>
      if c.isDigit then (digits more).bind (afterWhole true) else afterWhole false rest
    | [] => some []

/-- Is the character a digit of base sixteen? -/
def isHex (c : Char) : Bool :=
  c.isDigit || ('a' ≤ c && c ≤ 'f') || ('A' ≤ c && c ≤ 'F')

/-- Is the character a digit of base eight? -/
def isOctal (c : Char) : Bool :=
  '0' ≤ c && c ≤ '7'

/-- Is the character a digit of base two? -/
def isBinary (c : Char) : Bool :=
  c == '0' || c == '1'

/-- The characters behind a number; the text starts with a digit, or with a point and a digit. -/
def rest? : List Char → Option (List Char)
  | '.' :: cs => fraction cs
  | '0' :: base :: cs =>
    if base == 'x' || base == 'X' then radixDigits isHex true false cs
    else if base == 'o' || base == 'O' then radixDigits isOctal true false cs
    else if base == 'b' || base == 'B' then radixDigits isBinary true false cs
    else afterZero (base :: cs)
  | _ :: cs => (digits cs).bind (afterWhole false)
  | [] => none

end NumberLexeme

/-! ## Strings -/

namespace StringLexeme

/-- The number of characters up to the end of a string, its closing marks included. `run` is the number
of closing marks read directly before. A backslash takes the next character with it. -/
def bodyLength (mark : Char) (isLong : Bool) : Nat → List Char → Option Nat
  | _, [] => none
  | run, c :: rest =>
    if c == mark then
      if !isLong || run == 2 then some 1 else (bodyLength mark isLong (run + 1) rest).map (· + 1)
    else if c == '\n' && !isLong then none
    else if c == '\\' then
      match rest with
      | [] => none
      | _ :: more => (bodyLength mark isLong 0 more).map (· + 2)
    else (bodyLength mark isLong 0 rest).map (· + 1)

/-- The number of characters of a string that starts at a mark. -/
def length? (mark : Char) (cs : List Char) : Option Nat :=
  match cs with
  | _ :: b :: c :: rest =>
    if b == mark then
      if c == mark then (bodyLength mark true 0 rest).map (· + 3) else some 2
    else (bodyLength mark false 0 (b :: c :: rest)).map (· + 1)
  | _ :: rest => (bodyLength mark false 0 rest).map (· + 1)
  | [] => none

/-- The letters in front of a string, as read so far. -/
structure Letters where
  bytes : Bool
  raw : Bool
  unicode : Bool
  formatted : Bool

/-- Reads one more letter, if the letters may go on with it. -/
def Letters.add? (l : Letters) (c : Char) : Option Letters :=
  if !(l.bytes || l.unicode || l.formatted) && (c == 'b' || c == 'B') then
    some { l with bytes := true }
  else if !(l.bytes || l.unicode || l.raw || l.formatted) && (c == 'u' || c == 'U') then
    some { l with unicode := true }
  else if !(l.raw || l.unicode) && (c == 'r' || c == 'R') then some { l with raw := true }
  else if !(l.formatted || l.bytes || l.unicode) && (c == 'f' || c == 'F') then
    some { l with formatted := true }
  else none

/-- The number of letters in front of a string, if the text starts with a string that has letters. -/
def lettersBefore (l : Letters) : List Char → Option Nat
  | [] => none
  | c :: rest =>
    match l.add? c with
    | none => none
    | some l =>
      match rest with
      | [] => none
      | d :: _ =>
        if d == '"' || d == '\'' then some 1 else (lettersBefore l rest).map (· + 1)

end StringLexeme

/-! ## Operators -/

/-- The operators of three characters. -/
def operators3 : List String :=
  ["**=", "//=", "<<=", ">>=", "..."]

/-- The operators of two characters. -/
def operators2 : List String :=
  ["!=", "%=", "&=", "**", "*=", "+=", "-=", "->", "//", "/=", ":=", "<<", "<=", "<>", "==", ">=",
    ">>", "@=", "^=", "|="]

/-- The number of characters of the operator at the start of a text. -/
def operatorLength (cs : List Char) : Nat :=
  let starts := fun (op : String) => op.toList.isPrefixOf cs
  if operators3.any starts then 3 else if operators2.any starts then 2 else 1

/-- The bracket that closes an opening one. -/
def closingBracket : Char → Char
  | '(' => ')'
  | '[' => ']'
  | _ => '\x7d'

/-! ## Cutting -/

/-- The state of cutting. -/
structure Lexer where
  place : Place
  /-- Is the next character the first one of a line? -/
  atLineStart : Bool
  /-- The indentations in force, in both measures, the innermost first. -/
  indents : List (Nat × Nat)
  /-- Is a step in still to be given out? -/
  owesIndent : Bool
  /-- The number of steps out still to be given out. -/
  owedDedents : Nat
  /-- The open brackets with their lines, the innermost first. -/
  brackets : List (Char × Nat)

/-- What one step of cutting gives. -/
inductive LexStep where
  | token (t : Token) (next : Lexer)
  | silent (next : Lexer)
  | finish
  | fault (f : LexFault)

/-- The greatest number of indentations, and of brackets, that may be open at once. -/
def maxIndents : Nat := 100

/-- The greatest number of brackets that may be open at once. -/
def maxBrackets : Nat := 200

namespace Lexer

/-- The line of the innermost open bracket. -/
def openLine (x : Lexer) : Option Nat :=
  x.brackets.head?.map (·.2)

/-- A fault that is an error wherever the grammar stands. -/
def announce (x : Lexer) (line : Nat) : LexStep :=
  .fault ⟨line, true, false, x.openLine⟩

/-- A fault that is an error only if the grammar reaches it. -/
def stop (x : Lexer) (place : Place) (isEnd : Bool) : LexStep :=
  .fault ⟨place.currentLine, false, isEnd, x.openLine⟩

/-- A token of the layout at a place. -/
def layoutToken (x : Lexer) (kind : TokenKind) (place : Place) : Token :=
  let line := place.currentLine
  ⟨kind, "", ⟨line, place.column, line, place.column⟩, x.brackets.length⟩

/-- Gives out a token of some characters from a place on. -/
def cut (x : Lexer) (kind : TokenKind) (place : Place) (count : Nat) : LexStep :=
  let after := place.skip count
  let text := String.ofList (place.rest.take count)
  .token ⟨kind, text, ⟨place.line, place.column, after.line, after.column⟩, x.brackets.length⟩
    { x with place := after }

/-! ### The start of a line -/

/-- The blanks at the start of a line. -/
structure Margin where
  /-- The indentation with a tab up to the next multiple of eight. -/
  wide : Nat
  /-- The indentation with a tab as one column. -/
  narrow : Nat
  /-- The indentation before the first backslash that was not at the margin. -/
  continued : Nat
  /-- The first character that is no blank. -/
  place : Place

/-- Measures the blanks at the start of a line. A backslash at the end of a line continues it, and then
the blanks before the first such backslash count. Otherwise gives the place of the fault. -/
def measure : Nat → Margin → Except (Place × Bool) Margin
  | 0, m => .ok m
  | steps + 1, m =>
    match m.place.rest with
    | ' ' :: _ => measure steps { m with wide := m.wide + 1, narrow := m.narrow + 1, place := m.place.next }
    | '\t' :: _ =>
      measure steps
        { m with wide := (m.wide / 8 + 1) * 8, narrow := m.narrow + 1, place := m.place.next }
    | '\x0c' :: _ => measure steps { m with wide := 0, narrow := 0, place := m.place.next }
    | '\\' :: '\n' :: rest =>
      let place := m.place.skip 2
      if rest.isEmpty then .error (place, true)
      else
        measure steps
          { m with
            continued := if m.continued = 0 then m.wide else m.continued
            place := place }
    | '\\' :: _ => .error (m.place, false)
    | _ => .ok m

/-- Drops the indentations wider than a margin, and counts them. The outermost one stays. -/
def closeIndents (wide : Nat) : List (Nat × Nat) → List (Nat × Nat) × Nat
  | top :: below :: rest =>
    if wide < top.1 then
      let (left, count) := closeIndents wide (below :: rest)
      (left, count + 1)
    else (top :: below :: rest, 0)
  | indents => (indents, 0)

/-- Compares a margin with the indentations in force. -/
def indent (x : Lexer) (m : Margin) : LexStep :=
  let wide := if m.continued = 0 then m.wide else m.continued
  let narrow := if m.continued = 0 then m.narrow else m.continued
  let x := { x with atLineStart := false, place := m.place }
  let (topWide, topNarrow) := x.indents.headD (0, 0)
  if wide = topWide then if narrow = topNarrow then .silent x else x.stop m.place false
  else if wide > topWide then
    if x.indents.length ≥ maxIndents then x.stop m.place false
    else if narrow ≤ topNarrow then x.stop m.place false
    else .silent { x with indents := (wide, narrow) :: x.indents, owesIndent := true }
  else
    let (left, count) := closeIndents wide x.indents
    if left.headD (0, 0) = (wide, narrow) then
      .silent { x with indents := left, owedDedents := count }
    else x.stop m.place false

/-- Reads a comment up to the end of its line. -/
def skipComment (place : Place) : Place :=
  match place.rest with
  | '#' :: _ => place.skip (place.rest.takeWhile (· != '\n')).length
  | _ => place

/-- Takes the start of a line. A line without code is passed over as a whole. -/
def lineStart (x : Lexer) : LexStep :=
  match measure (x.place.rest.length + 1) ⟨0, 0, 0, x.place⟩ with
  | .error (place, isEnd) => x.stop place isEnd
  | .ok m =>
    match m.place.rest with
    | '\n' :: _ => .silent { x with place := m.place.next }
    | '#' :: _ => .silent { x with place := (skipComment m.place).next }
    | _ =>
      if x.brackets.isEmpty then x.indent m
      else .silent { x with atLineStart := false, place := m.place }

/-! ### Inside a line -/

/-- The number of blanks at the start of a text. -/
def blanks (cs : List Char) : Nat :=
  (cs.takeWhile fun c => c == ' ' || c == '\t' || c == '\x0c').length

/-- Takes a name, or a keyword. -/
def nameToken (x : Lexer) (place : Place) : LexStep :=
  let cs := place.rest.takeWhile NumberLexeme.isNamePart
  let isProper := match cs with
    | [] => false
    | c :: rest => isIdentifierStart c && rest.all isIdentifierPart
  if isProper then
    let kind := if keywords.contains (String.ofList cs) then TokenKind.keyword else TokenKind.name
    x.cut kind place cs.length
  else x.announce place.line

/-- Takes a string with some letters in front of it. -/
def stringToken (x : Lexer) (place : Place) (letters : Nat) : LexStep :=
  match place.rest.drop letters with
  | mark :: rest =>
    match StringLexeme.length? mark (mark :: rest) with
    | some count => x.cut .string place (letters + count)
    | none => x.announce place.line
  | [] => x.announce place.line

/-- Takes a number. -/
def numberToken (x : Lexer) (place : Place) : LexStep :=
  match NumberLexeme.rest? place.rest with
  | some rest => x.cut .number place (place.rest.length - rest.length)
  | none => x.announce place.line

/-- Takes an operator, opening or closing a bracket. -/
def operatorToken (x : Lexer) (place : Place) (c : Char) : LexStep :=
  if c == '(' || c == '[' || c == '\x7b' then
    if x.brackets.length ≥ maxBrackets then x.announce place.line
    else { x with brackets := (c, place.line) :: x.brackets }.cut .operator place 1
  else if c == ')' || c == ']' || c == '\x7d' then
    match x.brackets with
    | [] => x.announce place.line
    | (opening, _) :: rest =>
      if closingBracket opening == c then { x with brackets := rest }.cut .operator place 1
      else { x with brackets := rest }.announce place.line
  else if isPrintable c then x.cut .operator place (operatorLength place.rest)
  else x.announce place.line

/-- Is the text at a point that starts a number? -/
def startsNumber : List Char → Bool
  | '.' :: c :: _ => c.isDigit
  | c :: _ => c.isDigit
  | [] => false

/-- Takes the next token of a line. -/
def inLine (x : Lexer) : LexStep :=
  let place := skipComment (x.place.skip (blanks x.place.rest))
  match place.rest with
  | [] => if x.brackets.isEmpty then .finish else x.stop place true
  | '\n' :: _ =>
    let next := { x with place := place.next, atLineStart := true }
    if x.brackets.isEmpty then .token (x.layoutToken .newline place) next else .silent next
  | '\\' :: '\n' :: rest =>
    let after := place.skip 2
    if rest.isEmpty then x.stop after true else .silent { x with place := after }
  | '\\' :: _ => x.stop place false
  | c :: _ =>
    match StringLexeme.lettersBefore ⟨false, false, false, false⟩ place.rest with
    | some letters => x.stringToken place letters
    | none =>
      if c.isAlpha || c == '_' || 128 ≤ c.toNat then x.nameToken place
      else if startsNumber place.rest then x.numberToken place
      else if c == '"' || c == '\'' then x.stringToken place 0
      else x.operatorToken place c

/-- Takes the next step. -/
def step (x : Lexer) : LexStep :=
  if x.owesIndent then .token (x.layoutToken .indent x.place) { x with owesIndent := false }
  else if x.owedDedents > 0 then
    .token (x.layoutToken .dedent x.place) { x with owedDedents := x.owedDedents - 1 }
  else if x.atLineStart then x.lineStart
  else x.inLine

/-- Takes steps until the end or a fault. -/
def run : Nat → Lexer → Array Token → Tokens
  | 0, _, tokens => ⟨tokens, none⟩
  | steps + 1, x, tokens =>
    match x.step with
    | .token t next => run steps next (tokens.push t)
    | .silent next => run steps next tokens
    | .finish => ⟨tokens.push (x.layoutToken .finish x.place), none⟩
    | .fault f => ⟨tokens.push ⟨.fault, "", ⟨f.line, 0, f.line, 0⟩, x.brackets.length⟩, some f⟩

end Lexer

/-- Cuts a text into tokens, its first character standing at a line and a column. -/
def Tokens.ofChars (text : List Char) (line column : Nat) : Tokens :=
  Lexer.run (3 * text.length + 3) ⟨⟨text, line, column⟩, true, [(0, 0)], false, 0, []⟩ #[]

end BodyLength
