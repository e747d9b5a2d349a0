import BodyLength.Source.Lexer
import BodyLength.Source.Literal
import BodyLength.Source.Parser

/-!
# Strings in expressions

Adjacent string literals are one expression. If none of them is formatted, it is a constant. Otherwise it is
a construct of its own whose parts are the constants and the fields between them, and every part but the
expressions within the fields has the range of the whole run of literals.

A formatted string is scanned without regard to the grammar first: the characters up to the end of a field
are found by counting brackets and skipping quotes. They are then cut into tokens and read, with a bracket
put around them, which stands where the brace of the field stands. A field may have a format behind a colon,
and the format may have fields again, but those none any more.

The scanning functions fail with the line of a fault inside a field, or with none, and then the last token
that was looked at is at fault.
-/

namespace BodyLength

namespace FormattedString

/-! ## Scanning -/

/-- Where the scanning of an expression stands. -/
structure ScanState where
  /-- The number of characters to pass over. -/
  skip : Nat
  /-- The mark of the string that is open, and whether it is a long one. -/
  quote : Option (Char × Bool)
  /-- The open brackets, the innermost first. -/
  brackets : List Char

/-- The number of characters of the expression in a field. The expression ends at a colon, an exclamation
mark, an equals sign or a closing brace that stands outside all brackets and quotes and is not part of a
comparison operator. -/
def expressionLength (s : ScanState) : List Char → Option Nat
  | [] => none
  | c :: rest =>
    let goOn := fun (s : ScanState) => (expressionLength s rest).map (· + 1)
    let isTripled := rest.take 2 == [c, c]
    if s.skip > 0 then goOn { s with skip := s.skip - 1 }
    else if c == '\\' then none
    else match s.quote with
    | some (mark, isLong) =>
      if c != mark then goOn s
      else if !isLong then goOn { s with quote := none }
      else if isTripled then goOn { s with skip := 2, quote := none }
      else goOn s
    | none =>
      if c == '"' || c == '\'' then
        goOn { s with skip := if isTripled then 2 else 0, quote := some (c, isTripled) }
      else if c == '(' || c == '[' || c == '\x7b' then
        if s.brackets.length ≥ maxBrackets then none else goOn { s with brackets := c :: s.brackets }
      else if c == '#' then none
      else if s.brackets.isEmpty && "!:\x7d=<>".toList.contains c then
        if "!=<>".toList.contains c && rest.head? == some '=' then goOn { s with skip := 1 }
        else if c == '<' || c == '>' then goOn s
        else some 0
      else if c == ')' || c == ']' || c == '\x7d' then
        match s.brackets with
        | [] => none
        | opening :: outer =>
          if closingBracket opening == c then goOn { s with brackets := outer } else none
      else goOn s

/-- How the literal text before a field ends. -/
inductive TextEnd where
  /-- At the end of the string or at a brace that belongs to a field. -/
  | here
  /-- At a brace that is written twice and stands for one. -/
  | doubled
deriving DecidableEq, Repr

/-- What a brace in literal text means. It may be doubled outside of formats only. -/
def braceEnd (level : Nat) (brace : Char) (rest : List Char) : Option (Nat × TextEnd) :=
  if level > 0 then some (0, .here)
  else if rest.head? == some brace then some (1, .doubled)
  else if brace == '\x7d' then none
  else some (0, .here)

/-- Adds to the number of characters of literal text. -/
def lengthen (count : Nat) (found : Option (Nat × TextEnd)) : Option (Nat × TextEnd) :=
  found.map fun f => (f.1 + count, f.2)

/-- The number of characters of literal text, and how it ends. The name in a named character is passed over,
and so is the character behind any other backslash, unless it is a brace. -/
def textLength (isRaw : Bool) (level : Nat) : Nat → List Char → Option (Nat × TextEnd)
  | 0, _ => some (0, .here)
  | _ + 1, [] => some (0, .here)
  | steps + 1, c :: rest =>
    if c == '\\' && !isRaw then
      match rest with
      | [] => some (1, .here)
      | 'N' :: '\x7b' :: more =>
        let name := (more.takeWhile (· != '\x7d')).length
        lengthen (min (name + 4) (more.length + 3)) (textLength isRaw level steps (more.drop (name + 1)))
      | 'N' :: _ :: more => lengthen 3 (textLength isRaw level steps more)
      | d :: more =>
        if d == '\x7b' || d == '\x7d' then lengthen 1 (braceEnd level d more)
        else lengthen 2 (textLength isRaw level steps more)
    else if c == '\x7b' || c == '\x7d' then braceEnd level c rest
    else lengthen 1 (textLength isRaw level steps rest)

/-! ## Reading -/

/-- What has been read of a formatted string. -/
structure Pieces where
  parts : List Ast
  /-- Is there text behind the last part that is not a part yet? -/
  hasText : Bool
  /-- The place of the next character of the string. -/
  place : Place

/-- Makes the text behind the last part a part. -/
def Pieces.closed (p : Pieces) (whole : Extent) : List Ast :=
  if p.hasText then p.parts ++ [.construct whole .plain []] else p.parts

/-- Is the character a blank of ASCII? -/
def isSpace (c : Char) : Bool :=
  c == ' ' || ('\t' ≤ c && c ≤ '\x0d')

/-- Skips the mark behind an expression that asks for its text. -/
def skipEquals (place : Place) : Place :=
  match place.rest with
  | '=' :: rest => place.skip ((rest.takeWhile isSpace).length + 1)
  | _ => place

/-- Skips the conversion of a field, which is one of three letters. -/
def skipConversion (place : Place) : Except (Option Nat) Place :=
  match place.rest with
  | '!' :: c :: _ => if c == 's' || c == 'r' || c == 'a' then .ok (place.skip 2) else .error none
  | ['!'] => .error none
  | _ => .ok place

/-- The greatest level of formats within formats whose fields are read. -/
def maxLevel : Nat := 2

/-- Reads a formatted string, or a format within one, from a place on. `parse` reads the expression of a
field whose brace stands at a place. -/
def read (parse : Place → List Char → Except (Option Nat) Ast) (whole : Extent) (literal : Literal) :
    Nat → Nat → Pieces → Except (Option Nat) Pieces
  | 0, _, _ => .error none
  | steps + 1, level, p => do
    let (count, ending) ← match textLength literal.isRaw level p.place.rest.length p.place.rest with
      | some found => Except.ok found
      | none => .error none
    let text := p.place.rest.take count
    if !literal.admits text then .error none
    let hasText := p.hasText || !isSilent literal.isRaw text
    let place := p.place.skip count
    match ending with
    | .doubled => read parse whole literal steps level ⟨p.parts, hasText, place.next⟩
    | .here =>
      match place.rest with
      | '\x7b' :: inner =>
        if level ≥ maxLevel then .error none
        let length ← match expressionLength ⟨0, none, []⟩ inner with
          | some n => Except.ok n
          | none => .error none
        let expression := inner.take length
        if expression.all fun c => c == ' ' || c == '\t' || c == '\n' || c == '\x0c' then .error none
        let value ← parse place expression
        let after := place.skip (length + 1)
        let asksText := after.rest.head? == some '='
        let after ← skipConversion (skipEquals after)
        let (format, after) ← match after.rest with
          | ':' :: _ => do
            let spec ← read parse whole literal steps (level + 1) ⟨[], false, after.next⟩
            pure ([Ast.construct whole .plain (spec.closed whole)], spec.place)
          | _ => pure ([], after)
        match after.rest with
        | '\x7d' :: _ =>
          let before : Pieces := ⟨p.parts, hasText || asksText, after.next⟩
          let field := Ast.construct whole .plain (value :: format)
          read parse whole literal steps level ⟨before.closed whole ++ [field], false, after.next⟩
        | _ => .error none
      | _ => .ok ⟨p.parts, hasText, place⟩

end FormattedString

/-! ## Literals one after another -/

namespace Grammar

/-- Reads the expression of a field. The text is read in brackets, the first of which stands at the
brace. -/
def fieldExpression (g : Rules) (place : Place) (text : List Char) : Except (Option Nat) Ast :=
  let tokens := Tokens.ofChars ('(' :: text ++ [')', '\n']) place.line place.column
  match Parser.whole (Parser.one (g .starExpressions)) tokens with
  | .ok value => .ok value
  | .error line => .error (some line)

/-- Reads one literal after others. -/
def addLiteral (g : Rules) (whole : Extent) (literal : Literal) (start : Token)
    (p : FormattedString.Pieces) : Except (Option Nat) FormattedString.Pieces :=
  if literal.isFormatted then
    let place : Place := ⟨start.text.toList, start.extent.line, start.extent.column⟩
    let inside : Place := { place.skip literal.lead with rest := literal.content }
    FormattedString.read (fieldExpression g) whole literal (literal.content.length + 1) 0
      { p with place := inside }
  else .ok { p with hasText := p.hasText || !isSilent literal.isRaw literal.content }

/-- Reads a run of literals. All of them are of bytes, or none is. -/
def joinLiterals (g : Rules) (whole : Extent) (isBytes : Bool) :
    List Token → FormattedString.Pieces → Except (Option Nat) FormattedString.Pieces
  | [], p => .ok p
  | t :: rest, p => do
    let literal := Literal.ofChars t.text.toList
    if literal.isBytes && literal.content.any (128 ≤ ·.toNat) then .error (some t.extent.line)
    if !literal.isFormatted && !literal.admits literal.content then .error none
    if literal.isBytes != isBytes then .error none
    joinLiterals g whole isBytes rest (← addLiteral g whole literal t p)

/-- Reads adjacent string literals. -/
def strings (g : Rules) : Parser Ast := do
  let start ← Parser.peek
  let tokens ← Parser.many1 (Parser.kind .string)
  let whole ← Parser.extentFrom start
  let literals := tokens.map fun t => Literal.ofChars t.text.toList
  let isBytes := literals.head?.any (·.isBytes)
  match joinLiterals g whole isBytes tokens ⟨[], false, ⟨[], 0, 0⟩⟩ with
  | .error (some line) => Parser.breakAt line
  | .error none => Parser.breakHere
  | .ok p =>
    pure (.construct whole .plain (if literals.any (·.isFormatted) then p.closed whole else []))

end Grammar

end BodyLength
