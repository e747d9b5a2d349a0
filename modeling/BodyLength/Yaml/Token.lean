import BodyLength.Yaml.Fault

/-!
# Tokens of configuration texts

Before a configuration text is understood it is cut into tokens: the indicators of its notation, the names of
anchors and tags, and the scalars. Indentation is made explicit on the way, by tokens that open and close block
collections without any text of their own, and so is the beginning of a key, which shows only when the colon
after it is reached.

A `YamlCursor` is a place in the text with everything that follows it. Behind the last character stands a null
character, which no text may hold. All line ends but the rare ones are line feeds, because they have been
unified before.
-/

namespace BodyLength

/-! ## Characters -/

/-- Does the character end a line? -/
def isYamlBreak (c : Char) : Bool :=
  c == '\n' || c == '\x85' || c == '\u2028' || c == '\u2029'

/-- Does the character end a line or the text? -/
def isYamlLineEnd (c : Char) : Bool :=
  c == '\x00' || isYamlBreak c

/-- Is the character a space, or does it end a line or the text? -/
def isYamlSpace (c : Char) : Bool :=
  c == ' ' || isYamlLineEnd c

/-- Is the character a space or a tabulator, or does it end a line or the text? -/
def isYamlBlank (c : Char) : Bool :=
  c == '\t' || isYamlSpace c

/-- May the character stand in the name of an anchor, a directive or a tag handle? -/
def isYamlName (c : Char) : Bool :=
  c.isAlphanum || c == '-' || c == '_'

/-- May the character stand in the rest of a tag? -/
def isYamlUri (c : Char) : Bool :=
  c.isAlphanum || "-;/?:@&=+$,_.!~*'()[]%".toList.contains c

/-! ## Places -/

/-- A place in a text. -/
structure YamlCursor where
  /-- What follows. -/
  rest : List Char
  /-- The number of characters before. -/
  index : Nat
  line : Nat
  column : Nat

namespace YamlCursor

/-- The beginning of a text. -/
def atStart (text : List Char) : YamlCursor :=
  ⟨text, 0, 0, 0⟩

/-- The place as it is reported. -/
def mark (c : YamlCursor) : Mark :=
  ⟨c.line, c.column⟩

/-- The next character. -/
def peek (c : YamlCursor) : Char :=
  c.rest.headD '\x00'

/-- The character after so many others. -/
def peekAt (c : YamlCursor) (count : Nat) : Char :=
  c.rest.getD count '\x00'

/-- The place after the next character. A byte order mark takes no column. -/
def next (c : YamlCursor) : YamlCursor :=
  match c.rest with
  | [] => c
  | ch :: rest =>
    if isYamlBreak ch then ⟨rest, c.index + 1, c.line + 1, 0⟩
    else if ch == '\uFEFF' then ⟨rest, c.index + 1, c.line, c.column⟩
    else ⟨rest, c.index + 1, c.line, c.column + 1⟩

/-- The place after so many characters. -/
def skip (c : YamlCursor) : Nat → YamlCursor
  | 0 => c
  | count + 1 => c.next.skip count

/-- The characters from here on that pass a test. -/
def run (c : YamlCursor) (test : Char → Bool) : List Char :=
  c.rest.takeWhile test

/-- The place after the characters that pass a test. -/
def skipWhile (c : YamlCursor) (test : Char → Bool) : YamlCursor :=
  c.skip (c.run test).length

/-- The place after the spaces that follow. -/
def skipSpaces (c : YamlCursor) : YamlCursor :=
  c.skipWhile (· == ' ')

/-- The place after the rest of the line. -/
def skipLine (c : YamlCursor) : YamlCursor :=
  c.skipWhile fun ch => !isYamlLineEnd ch

/-- The place after a comment, if one begins here. -/
def skipComment (c : YamlCursor) : YamlCursor :=
  if c.peek == '#' then c.skipLine else c

/-- The end of a line as it counts in a scalar, and the place after it, if a line ends here. -/
def lineBreak? (c : YamlCursor) : Option (Char × YamlCursor) :=
  if c.peek == '\n' || c.peek == '\x85' then some ('\n', c.next)
  else if isYamlBreak c.peek then some (c.peek, c.next)
  else none

/-- Do three characters that separate documents stand here? -/
def atSeparator (c : YamlCursor) (separator : String) : Bool :=
  c.rest.take 3 == separator.toList && isYamlBlank (c.peekAt 3)

/-- Does a document start or end here? -/
def atDocumentEdge (c : YamlCursor) : Bool :=
  c.atSeparator "---" || c.atSeparator "..."

/-- The fault that something else was expected than the next character. -/
def unexpected (c : YamlCursor) (activity : YamlActivity) (began : Mark) (what : String) : YamlError :=
  .during activity began (.expected what c.peek) c.mark

end YamlCursor

/-! ## Tokens -/

/-- An instruction about the document that follows. -/
inductive YamlDirective where
  | version (major minor : Nat)
  /-- What a handle stands for in tags. -/
  | tagHandle (handle meaning : String)
  /-- An instruction that nothing is made of. -/
  | unknown
deriving DecidableEq, Repr

/-- What a token is. -/
inductive YamlLexeme where
  | streamEnd
  | directive (d : YamlDirective)
  | documentStart
  | documentEnd
  | blockSequenceStart
  | blockMappingStart
  | blockEnd
  | flowSequenceStart
  | flowSequenceEnd
  | flowMappingStart
  | flowMappingEnd
  | key
  | value
  | blockEntry
  | flowEntry
  | aliasOf (name : String)
  | anchor (name : String)
  /-- A tag, by a handle and the rest or as a whole. -/
  | tag (handle : Option String) (rest : String)
  | scalar (text : String) (isPlain : Bool)
deriving DecidableEq, Repr

namespace YamlLexeme

/-- The name of a token in messages. -/
def name : YamlLexeme → String
  | streamEnd => "<stream end>"
  | directive _ => "<directive>"
  | documentStart => "<document start>"
  | documentEnd => "<document end>"
  | blockSequenceStart => "<block sequence start>"
  | blockMappingStart => "<block mapping start>"
  | blockEnd => "<block end>"
  | flowSequenceStart => "["
  | flowSequenceEnd => "]"
  | flowMappingStart => "\x7b"
  | flowMappingEnd => "\x7d"
  | key => "?"
  | value => ":"
  | blockEntry => "-"
  | flowEntry => ","
  | aliasOf _ => "<alias>"
  | anchor _ => "<anchor>"
  | tag _ _ => "<tag>"
  | scalar _ _ => "<scalar>"

end YamlLexeme

/-- A token with its range. -/
structure YamlToken where
  lexeme : YamlLexeme
  start : Mark
  stop : Mark
deriving DecidableEq, Repr

instance : Inhabited YamlToken :=
  ⟨⟨.streamEnd, ⟨0, 0⟩, ⟨0, 0⟩⟩⟩

end BodyLength
