import BodyLength.Yaml.Scalar

/-!
# The tokens of a configuration text

The tokens are read one after the other. In block context the indentation of a token decides which block
collections end before it; in flow context, that is inside brackets, indentation does not count.

A key may be simple, that is written without an indicator in front. Whether something was a key shows only when a
colon follows it on the same line and not too far behind. So whatever may be a simple key is remembered with its
number, one at each level of brackets, and the colon puts the missing indicator in front of it. Where only a key
can stand, a missing colon is an error.

A token is not handed on as long as an indicator may still be put in front of it. So when reading ends with an
error, the tokens from the oldest possible key on are lost.
-/

namespace BodyLength

/-! ## The reader -/

/-- Something that may turn out to be a key. -/
structure SimpleKey where
  /-- The number of its first token. -/
  number : Nat
  /-- Can only a key stand there? -/
  isRequired : Bool
  index : Nat
  mark : Mark

/-- The reader between two tokens. -/
structure TokenReader where
  cursor : YamlCursor
  /-- How deep the brackets are. -/
  flowLevel : Int
  /-- The tokens so far, the newest one first. -/
  tokens : List YamlToken
  /-- How many tokens there are. -/
  count : Nat
  /-- The indentation of the innermost block collection, or minus one. -/
  indent : Int
  /-- The indentations of the block collections around it, the innermost one first. -/
  outer : List Int
  /-- May a simple key begin here? -/
  allowsKey : Bool
  /-- What may turn out to be a key, by level. -/
  keys : List (Int × SimpleKey)

namespace TokenReader

/-- The reader at the beginning of a text. -/
def atStart (text : List Char) : TokenReader :=
  ⟨.atStart text, 0, [], 0, -1, [], true, []⟩

/-- Is the reader inside brackets? -/
def inFlow (r : TokenReader) : Bool :=
  r.flowLevel != 0

/-- Adds a token. -/
def add (r : TokenReader) (lexeme : YamlLexeme) (start stop : Mark) : TokenReader :=
  { r with tokens := ⟨lexeme, start, stop⟩ :: r.tokens, count := r.count + 1 }

/-- Adds a token of no width at the place of the reader. -/
def addHere (r : TokenReader) (lexeme : YamlLexeme) : TokenReader :=
  r.add lexeme r.cursor.mark r.cursor.mark

/-- Adds a token that goes up to a place, and goes on there. -/
def take (r : TokenReader) (lexeme : YamlLexeme) (after : YamlCursor) : TokenReader :=
  { r.add lexeme r.cursor.mark after.mark with cursor := after }

/-- Puts a token of no width in front of the one with a number. -/
def insert (r : TokenReader) (number : Nat) (lexeme : YamlLexeme) (mark : Mark) : TokenReader :=
  let newer := r.count - number
  { r with
    tokens := r.tokens.take newer ++ ⟨lexeme, mark, mark⟩ :: r.tokens.drop newer
    count := r.count + 1 }

/-! ## Simple keys -/

/-- The error that a key is missing its colon. -/
def missingColon (r : TokenReader) (key : SimpleKey) : YamlError :=
  .during .simpleKey key.mark .keyWithoutColon r.cursor.mark

/-- How far behind a key its colon may stand. -/
def keyReach : Nat := 1024

/-- Is it too late for a colon? -/
def isStale (r : TokenReader) (key : SimpleKey) : Bool :=
  key.mark.line != r.cursor.line || decide (r.cursor.index - key.index > keyReach)

/-- Forgets the keys for which it is too late. -/
def dropStaleKeys (r : TokenReader) : Except YamlError TokenReader :=
  match r.keys.find? fun k => r.isStale k.2 && k.2.isRequired with
  | some k => .error (r.missingColon k.2)
  | none => .ok { r with keys := r.keys.filter fun k => !r.isStale k.2 }

/-- What may turn out to be a key at the level of the reader. -/
def currentKey? (r : TokenReader) : Option SimpleKey :=
  r.keys.lookup r.flowLevel

/-- Forgets what may turn out to be a key at the level of the reader. -/
def forgetKey (r : TokenReader) : TokenReader :=
  { r with keys := r.keys.filter fun k => k.1 != r.flowLevel }

/-- Gives up what may turn out to be a key at the level of the reader. -/
def dropKey (r : TokenReader) : Except YamlError TokenReader :=
  match r.currentKey? with
  | none => .ok r
  | some key => if key.isRequired then .error (r.missingColon key) else .ok r.forgetKey

/-- Remembers that the next token may turn out to be a key. -/
def saveKey (r : TokenReader) : Except YamlError TokenReader :=
  if r.allowsKey then do
    let isRequired := !r.inFlow && r.indent == r.cursor.column
    let r ← r.dropKey
    .ok { r with keys := (r.flowLevel, ⟨r.count, isRequired, r.cursor.index, r.cursor.mark⟩) :: r.keys }
  else .ok r

/-- Says whether a simple key may begin here. -/
def allowKey (r : TokenReader) (allows : Bool) : TokenReader :=
  { r with allowsKey := allows }

/-! ## Indentation -/

/-- Ends block collections as long as they are indented further than a column, the collections around the
innermost one being given. -/
def unwindFrom (column : Int) : List Int → TokenReader → TokenReader
  | [], r => r
  | indent :: outer, r =>
    if r.indent > column then
      unwindFrom column outer { r.addHere .blockEnd with indent := indent, outer := outer }
    else r

/-- Ends the block collections that are indented further than a column. -/
def unwind (r : TokenReader) (column : Int) : TokenReader :=
  if r.inFlow then r else unwindFrom column r.outer r

/-- Is a column further in than the innermost block collection? -/
def isDeeper (r : TokenReader) (column : Nat) : Bool :=
  decide (r.indent < column)

/-- Begins a block collection. -/
def indentTo (r : TokenReader) (column : Nat) : TokenReader :=
  { r with indent := column, outer := r.indent :: r.outer }

/-- Begins a block collection here, if the column is further in than the innermost one. -/
def openBlock (r : TokenReader) (lexeme : YamlLexeme) : TokenReader :=
  if r.isDeeper r.cursor.column then (r.indentTo r.cursor.column).addHere lexeme else r

/-! ## Between tokens -/

/-- Passes over spaces, comments and line ends. -/
def skipToToken : Nat → TokenReader → TokenReader
  | 0, r => r
  | fuel + 1, r =>
    let c := r.cursor.skipSpaces.skipComment
    match c.lineBreak? with
    | none => { r with cursor := c }
    | some (_, after) =>
      skipToToken fuel { r with cursor := after, allowsKey := r.allowsKey || !r.inFlow }

/-- Passes over a byte order mark at the beginning of the text. -/
def skipByteOrderMark (r : TokenReader) : TokenReader :=
  if r.cursor.index = 0 && r.cursor.peek == '\uFEFF' then { r with cursor := r.cursor.next } else r

/-! ## Tokens -/

/-- The end of the text. -/
def readEnd (r : TokenReader) : Except YamlError TokenReader := do
  let r ← (r.unwind (-1)).dropKey
  .ok { r.addHere .streamEnd with allowsKey := false, keys := [] }

/-- A directive. -/
def readDirectiveToken (r : TokenReader) : Except YamlError TokenReader := do
  let r ← (r.unwind (-1)).dropKey
  let (directive, stop, after) ← readDirective r.cursor
  .ok { (r.add (.directive directive) r.cursor.mark stop.mark).allowKey false with cursor := after }

/-- The mark between documents. -/
def readSeparator (lexeme : YamlLexeme) (r : TokenReader) : Except YamlError TokenReader := do
  let r ← (r.unwind (-1)).dropKey
  .ok ((r.allowKey false).take lexeme (r.cursor.skip 3))

/-- The bracket that opens a flow collection. -/
def readOpening (lexeme : YamlLexeme) (r : TokenReader) : Except YamlError TokenReader := do
  let r ← r.saveKey
  let r := { r with flowLevel := r.flowLevel + 1, allowsKey := true }
  .ok (r.take lexeme r.cursor.next)

/-- The bracket that closes a flow collection. -/
def readClosing (lexeme : YamlLexeme) (r : TokenReader) : Except YamlError TokenReader := do
  let r ← r.dropKey
  let r := { r with flowLevel := r.flowLevel - 1, allowsKey := false }
  .ok (r.take lexeme r.cursor.next)

/-- The comma between the entries of a flow collection. -/
def readFlowEntry (r : TokenReader) : Except YamlError TokenReader := do
  let r ← (r.allowKey true).dropKey
  .ok (r.take .flowEntry r.cursor.next)

/-- The hyphen before an entry of a block sequence. -/
def readBlockEntry (r : TokenReader) : Except YamlError TokenReader := do
  if !r.inFlow && !r.allowsKey then .error (.plain .entryNotAllowed r.cursor.mark)
  else
    let r := if r.inFlow then r else r.openBlock .blockSequenceStart
    let r ← (r.allowKey true).dropKey
    .ok (r.take .blockEntry r.cursor.next)

/-- The question mark before a key. -/
def readKey (r : TokenReader) : Except YamlError TokenReader := do
  if !r.inFlow && !r.allowsKey then .error (.plain .keyNotAllowed r.cursor.mark)
  else
    let r := if r.inFlow then r else r.openBlock .blockMappingStart
    let r ← (r.allowKey !r.inFlow).dropKey
    .ok (r.take .key r.cursor.next)

/-- The colon behind a simple key. -/
def readValueOfKey (key : SimpleKey) (r : TokenReader) : TokenReader :=
  let r := r.forgetKey.insert key.number .key key.mark
  let r :=
    if !r.inFlow && r.isDeeper key.mark.column then
      (r.indentTo key.mark.column).insert key.number .blockMappingStart key.mark
    else r
  (r.allowKey false).take .value r.cursor.next

/-- The colon before a value. -/
def readValue (r : TokenReader) : Except YamlError TokenReader :=
  match r.currentKey? with
  | some key => .ok (readValueOfKey key r)
  | none => do
    if !r.inFlow && !r.allowsKey then .error (.plain .valueNotAllowed r.cursor.mark)
    else
      let r := if r.inFlow then r else r.openBlock .blockMappingStart
      let r ← (r.allowKey !r.inFlow).dropKey
      .ok (r.take .value r.cursor.next)

/-- An alias. -/
def readAlias (r : TokenReader) : Except YamlError TokenReader := do
  let r ← r.saveKey
  let (name, after) ← readAnchor r.cursor
  .ok ((r.allowKey false).take (.aliasOf name) after)

/-- An anchor. -/
def readAnchorToken (r : TokenReader) : Except YamlError TokenReader := do
  let r ← r.saveKey
  let (name, after) ← readAnchor r.cursor
  .ok ((r.allowKey false).take (.anchor name) after)

/-- A tag. -/
def readTagToken (r : TokenReader) : Except YamlError TokenReader := do
  let r ← r.saveKey
  let (handle, rest, after) ← readTag r.cursor
  .ok ((r.allowKey false).take (.tag handle rest) after)

/-- A block scalar. -/
def readBlock (isFolded : Bool) (r : TokenReader) : Except YamlError TokenReader := do
  let r ← (r.allowKey true).dropKey
  let (text, stop, after) ← readBlockScalar isFolded r.indent r.cursor
  .ok { r.add (.scalar text false) r.cursor.mark stop with cursor := after }

/-- A quoted scalar. -/
def readQuoted (r : TokenReader) : Except YamlError TokenReader := do
  let r ← r.saveKey
  let (text, after) ← readQuotedScalar r.cursor
  .ok ((r.allowKey false).take (.scalar text false) after)

/-- A plain scalar. -/
def readPlain (r : TokenReader) : Except YamlError TokenReader := do
  let r ← r.saveKey
  let s := readPlainScalar r.inFlow r.indent r.cursor
  let r := r.add (.scalar (String.ofList s.text) true) r.cursor.mark s.stop
  .ok { r.allowKey s.endsLine with cursor := s.after }

/-- May a plain scalar begin here? -/
def startsPlain (r : TokenReader) : Bool :=
  let ch := r.cursor.peek
  (!isYamlBlank ch && !"-?:,[]\x7b\x7d#&*!|>'\"%@`".toList.contains ch) ||
    (!isYamlBlank (r.cursor.peekAt 1) && (ch == '-' || (!r.inFlow && (ch == '?' || ch == ':'))))

/-- Is the next character an indicator, and not the beginning of a plain scalar? -/
def isIndicator (r : TokenReader) : Bool :=
  r.inFlow || isYamlBlank (r.cursor.peekAt 1)

/-- The token at the place of the reader. -/
def readHere (r : TokenReader) : Except YamlError TokenReader :=
  let c := r.cursor
  let ch := c.peek
  if ch == '\x00' then r.readEnd
  else if ch == '%' && c.column = 0 then r.readDirectiveToken
  else if c.column = 0 && c.atSeparator "---" then r.readSeparator .documentStart
  else if c.column = 0 && c.atSeparator "..." then r.readSeparator .documentEnd
  else if ch == '[' then r.readOpening .flowSequenceStart
  else if ch == '\x7b' then r.readOpening .flowMappingStart
  else if ch == ']' then r.readClosing .flowSequenceEnd
  else if ch == '\x7d' then r.readClosing .flowMappingEnd
  else if ch == ',' then r.readFlowEntry
  else if ch == '-' && isYamlBlank (c.peekAt 1) then r.readBlockEntry
  else if ch == '?' && r.isIndicator then r.readKey
  else if ch == ':' && r.isIndicator then r.readValue
  else if ch == '*' then r.readAlias
  else if ch == '&' then r.readAnchorToken
  else if ch == '!' then r.readTagToken
  else if ch == '|' && !r.inFlow then r.readBlock false
  else if ch == '>' && !r.inFlow then r.readBlock true
  else if ch == '\'' || ch == '"' then r.readQuoted
  else if r.startsPlain then r.readPlain
  else .error (.fault ⟨some .nextToken, none, .cannotStartToken ch, c.mark⟩)

/-- The next token, with the ends of block collections before it. -/
def readNext (r : TokenReader) : Except YamlError TokenReader := do
  let r ← (skipToToken r.cursor.rest.length.succ r.skipByteOrderMark).dropStaleKeys
  (r.unwind r.cursor.column).readHere

/-- Has the end of the text been read? -/
def isAtEnd (r : TokenReader) : Bool :=
  match r.tokens with
  | ⟨.streamEnd, _, _⟩ :: _ => true
  | _ => false

/-- The tokens that can be handed on: those before everything that may turn out to be a key. -/
def settled (r : TokenReader) : List YamlToken :=
  let first := r.keys.foldl (fun n k => min n k.2.number) r.count
  (r.tokens.drop (r.count - first)).reverse

/-- All tokens from a place on, and the error that ends them, if one does. -/
def readAll : Nat → TokenReader → List YamlToken × Option YamlError
  | 0, r => (r.settled, none)
  | fuel + 1, r =>
    match r.dropStaleKeys with
    | .error e => (r.settled, some e)
    | .ok r =>
      if r.isAtEnd then (r.tokens.reverse, none)
      else
        match r.readNext with
        | .error e => (r.settled, some e)
        | .ok r => readAll fuel r

end TokenReader

/-- The tokens of a text, and the error that ends them, if one does. -/
def yamlTokens (text : List Char) : List YamlToken × Option YamlError :=
  TokenReader.readAll (text.length + 2) (.atStart text)

end BodyLength
