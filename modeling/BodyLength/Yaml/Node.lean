import BodyLength.Yaml.Resolution
import BodyLength.Yaml.TokenStream

/-!
# The nodes of a configuration text

A configuration text is a tree of scalars, sequences and mappings, each with a tag that says what it is. The
tree is read from the tokens. An alias stands for the node with its anchor once more, so the tree holds that node
in both places; an alias inside the node that it stands for would make the tree endless and is cut to an empty
collection.

A text holds one document or none. What goes wrong is found in the order of the tokens, and an error that ended
the tokens counts only when everything before it has been used up.
-/

namespace BodyLength

/-! ## Nodes -/

/-- A node. -/
inductive YamlNode where
  | scalar (tag text : String) (mark : Mark)
  | sequence (tag : String) (items : List YamlNode) (mark : Mark)
  | mapping (tag : String) (entries : List (YamlNode × YamlNode)) (mark : Mark)
deriving Inhabited

namespace YamlNode

/-- What a node is. -/
def tag : YamlNode → String
  | scalar tag _ _ => tag
  | sequence tag _ _ => tag
  | mapping tag _ _ => tag

/-- Where a node begins. -/
def mark : YamlNode → Mark
  | scalar _ _ mark => mark
  | sequence _ _ mark => mark
  | mapping _ _ mark => mark

/-- The name of the shape of a node. -/
def shape : YamlNode → String
  | scalar _ _ _ => "scalar"
  | sequence _ _ _ => "sequence"
  | mapping _ _ _ => "mapping"

/-- The node with another tag. -/
def withTag (tag : String) : YamlNode → YamlNode
  | scalar _ text mark => scalar tag text mark
  | sequence _ items mark => sequence tag items mark
  | mapping _ entries mark => mapping tag entries mark

/-- A scalar without any text. -/
def empty (mark : Mark) : YamlNode :=
  scalar (impliedTag "") "" mark

mutual

/-- How deep a node is. -/
def height : YamlNode → Nat
  | scalar _ _ _ => 1
  | sequence _ items _ => heightAll items + 1
  | mapping _ entries _ => heightEntries entries + 1

/-- How deep the deepest of some nodes is. -/
def heightAll : List YamlNode → Nat
  | [] => 0
  | n :: rest => max n.height (heightAll rest)

/-- How deep the deepest node of some entries is. -/
def heightEntries : List (YamlNode × YamlNode) → Nat
  | [] => 0
  | (k, v) :: rest => max (max k.height v.height) (heightEntries rest)

end

end YamlNode

/-! ## Reading from tokens -/

/-- The tokens that are still to be read, and what is known from those before. -/
structure NodeReader where
  tokens : List YamlToken
  /-- The error that ended the tokens. -/
  ending : Option YamlError
  /-- The nodes with anchors. -/
  anchors : List (String × YamlNode)
  /-- What the handles of tags stand for. -/
  handles : List (String × String)

namespace NodeReader

/-- The handles that every document knows. -/
def usualHandles : List (String × String) :=
  [("!", "!"), ("!!", coreTag "")]

/-- The next token. -/
def peek (r : NodeReader) : Except YamlError YamlToken :=
  match r.tokens, r.ending with
  | t :: _, _ => .ok t
  | [], some e => .error e
  | [], none => .ok default

/-- Goes on behind the next token. -/
def next (r : NodeReader) : NodeReader :=
  { r with tokens := r.tokens.tail }

/-- Is the next token one of some? -/
def sees (r : NodeReader) (lexemes : List YamlLexeme) : Except YamlError Bool := do
  let t ← r.peek
  .ok (lexemes.contains t.lexeme)

/-- Gives a node an anchor. -/
def remember (r : NodeReader) (anchor : Option String) (n : YamlNode) : NodeReader :=
  match anchor with
  | none => r
  | some name => { r with anchors := (name, n) :: r.anchors }

/-- The error that an anchor has been given before. -/
def checkAnchor (r : NodeReader) (anchor : Option String) (place : Mark) : Except YamlError Unit :=
  match anchor with
  | none => .ok ()
  | some name =>
    match r.anchors.lookup name with
    | none => .ok ()
    | some first => .error (.during (.firstAnchor name) first.mark .secondAnchor place)

end NodeReader

/-! ## Properties -/

/-- What stands before the content of a node. -/
structure NodeProperties where
  anchor : Option String
  /-- The tag, by a handle and the rest or as a whole, and its place. -/
  tag : Option (Option String × String × Mark)
  /-- Where the properties begin. -/
  start : Option Mark

namespace NodeProperties

/-- No properties. -/
def none : NodeProperties :=
  ⟨.none, .none, .none⟩

/-- Reads one property that there is not one of yet. -/
def readOne (p : NodeProperties) (r : NodeReader) : Except YamlError (NodeProperties × NodeReader) := do
  let t ← r.peek
  match t.lexeme with
  | .anchor name =>
    if p.anchor.isSome then .ok (p, r)
    else .ok ({ p with anchor := some name, start := p.start.or (some t.start) }, r.next)
  | .tag handle rest =>
    if p.tag.isSome then .ok (p, r)
    else .ok ({ p with tag := some (handle, rest, t.start), start := p.start.or (some t.start) }, r.next)
  | _ => .ok (p, r)

/-- Reads the properties of a node: an anchor and a tag in either order. -/
def read (r : NodeReader) : Except YamlError (NodeProperties × NodeReader) := do
  let (p, r) ← none.readOne r
  if p.start.isSome then p.readOne r else .ok (p, r)

/-- The tag in full. -/
def fullTag (p : NodeProperties) (handles : List (String × String)) : Except YamlError (Option String) :=
  match p.tag with
  | .none => .ok .none
  | some (.none, rest, _) => .ok (some rest)
  | some (some handle, rest, place) =>
    match handles.lookup handle with
    | some meaning => .ok (some (meaning ++ rest))
    | .none => .error (.during .node (p.start.getD place) (.unknownTagHandle handle) place)

end NodeProperties

/-- The tag of a scalar. A tag that says nothing leaves it to the text. -/
def scalarTag (tag : Option String) (isPlain : Bool) (text : String) : String :=
  match tag with
  | none => if isPlain then impliedTag text else coreTag "str"
  | some "!" => impliedTag text
  | some tag => tag

/-- The tag of a collection. A tag that says nothing leaves it to the shape. -/
def collectionTag (tag : Option String) (usual : String) : String :=
  match tag with
  | none => coreTag usual
  | some "!" => coreTag usual
  | some tag => tag

/-- Which content may follow. -/
inductive NodePlace where
  /-- Inside brackets. -/
  | flow
  /-- Anywhere else. -/
  | block
  /-- As the key or the value of a block mapping, where a sequence needs no indentation. -/
  | entry
deriving DecidableEq, Repr

/-! ## Collections -/

/-- Reads a sequence whose items are read in a given way. Inside it an alias of it is cut. -/
def readSequence (r : NodeReader) (anchor : Option String) (tag : String) (start : Mark)
    (readItems : NodeReader → Except YamlError (List YamlNode × NodeReader)) :
    Except YamlError (YamlNode × NodeReader) := do
  r.checkAnchor anchor start
  let (items, r) ← readItems (r.remember anchor (.sequence tag [] start))
  let n := YamlNode.sequence tag items start
  .ok (n, r.remember anchor n)

/-- Reads a mapping whose entries are read in a given way. Inside it an alias of it is cut. -/
def readMapping (r : NodeReader) (anchor : Option String) (tag : String) (start : Mark)
    (readEntries : NodeReader → Except YamlError (List (YamlNode × YamlNode) × NodeReader)) :
    Except YamlError (YamlNode × NodeReader) := do
  r.checkAnchor anchor start
  let (entries, r) ← readEntries (r.remember anchor (.mapping tag [] start))
  let n := YamlNode.mapping tag entries start
  .ok (n, r.remember anchor n)

/-- Reads a scalar that has been found. -/
def readScalar (r : NodeReader) (anchor : Option String) (tag text : String) (start : Mark) :
    Except YamlError (YamlNode × NodeReader) := do
  r.checkAnchor anchor start
  let n := YamlNode.scalar tag text start
  .ok (n, r.remember anchor n)

/-- Passes over the comma before an entry of a flow collection that is not the first one. -/
def readComma (activity : YamlActivity) (began : Mark) (what : String) (isFirst : Bool) (r : NodeReader) :
    Except YamlError NodeReader := do
  let t ← r.peek
  if isFirst then .ok r
  else if t.lexeme = .flowEntry then .ok r.next
  else .error (.during activity began (.expectedSeparator what t.lexeme.name) t.start)

/-! ## Content -/

/-- The error that a text is longer than its tokens, which none is. -/
def outOfTokens : YamlError :=
  .plain .endOfText ⟨0, 0⟩

mutual

/-- Reads a node. -/
def readNode : Nat → NodePlace → NodeReader → Except YamlError (YamlNode × NodeReader)
  | 0, _, _ => .error outOfTokens
  | fuel + 1, place, r => do
    let t ← r.peek
    match t.lexeme with
    | .aliasOf name =>
      match r.anchors.lookup name with
      | some n => .ok (n, r.next)
      | none => .error (.plain (.unknownAlias name) t.start)
    | _ =>
      let (p, r) ← NodeProperties.read r
      let tag ← p.fullTag r.handles
      let t ← r.peek
      let start := p.start.getD t.start
      let sequenceTag := collectionTag tag "seq"
      let mappingTag := collectionTag tag "map"
      match t.lexeme with
      | .scalar text isPlain => readScalar r.next p.anchor (scalarTag tag isPlain text) text start
      | .flowSequenceStart =>
        readSequence r.next p.anchor sequenceTag start (readFlowItems fuel t.start true)
      | .flowMappingStart =>
        readMapping r.next p.anchor mappingTag start (readFlowEntries fuel t.start true)
      | lexeme =>
        if place = .entry && lexeme = .blockEntry then
          readSequence r p.anchor sequenceTag start (readEntryItems fuel)
        else if place ≠ .flow && lexeme = .blockSequenceStart then
          readSequence r.next p.anchor sequenceTag start (readBlockItems fuel t.start)
        else if place ≠ .flow && lexeme = .blockMappingStart then
          readMapping r.next p.anchor mappingTag start (readBlockEntries fuel t.start)
        else if p.start.isSome then readScalar r p.anchor (scalarTag tag true "") "" start
        else
          let activity := if place = .flow then YamlActivity.flowNode else YamlActivity.blockNode
          .error (.during activity start (.expectedToken "the node content" lexeme.name) t.start)

/-- Reads a node unless one of some tokens is next; then the node is an empty scalar at a mark. -/
def readUnless : Nat → NodePlace → List YamlLexeme → Mark → NodeReader →
    Except YamlError (YamlNode × NodeReader)
  | 0, _, _, _, _ => .error outOfTokens
  | fuel + 1, place, lexemes, mark, r => do
    if ← r.sees lexemes then .ok (.empty mark, r) else readNode fuel place r

/-- Reads the items of a block sequence. -/
def readBlockItems : Nat → Mark → NodeReader → Except YamlError (List YamlNode × NodeReader)
  | 0, _, _ => .error outOfTokens
  | fuel + 1, began, r => do
    let t ← r.peek
    match t.lexeme with
    | .blockEntry =>
      let (n, r) ← readUnless fuel .block [.blockEntry, .blockEnd] t.stop r.next
      let (rest, r) ← readBlockItems fuel began r
      .ok (n :: rest, r)
    | .blockEnd => .ok ([], r.next)
    | lexeme =>
      .error (.during .blockCollection began (.expectedToken "<block end>" lexeme.name) t.start)

/-- Reads the items of a block sequence without indentation of its own. -/
def readEntryItems : Nat → NodeReader → Except YamlError (List YamlNode × NodeReader)
  | 0, _ => .error outOfTokens
  | fuel + 1, r => do
    let t ← r.peek
    match t.lexeme with
    | .blockEntry =>
      let (n, r) ← readUnless fuel .block [.blockEntry, .key, .value, .blockEnd] t.stop r.next
      let (rest, r) ← readEntryItems fuel r
      .ok (n :: rest, r)
    | _ => .ok ([], r)

/-- Reads the entries of a block mapping. -/
def readBlockEntries : Nat → Mark → NodeReader →
    Except YamlError (List (YamlNode × YamlNode) × NodeReader)
  | 0, _, _ => .error outOfTokens
  | fuel + 1, began, r => do
    let t ← r.peek
    match t.lexeme with
    | .key =>
      let (k, r) ← readUnless fuel .entry [.key, .value, .blockEnd] t.stop r.next
      let (v, r) ← readEntryValue fuel .entry [.key, .value, .blockEnd] r
      let (rest, r) ← readBlockEntries fuel began r
      .ok ((k, v) :: rest, r)
    | .blockEnd => .ok ([], r.next)
    | lexeme =>
      .error (.during .blockMapping began (.expectedToken "<block end>" lexeme.name) t.start)

/-- Reads the value behind a key, which may be missing. -/
def readEntryValue : Nat → NodePlace → List YamlLexeme → NodeReader →
    Except YamlError (YamlNode × NodeReader)
  | 0, _, _, _ => .error outOfTokens
  | fuel + 1, place, lexemes, r => do
    let t ← r.peek
    if t.lexeme = .value then readUnless fuel place lexemes t.stop r.next else .ok (.empty t.start, r)

/-- Reads the items of a flow sequence. An item with a key is a mapping of one entry. -/
def readFlowItems : Nat → Mark → Bool → NodeReader → Except YamlError (List YamlNode × NodeReader)
  | 0, _, _, _ => .error outOfTokens
  | fuel + 1, began, isFirst, r => do
    if ← r.sees [.flowSequenceEnd] then .ok ([], r.next)
    else
      let r ← readComma .flowSequence began "',' or ']'" isFirst r
      let t ← r.peek
      match t.lexeme with
      | .flowSequenceEnd => .ok ([], r.next)
      | .key =>
        let (k, r) ← readUnless fuel .flow [.value, .flowEntry, .flowSequenceEnd] t.stop r.next
        let (v, r) ← readEntryValue fuel .flow [.flowEntry, .flowSequenceEnd] r
        let (rest, r) ← readFlowItems fuel began false r
        .ok (.mapping (coreTag "map") [(k, v)] t.start :: rest, r)
      | _ =>
        let (n, r) ← readNode fuel .flow r
        let (rest, r) ← readFlowItems fuel began false r
        .ok (n :: rest, r)

/-- Reads the entries of a flow mapping. A node without an indicator in front is a key without a value. -/
def readFlowEntries : Nat → Mark → Bool → NodeReader →
    Except YamlError (List (YamlNode × YamlNode) × NodeReader)
  | 0, _, _, _ => .error outOfTokens
  | fuel + 1, began, isFirst, r => do
    if ← r.sees [.flowMappingEnd] then .ok ([], r.next)
    else
      let r ← readComma .flowMapping began "',' or '\x7d'" isFirst r
      let t ← r.peek
      match t.lexeme with
      | .flowMappingEnd => .ok ([], r.next)
      | .key =>
        let (k, r) ← readUnless fuel .flow [.value, .flowEntry, .flowMappingEnd] t.stop r.next
        let (v, r) ← readEntryValue fuel .flow [.flowEntry, .flowMappingEnd] r
        let (rest, r) ← readFlowEntries fuel began false r
        .ok ((k, v) :: rest, r)
      | _ =>
        let (k, r) ← readNode fuel .flow r
        let t ← r.peek
        let (rest, r) ← readFlowEntries fuel began false r
        .ok ((k, .empty t.start) :: rest, r)

end

/-! ## Documents -/

/-- Is the token one that no content begins with, but that comes between documents? -/
def YamlLexeme.isBetween : YamlLexeme → Bool
  | directive _ => true
  | documentStart => true
  | documentEnd => true
  | streamEnd => true
  | _ => false

/-- Enough steps for reading what is left. -/
def NodeReader.steps (r : NodeReader) : Nat :=
  4 * r.tokens.length + 8

/-- Reads the directives before a document: what the handles of tags stand for. -/
def readDirectives : Nat → Bool → List (String × String) → NodeReader →
    Except YamlError (List (String × String) × NodeReader)
  | 0, _, _, _ => .error outOfTokens
  | fuel + 1, hasVersion, handles, r => do
    let t ← r.peek
    match t.lexeme with
    | .directive (.version major _) =>
      if hasVersion then .error (.plain .repeatedVersion t.start)
      else if major ≠ 1 then .error (.plain .wrongVersion t.start)
      else readDirectives fuel true handles r.next
    | .directive (.tagHandle handle meaning) =>
      if (handles.lookup handle).isSome then .error (.plain (.repeatedTagHandle handle) t.start)
      else readDirectives fuel hasVersion (handles ++ [(handle, meaning)]) r.next
    | .directive .unknown => readDirectives fuel hasVersion handles r.next
    | _ => .ok (handles, r)

/-- Reads the beginning of a document that is marked. -/
def readDocumentStart (r : NodeReader) : Except YamlError NodeReader := do
  let (handles, r) ← readDirectives r.steps false [] r
  let t ← r.peek
  if t.lexeme = .documentStart then
    .ok { r.next with handles := handles ++ NodeReader.usualHandles }
  else .error (.plain (.expectedToken "'<document start>'" t.lexeme.name) t.start)

/-- Reads the node of a document that is marked. -/
def readMarkedDocument (r : NodeReader) : Except YamlError (YamlNode × NodeReader) := do
  let r ← readDocumentStart r
  let t ← r.peek
  if t.lexeme.isBetween then .ok (.empty t.start, r) else readNode r.steps .block r

/-- Passes over marks for the end of a document. -/
def NodeReader.skipDocumentEnds (r : NodeReader) : NodeReader :=
  { r with tokens := r.tokens.dropWhile fun t => t.lexeme = .documentEnd }

/-- Reads the end of the text behind its only document. -/
def readTextEnd (document : YamlNode) (r : NodeReader) : Except YamlError Unit := do
  let r := r.skipDocumentEnds
  let t ← r.peek
  if t.lexeme = .streamEnd then .ok ()
  else
    let _ ← readDocumentStart r
    .error (.during .singleDocument document.mark .anotherDocument t.start)

/-- The node of the only document, if there is one. -/
def readDocument (r : NodeReader) : Except YamlError (Option YamlNode) := do
  let t ← r.peek
  match t.lexeme with
  | .streamEnd => .ok none
  | lexeme =>
    let (document, r) ←
      if lexeme.isBetween && lexeme ≠ .documentEnd then readMarkedDocument r
      else readNode r.steps .block r
    readTextEnd document r
    .ok (some document)

/-- The node of a text. -/
def YamlNode.ofChars (text : List Char) : Except YamlError (Option YamlNode) :=
  let (tokens, ending) := yamlTokens text
  readDocument ⟨tokens, ending, [], NodeReader.usualHandles⟩

end BodyLength
