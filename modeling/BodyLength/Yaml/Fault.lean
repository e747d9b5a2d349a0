import BodyLength.Text.Quoted
import BodyLength.Value.Impossible

/-!
# What is wrong with a configuration text

A configuration is written in YAML. A text can break the rules of YAML in many ways, and each is reported with
the place where it was found and, mostly, with what was being read and where that began. A text can also hold
a character that no such text may hold, which is found before anything is read of it, and it can be flawless
and ask for a value that there is none of.
-/

namespace BodyLength

/-! ## Places -/

/-- A place in a text, lines and columns counted from zero. -/
structure Mark where
  line : Nat
  column : Nat
deriving DecidableEq, Repr, Inhabited

/-- A place of a named text in words. -/
def Mark.inText (m : Mark) (name : String) : String :=
  "  in \"" ++ name ++ "\", line " ++ toString (m.line + 1) ++ ", column " ++ toString (m.column + 1)

/-! ## Circumstances -/

/-- What was being read when something was found to be wrong. -/
inductive YamlActivity where
  | nextToken
  | simpleKey
  | directive
  | directivePart
  | aliasName
  | anchorName
  | tag
  | tagPart
  | blockScalar
  | doubleQuoted
  | quotedScalar
  | node
  | blockNode
  | flowNode
  | blockCollection
  | blockMapping
  | flowSequence
  | flowMapping
  | firstAnchor (name : String)
  | singleDocument
  | mapping
  | orderedMap
  | pairs
deriving DecidableEq, Repr

/-- What was being read, in words. -/
def YamlActivity.message : YamlActivity → String
  | nextToken => "while scanning for the next token"
  | simpleKey => "while scanning a simple key"
  | directive => "while scanning a directive"
  | directivePart => "while parsing a directive"
  | aliasName => "while scanning an alias"
  | anchorName => "while scanning an anchor"
  | tag => "while scanning a tag"
  | tagPart => "while parsing a tag"
  | blockScalar => "while scanning a block scalar"
  | doubleQuoted => "while scanning a double-quoted scalar"
  | quotedScalar => "while scanning a quoted scalar"
  | node => "while parsing a node"
  | blockNode => "while parsing a block node"
  | flowNode => "while parsing a flow node"
  | blockCollection => "while parsing a block collection"
  | blockMapping => "while parsing a block mapping"
  | flowSequence => "while parsing a flow sequence"
  | flowMapping => "while parsing a flow mapping"
  | firstAnchor name => "found duplicate anchor " ++ quoted name ++ "; first occurrence"
  | singleDocument => "expected a single document in the stream"
  | mapping => "while constructing a mapping"
  | orderedMap => "while constructing an ordered map"
  | pairs => "while constructing pairs"

/-! ## Problems -/

/-- What is wrong. -/
inductive YamlProblem where
  | keyWithoutColon
  | cannotStartToken (c : Char)
  | entryNotAllowed
  | keyNotAllowed
  | valueNotAllowed
  /-- Something else was expected than a character. -/
  | expected (what : String) (found : Char)
  /-- Something else was expected than a token. -/
  | expectedToken (what : String) (found : String)
  /-- A comma or an end was expected and not a token. -/
  | expectedSeparator (what : String) (found : String)
  | zeroIndentation
  | unknownEscape (c : Char)
  | endOfText
  | documentSeparator
  | badUriBytes (reason : String)
  | repeatedVersion
  | wrongVersion
  | repeatedTagHandle (handle : String)
  | unknownTagHandle (handle : String)
  | unknownAlias (name : String)
  | secondAnchor
  | anotherDocument
  /-- A node of another shape was expected. -/
  | expectedShape (what : String) (found : String)
  | badKey
  | unknownTag (tag : String)
  | mergeNotMapping (found : String)
  | mergeNotMappings (found : String)
  | severalItems (count : Nat)
  | badBinary (reason : String)
  | binaryNotAscii (reason : String)
deriving DecidableEq, Repr

/-- What is wrong, in words. -/
def YamlProblem.message : YamlProblem → String
  | keyWithoutColon => "could not find expected ':'"
  | cannotStartToken c => "found character " ++ quoted (String.singleton c) ++ " that cannot start any token"
  | entryNotAllowed => "sequence entries are not allowed here"
  | keyNotAllowed => "mapping keys are not allowed here"
  | valueNotAllowed => "mapping values are not allowed here"
  | expected what found =>
    "expected " ++ what ++ ", but found " ++ quoted (String.singleton found)
  | expectedToken what found => "expected " ++ what ++ ", but found " ++ quoted found
  | expectedSeparator what found => "expected " ++ what ++ ", but got " ++ quoted found
  | zeroIndentation => "expected indentation indicator in the range 1-9, but found 0"
  | unknownEscape c => "found unknown escape character " ++ quoted (String.singleton c)
  | endOfText => "found unexpected end of stream"
  | documentSeparator => "found unexpected document separator"
  | badUriBytes reason => reason
  | repeatedVersion => "found duplicate YAML directive"
  | wrongVersion => "found incompatible YAML document (version 1.* is required)"
  | repeatedTagHandle handle => "duplicate tag handle " ++ quoted handle
  | unknownTagHandle handle => "found undefined tag handle " ++ quoted handle
  | unknownAlias name => "found undefined alias " ++ quoted name
  | secondAnchor => "second occurrence"
  | anotherDocument => "but found another document"
  | expectedShape what found => "expected " ++ what ++ ", but found " ++ found
  | badKey => "found unhashable key"
  | unknownTag tag => "could not determine a constructor for the tag " ++ quoted tag
  | mergeNotMapping found => "expected a mapping for merging, but found " ++ found
  | mergeNotMappings found => "expected a mapping or list of mappings for merging, but found " ++ found
  | severalItems count => "expected a single mapping item, but found " ++ toString count ++ " items"
  | badBinary reason => "failed to decode base64 data: " ++ reason
  | binaryNotAscii reason => "failed to convert base64 data into ascii: " ++ reason

/-! ## Faults -/

/-- Something that is wrong, with the circumstances as far as they are known. -/
structure YamlFault where
  activity : Option YamlActivity
  /-- Where the activity began. -/
  began : Option Mark
  problem : YamlProblem
  /-- Where the problem was found. -/
  place : Mark
deriving DecidableEq, Repr

/-- A fault of a named text, a line for each part. -/
def YamlFault.message (f : YamlFault) (name : String) : String :=
  let activity := match f.activity with
    | none => []
    | some activity => [activity.message]
  let began := match f.began with
    | none => []
    | some mark => if mark = f.place then [] else [mark.inText name]
  "\n".intercalate (activity ++ began ++ [f.problem.message, f.place.inText name])

/-- Why a configuration text gives no value. -/
inductive YamlError where
  /-- There is a character at a position that may not be there. -/
  | forbiddenChar (c : Char) (position : Nat)
  /-- Something is wrong with the text. -/
  | fault (f : YamlFault)
  /-- The text asks for a value that there is none of. -/
  | impossible (v : ImpossibleValue)
deriving Repr

/-- The wording of a character that may not be in a named text. -/
def forbiddenCharMessage (c : Char) (position : Nat) (name : String) : String :=
  "unacceptable character #x" ++ hexPadded 4 c.toNat ++ ": special characters are not allowed\n  in \"" ++
    name ++ "\", position " ++ toString position

namespace YamlError

/-- A fault in some circumstances. -/
def during (activity : YamlActivity) (began : Mark) (problem : YamlProblem) (place : Mark) : YamlError :=
  .fault ⟨some activity, some began, problem, place⟩

/-- A fault without circumstances. -/
def plain (problem : YamlProblem) (place : Mark) : YamlError :=
  .fault ⟨none, none, problem, place⟩

/-- The wording of an error of a named text. -/
def message (e : YamlError) (name : String) : String :=
  match e with
  | forbiddenChar c position => forbiddenCharMessage c position name
  | fault f => f.message name
  | impossible v => v.message

end YamlError

end BodyLength
