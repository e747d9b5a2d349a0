import BodyLength.Source.Grammar.Atoms

/-!
# Patterns

What a case of a `match` compares its subject with. Literals and dotted names are compared by value, and so
they are constructs around an expression; names without a dot are bound and have no parts.
-/

namespace BodyLength

namespace Grammar

open BodyLength.Parser

/-! ## Values -/

/-- Reads a number, which is imaginary or is not. -/
def numberPart (isImaginary : Bool) : Parser Ast := do
  let t ← number
  let mark := t.text.toList.getLast?
  if (mark == some 'j' || mark == some 'J') == isImaginary then
    pure (.construct t.extent .plain [])
  else breakAt t.extent.line

/-- Reads a number with its sign. -/
def signedNumber (number : Parser Ast) : Parser Ast :=
  number <|> signed (op "-") number

/-- Reads a number that is a sum of a real and an imaginary one. -/
def complexNumber : Parser Ast :=
  construct do
    let real ← signedNumber (numberPart false)
    let _ ← oneOf ["+", "-"]
    let imaginary ← numberPart true
    pure [real, imaginary]

/-- Reads a number or a string. -/
def literalValue (g : Rules) : Parser Ast :=
  (do
    let a ← signedNumber (constant number)
    notAhead (oneOf ["+", "-"])
    pure a) <|>
  complexNumber <|> g.ast .strings

/-- Reads a value that is a keyword. -/
def wordValue : Parser Ast :=
  constant (oneWord ["None", "True", "False"])

/-- Reads a value as a pattern of its own. -/
def valuePattern (value : Parser Ast) : Parser Ast :=
  construct (lone value)

/-- Reads accesses behind a name, as many as asked for at least. -/
def dottedChain (least : Nat) : Parser Ast := do
  let start ← peek
  let first ← nameTarget
  let base ← if least = 0 then pure first else accessLink start first
  extend (accessLink start) base

/-- Reads a name with at least one dot. -/
def dottedPattern : Parser Ast :=
  dottedChain 1

/-- Reads a name with any number of dots. -/
def nameOrDottedPattern : Parser Ast :=
  dottedChain 0

/-! ## Bindings -/

/-- Looks whether what was read is not the start of something longer. -/
def standsAlone : Parser Unit :=
  notAhead (oneOf [".", "(", "="])

/-- Reads a name that is bound. -/
def captureName : Parser Token := do
  notAhead (softWord "_")
  let t ← kind .name
  standsAlone
  pure t

/-- Reads a name that is bound, or the name that binds nothing, as a pattern. -/
def capturePattern : Parser Ast :=
  constant captureName <|> constant (softWord "_")

/-- Reads a pattern that binds several items. -/
def starPattern : Parser Ast :=
  construct do
    let _ ← op "*"
    let _ ← captureName <|> softWord "_"
    pure []

/-! ## Sequences, mappings and classes -/

/-- Reads an item of a sequence. -/
def sequenceItem (g : Rules) : Parser Ast :=
  g.ast .starPattern <|> g.ast .pattern

/-- Reads the items of a sequence without brackets. -/
def openSequence (g : Rules) : Parser (List Ast) := do
  let first ← sequenceItem g
  let _ ← op ","
  let more ← orNone (commaList (sequenceItem g))
  pure (first :: more)

/-- Reads a sequence in brackets. -/
def sequencePattern (g : Rules) : Parser Ast :=
  construct (do
    let _ ← op "["
    let items ← orNone (commaList (sequenceItem g))
    let _ ← op "]"
    pure items) <|>
  construct (bracketed (orNone (openSequence g)))

/-- Reads a key with its pattern. -/
def keyPattern (g : Rules) : Parser (List Ast) := do
  let key ← literalValue g <|> wordValue <|> g.ast .dottedPattern
  let _ ← op ":"
  let value ← g.ast .pattern
  pure [key, value]

/-- Reads the binding of the other entries of a mapping, and the end of the mapping. -/
def mappingEnd : Parser Unit := do
  let _ ← op "**"
  let _ ← captureName
  let _ ← maybe (op ",")
  let _ ← op "\x7d"
  pure ()

/-- Reads a mapping. -/
def mappingPattern (g : Rules) : Parser Ast :=
  let entries := separated (keyPattern g) (op ",")
  construct (do
    let _ ← op "\x7b"
    let _ ← op "\x7d"
    pure []) <|>
  construct (do
    let _ ← op "\x7b"
    mappingEnd
    pure []) <|>
  construct (do
    let _ ← op "\x7b"
    let all ← entries
    let _ ← op ","
    mappingEnd
    pure (entryParts all)) <|>
  construct (do
    let _ ← op "\x7b"
    let all ← entries
    let _ ← maybe (op ",")
    let _ ← op "\x7d"
    pure (entryParts all))

/-- Reads the patterns of arguments given by position. -/
def positionalPatterns (g : Rules) : Parser (List Ast) :=
  separated (g.ast .pattern) (op ",")

/-- Reads the patterns of arguments given by keyword. -/
def keywordPatterns (g : Rules) : Parser (List Ast) :=
  separated (do
    let _ ← kind .name
    let _ ← op "="
    g.ast .pattern) (op ",")

/-- A mistake: a pattern by position behind one by keyword. -/
def classPatternMistake (g : Rules) : Parser Unit := do
  let _ ← g.ast .nameOrDottedPattern
  let _ ← op "("
  let _ ← maybe (do
    let _ ← positionalPatterns g
    op ",")
  let _ ← keywordPatterns g
  let _ ← op ","
  let late ← positionalPatterns g
  breakAt ((late.head?.map (·.line)).getD 1)

/-- Reads a class with patterns for its arguments. -/
def classPattern (g : Rules) : Parser Ast :=
  let withArguments := fun (patterns : Parser (List Ast)) => construct do
    let name ← g.ast .nameOrDottedPattern
    let _ ← op "("
    let all ← patterns
    let _ ← op ")"
    pure (name :: all)
  let ended := fun (patterns : Parser (List Ast)) => withArguments do
    let all ← patterns
    let _ ← maybe (op ",")
    pure all
  withArguments (pure []) <|> ended (positionalPatterns g) <|> ended (keywordPatterns g) <|>
    ended (do
      let positional ← positionalPatterns g
      let _ ← op ","
      let named ← keywordPatterns g
      pure (positional ++ named)) <|>
    mistake (classPatternMistake g)

/-! ## Patterns -/

/-- Reads a pattern that needs no brackets. -/
def closedPattern (g : Rules) : Parser Ast :=
  valuePattern (literalValue g) <|> wordValue <|> capturePattern <|>
    valuePattern (do
      let a ← g.ast .dottedPattern
      standsAlone
      pure a) <|>
    bracketed (g.ast .pattern) <|> sequencePattern g <|> mappingPattern g <|> classPattern g

/-- Reads alternatives. -/
def orPattern (g : Rules) : Parser Ast := do
  let start ← peek
  let first ← g.ast .closedPattern
  let more ← many (op "|" >>= fun _ => g.ast .closedPattern)
  if more.isEmpty then pure first
  else
    let extent ← extentFrom start
    pure (.construct extent .plain (first :: more))

/-- A mistake: a pattern that is given no proper name. -/
def asPatternMistake (g : Rules) : Parser Unit :=
  (do
    let _ ← orPattern g
    let _ ← word "as"
    let name ← softWord "_"
    breakAt name.extent.line) <|>
  (do
    let _ ← orPattern g
    let _ ← word "as"
    notAhead (kind .name)
    let target ← g.ast .expression
    breakAt target.line)

/-- Reads a pattern, which may be given a name. -/
def pattern (g : Rules) : Parser Ast :=
  construct (do
    let inner ← orPattern g
    let _ ← word "as"
    let _ ← captureName
    pure [inner]) <|>
  mistake (asPatternMistake g) <|>
  orPattern g

/-- Reads the pattern of a case, which may be a sequence without brackets. -/
def casePattern (g : Rules) : Parser Ast :=
  construct (openSequence g) <|> g.ast .pattern

end Grammar

end BodyLength
