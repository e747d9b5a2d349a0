import BodyLength.Source.Grammar.Arguments
import BodyLength.Source.Grammar.Parameters
import BodyLength.Source.Grammar.Patterns
import BodyLength.Source.Grammar.SimpleStatements

/-!
# Statements with blocks

A statement with a block has a head that ends in a colon, and behind it either statements on the same line
or an indented block. The mistakes are much the same for all of them: a head without a colon, and a colon
behind which nothing is indented.
-/

namespace BodyLength

namespace Grammar

open BodyLength.Parser

/-! ## Blocks -/

/-- Reads the end of a line behind which nothing is indented. -/
def missingBlock : Parser Unit := do
  let _ ← newline
  notAhead (kind .indent)
  breakHere

/-- Reads a block, or the rest of a line. -/
def block (g : Rules) : Parser (List Ast) :=
  (do
    let _ ← newline
    let _ ← kind .indent
    let all ← g .statements
    let _ ← kind .dedent
    pure all) <|>
  simpleStatements g <|>
  mistake missingBlock

/-- A mistake: a head with a colon behind which nothing is indented. -/
def blockMistake {α : Type} (head : Parser α) : Parser Unit := do
  let _ ← head
  let _ ← op ":"
  missingBlock

/-- A mistake: a head without a colon. -/
def colonMistake {α : Type} (head : Parser α) : Parser Unit := do
  let _ ← head
  let _ ← newline
  breakHere

/-- Reads the word that makes a statement wait for others. -/
def asyncMark : Parser Unit := do
  let _ ← maybe (word "async")
  pure ()

/-! ## Functions and classes -/

/-- Reads decorators. -/
def decorators (g : Rules) : Parser (List Ast) :=
  many1 do
    let _ ← op "@"
    let a ← g.ast .namedExpression
    let _ ← newline
    pure a

/-- Reads something with or without decorators. -/
def decorated (g : Rules) (p : Parser Ast) : Parser Ast :=
  (do
    let all ← decorators g
    let a ← p
    pure (a.decorate all)) <|>
  p

/-- Reads the type of a function's result. -/
def resultType (g : Rules) : Parser (List Ast) :=
  orNone (op "->" >>= fun _ => lone (g.ast .expression))

/-- A mistake: a function without a block. -/
def functionMistake (g : Rules) : Parser Unit :=
  blockMistake do
    asyncMark
    let _ ← word "def"
    let _ ← kind .name
    let _ ← bracketed (maybe (parameters g .function))
    resultType g

/-- Reads a function without its decorators. -/
def plainFunction (g : Rules) : Parser Ast :=
  mistake (functionMistake g) <|>
  ranged do
    asyncMark
    let _ ← word "def"
    let name ← kind .name
    let _ ← need "("
    let all ← maybe (parameters g .function)
    let _ ← op ")"
    let result ← resultType g
    let _ ← need ":"
    let body ← g .block
    pure fun extent =>
      .function extent name.identifier (all.getD default).parts body [] result

/-- Reads a function. -/
def function (g : Rules) : Parser Ast :=
  decorated g (plainFunction g)

/-- Reads the head of a class up to its colon. -/
def classHead (g : Rules) : Parser (Token × List Ast) := do
  let _ ← word "class"
  let name ← kind .name
  let bases ← orNone (bracketed (orNone (g .arguments)))
  pure (name, bases)

/-- Reads a class without its decorators. -/
def plainClass (g : Rules) : Parser Ast :=
  mistake (colonMistake (classHead g) <|> blockMistake (classHead g)) <|>
  ranged do
    let (name, bases) ← classHead g
    let _ ← op ":"
    let body ← g .block
    pure fun extent =>
      .classDef extent name.identifier (bases.filter fun a => !a.isKeyword) (bases.filter (·.isKeyword))
        body []

/-- Reads a class. -/
def classStatement (g : Rules) : Parser Ast :=
  decorated g (plainClass g)

/-! ## Conditions and loops -/

/-- Reads the block for when a condition or a loop ends. -/
def elseBlock (g : Rules) : Parser (List Ast) :=
  mistake (blockMistake (word "else")) <|>
  (do
    let _ ← word "else"
    let _ ← need ":"
    g .block)

/-- Reads a word with a condition. -/
def conditionHead (g : Rules) (name : String) : Parser Ast := do
  let _ ← word name
  g.ast .namedExpression

/-- Reads a condition with what follows if it does not hold. -/
def condition (g : Rules) (name : String) : Parser Ast :=
  mistake (colonMistake (conditionHead g name) <|> blockMistake (conditionHead g name)) <|>
  construct do
    let test ← conditionHead g name
    let _ ← op ":"
    let body ← g .block
    let other ← lone (g.ast .elifClause) <|> orNone (elseBlock g)
    pure (test :: body ++ other)

/-- Reads a `while`. -/
def whileStatement (g : Rules) : Parser Ast :=
  mistake (colonMistake (conditionHead g "while") <|> blockMistake (conditionHead g "while")) <|>
  construct do
    let test ← conditionHead g "while"
    let _ ← op ":"
    let body ← g .block
    let other ← orNone (elseBlock g)
    pure (test :: body ++ other)

/-- Reads the head of a `for` up to its colon. -/
def forHead (g : Rules) : Parser Unit := do
  asyncMark
  let _ ← word "for"
  let _ ← starTargets g
  let _ ← word "in"
  let _ ← g.ast .starExpressions
  pure ()

/-- Reads a `for`. Behind the `in` there is no way back. -/
def forStatement (g : Rules) : Parser Ast :=
  mistake (colonMistake (forHead g) <|> blockMistake (forHead g)) <|>
  (do
    let start ← peek
    settle <|
      (do
        asyncMark
        let _ ← word "for"
        let target ← starTargets g
        let _ ← word "in"
        commit do
          let source ← g.ast .starExpressions
          let _ ← op ":"
          let body ← g .block
          let other ← orNone (elseBlock g)
          let extent ← extentFrom start
          pure (.construct extent .plain (target :: source :: body ++ other))) <|>
      mistake (loopTargetMistake g))

/-! ## With -/

/-- Looks whether an item of a `with` ends. -/
def itemEnd : Parser Unit :=
  ahead (oneOf [",", ")", ":"])

/-- A mistake: an item of a `with` that is given to something that cannot be written to. -/
def withItemMistake (g : Rules) : Parser Unit := do
  let _ ← g.ast .expression
  let _ ← word "as"
  let target ← g.ast .expression
  itemEnd
  match target.badTarget? .assigning with
  | some bad => breakAt bad.line
  | none => pure ()

/-- Reads an item of a `with`. -/
def withItem (g : Rules) : Parser Ast :=
  (do
    let value ← g.ast .expression
    let _ ← word "as"
    let target ← g.ast .starTarget
    itemEnd
    pure (.group [value, target])) <|>
  mistake (withItemMistake g) <|>
  (do
    let value ← g.ast .expression
    pure (.group [value]))

/-- Reads the head of a `with` more freely than it should be, up to its colon. -/
def looseWithHead (value : Parser Ast) (target : Parser Ast) : Parser Unit := do
  let _ ← separated (do
    let _ ← value
    maybe (word "as" >>= fun _ => target)) (op ",")
  pure ()

/-- Reads the head of a `with`, without or with brackets, and what is a mistake behind it. -/
def withMistake (g : Rules) (rest : Parser Unit) : Parser Unit :=
  let start := asyncMark >>= fun _ => word "with"
  (do
    let _ ← start
    looseWithHead (g.ast .expression) (g.ast .starTarget)
    rest) <|>
  (do
    let _ ← start
    let _ ← op "("
    looseWithHead (expressions g) (g.ast .starTarget)
    let _ ← maybe (op ",")
    let _ ← op ")"
    rest)

/-- Reads a `with`. -/
def withStatement (g : Rules) : Parser Ast :=
  let ended := fun (items : Parser (List Ast)) => construct do
    asyncMark
    let _ ← word "with"
    let all ← items
    let _ ← op ":"
    let body ← g .block
    pure (all ++ body)
  mistake (withMistake g (op ":" >>= fun _ => missingBlock)) <|>
  ended (bracketed (commaList (withItem g))) <|>
  ended (separated (withItem g) (op ",")) <|>
  mistake (withMistake g (newline >>= fun _ => breakHere))

/-! ## Try -/

/-- Reads a name behind `as`. -/
def boundName : Parser Unit := do
  let _ ← maybe (word "as" >>= fun _ => kind .name)
  pure ()

/-- A mistake: a handler of several types without brackets, without a colon, or without a type where it
needs one. -/
def handlerMistake (g : Rules) : Parser Unit :=
  (do
    let _ ← word "except"
    let _ ← maybe (op "*")
    let first ← g.ast .expression
    let _ ← op ","
    let _ ← expressions g
    boundName
    let _ ← op ":"
    breakAt first.line) <|>
  colonMistake (do
    let _ ← word "except"
    let _ ← maybe (op "*")
    let _ ← g.ast .expression
    boundName) <|>
  colonMistake (word "except") <|>
  (do
    let _ ← word "except"
    let _ ← op "*"
    (newline >>= fun _ => pure ()) <|> (op ":" >>= fun _ => pure ())
    breakHere)

/-- Reads the head of a handler with a type. -/
def handlerHead (g : Rules) (isGroup : Bool) : Parser Ast := do
  let _ ← word "except"
  if isGroup then
    let _ ← op "*"
  let type ← g.ast .expression
  boundName
  pure type

/-- Reads a handler with a type. -/
def typedHandler (g : Rules) (isGroup : Bool) : Parser Ast :=
  construct do
    let type ← handlerHead g isGroup
    let _ ← op ":"
    let body ← g .block
    pure (type :: body)

/-- Reads a handler of errors. -/
def handler (g : Rules) : Parser Ast :=
  mistake (blockMistake (handlerHead g false) <|> blockMistake (word "except")) <|>
  typedHandler g false <|>
  construct (do
    let _ ← word "except"
    let _ ← op ":"
    g .block) <|>
  mistake (handlerMistake g)

/-- Reads a handler of groups of errors. -/
def groupHandler (g : Rules) : Parser Ast :=
  mistake (blockMistake (handlerHead g true)) <|>
  typedHandler g true <|>
  mistake (handlerMistake g)

/-- Reads the block that is run in any case. -/
def finallyBlock (g : Rules) : Parser (List Ast) :=
  mistake (blockMistake (word "finally")) <|>
  (do
    let _ ← word "finally"
    let _ ← need ":"
    g .block)

/-- A mistake: a `try` without a block, without anything behind it, or with both kinds of handlers. -/
def tryMistake (g : Rules) : Parser Unit :=
  blockMistake (word "try") <|>
  (do
    let _ ← word "try"
    let _ ← op ":"
    let _ ← g .block
    notAhead (oneWord ["except", "finally"])
    breakHere) <|>
  (do
    let _ ← word "try"
    let _ ← op ":"
    let _ ← many (g .block)
    let _ ←
      (do
        let _ ← many1 (handler g)
        groupHandler g) <|>
      (do
        let _ ← many1 (groupHandler g)
        handler g)
    let _ ← many (g .block)
    breakHere)

/-- Reads a `try`. -/
def tryStatement (g : Rules) : Parser Ast :=
  let ended := fun (rest : Parser (List Ast)) => construct do
    let _ ← word "try"
    let _ ← need ":"
    let body ← g .block
    let more ← rest
    pure (body ++ more)
  let handled := fun (one : Parser Ast) => ended do
    let handlers ← many1 one
    let other ← orNone (elseBlock g)
    let last ← orNone (finallyBlock g)
    pure (handlers ++ other ++ last)
  mistake (tryMistake g) <|> ended (finallyBlock g) <|> handled (handler g) <|> handled (groupHandler g)

/-! ## Match -/

/-- Reads the subject of a `match`. -/
def subject (g : Rules) : Parser Ast :=
  shaped .tuple (do
    let first ← g.ast .starNamedExpression
    let _ ← op ","
    let more ← orNone (starNamedExpressions g)
    pure (first :: more)) <|>
  g.ast .namedExpression

/-- Reads the head of a `match` up to its colon. -/
def matchHead (g : Rules) : Parser Ast := do
  let _ ← softWord "match"
  subject g

/-- Reads the head of a case up to its colon. -/
def caseHead (g : Rules) : Parser (List Ast) := do
  let _ ← softWord "case"
  let first ← casePattern g
  let guard ← orNone (word "if" >>= fun _ => lone (g.ast .namedExpression))
  pure (first :: guard)

/-- Reads a case. -/
def caseBlock (g : Rules) : Parser Ast :=
  mistake (colonMistake (caseHead g) <|> blockMistake (caseHead g)) <|>
  (do
    let head ← caseHead g
    let _ ← op ":"
    let body ← g .block
    pure (.group (head ++ body)))

/-- Reads a `match`. -/
def matchStatement (g : Rules) : Parser Ast :=
  construct (do
    let first ← matchHead g
    let _ ← op ":"
    let _ ← newline
    let _ ← kind .indent
    let cases ← many1 (caseBlock g)
    let _ ← kind .dedent
    pure (first :: cases)) <|>
  mistake (colonMistake (matchHead g) <|> blockMistake (matchHead g))

/-! ## Statements -/

/-- Reads something only where one of some tokens follows. -/
def behind (words : List String) (p : Parser Ast) : Parser Ast := do
  ahead (token fun t =>
    (t.kind == .keyword || t.kind == .operator) && words.contains t.text)
  p

/-- Reads a statement with a block. -/
def compoundStatement (g : Rules) : Parser Ast :=
  behind ["def", "@", "async"] (function g) <|>
  behind ["if"] (condition g "if") <|>
  behind ["class", "@"] (classStatement g) <|>
  behind ["with", "async"] (withStatement g) <|>
  behind ["for", "async"] (forStatement g) <|>
  behind ["try"] (tryStatement g) <|>
  behind ["while"] (whileStatement g) <|>
  matchStatement g

/-- Reads statements, at least one. -/
def statements (g : Rules) : Parser (List Ast) := do
  let all ← many1 (lone (g.ast .compoundStatement) <|> simpleStatements g)
  pure all.flatten

end Grammar

end BodyLength
