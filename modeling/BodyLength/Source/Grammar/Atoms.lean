import BodyLength.Number.Numeral
import BodyLength.Source.Grammar.Primaries
import BodyLength.Source.Grammar.Strings

/-!
# Expressions that stand for themselves

Names, literals and what stands in brackets: tuples, lists, sets, mappings, comprehensions with their
clauses, and slices.
-/

namespace BodyLength

namespace Grammar

open BodyLength.Parser

/-- Reads a token that is a value of its own. -/
def constant (p : Parser Token) : Parser Ast :=
  construct do
    let _ ← p
    pure []

/-- Is the number an integer with too many digits to be read? Digits of other bases and zeros do not count. -/
def isLongInteger (text : String) : Bool :=
  let digits := text.toList.filter (· != '_')
  digits.all isAsciiDigit && digits.any (· != '0') && decide (maxIntegerDigits < digits.length)

/-- Reads a number. -/
def number : Parser Token := do
  let t ← kind .number
  if isLongInteger t.text then breakAt t.extent.line else pure t

/-! ## Comprehensions -/

/-- A mistake: the head of a loop with a target that nothing can be assigned to. -/
def loopTargetMistake (g : Rules) : Parser Unit := do
  let _ ← maybe (word "async")
  let _ ← word "for"
  let target ← g.ast .starExpressions
  match target.badTarget? .looping with
  | some bad => breakAt bad.line
  | none => pure ()

/-- Reads a clause of a comprehension with its conditions. Behind the `in` there is no way back. -/
def forClause (g : Rules) : Parser Ast :=
  settle <|
    (do
      let _ ← maybe (word "async")
      let _ ← word "for"
      let target ← starTargets g
      let _ ← word "in"
      commit do
        let source ← g.ast .disjunction
        let conditions ← many (word "if" >>= fun _ => g.ast .disjunction)
        pure (.group (target :: source :: conditions))) <|>
    mistake (loopTargetMistake g)

/-- Reads the clauses of a comprehension. -/
def forClauses (g : Rules) : Parser (List Ast) :=
  many1 (forClause g)

/-- A mistake: a comprehension over what should be in brackets of its own. -/
def comprehensionMistake (g : Rules) : Parser Unit :=
  (do
    let _ ← oneOf ["[", "(", "\x7b"]
    let first ← starredExpression g
    let _ ← forClauses g
    breakAt first.line) <|>
  (do
    let _ ← oneOf ["[", "\x7b"]
    let first ← g.ast .starNamedExpression
    let _ ← op ","
    let _ ← orNone (starNamedExpressions g)
    let _ ← forClauses g
    breakAt first.line)

/-- Reads a comprehension in brackets. -/
def comprehension (g : Rules) (opening closing : String) (item : Parser (List Ast)) : Parser Ast :=
  construct do
    let _ ← op opening
    let parts ← item
    let clauses ← g .forClauses
    let _ ← op closing
    pure (parts ++ clauses)

/-- Reads a comprehension in round brackets. -/
def generator (g : Rules) : Parser Ast :=
  comprehension g "(" ")" (lone (assignmentExpression g <|> unnamedExpression g)) <|>
    mistake (comprehensionMistake g)

/-! ## Round and square brackets -/

/-- Reads a tuple in brackets. -/
def tuple (g : Rules) : Parser Ast :=
  roundTuple do
    let first ← g.ast .starNamedExpression
    let _ ← op ","
    let more ← orNone (starNamedExpressions g)
    pure (first :: more)

/-- A mistake: a starred expression alone in brackets. -/
def groupMistake (g : Rules) : Parser Unit :=
  (do
    let inner ← bracketed (starredExpression g)
    breakAt inner.line) <|>
  (do
    let stars ← bracketed do
      let stars ← op "**"
      let _ ← g.ast .expression
      pure stars
    breakAt stars.extent.line)

/-- Reads an expression in brackets that mark nothing. -/
def group (g : Rules) : Parser Ast :=
  bracketed (yieldExpression g <|> g.ast .namedExpression) <|> mistake (groupMistake g)

/-- Reads a list of values. -/
def listDisplay (g : Rules) : Parser Ast :=
  squareList (starNamedExpressions g)

/-- Reads a comprehension that gives a list. -/
def listComprehension (g : Rules) : Parser Ast :=
  comprehension g "[" "]" (lone (g.ast .namedExpression)) <|> mistake (comprehensionMistake g)

/-- A mistake: an assignment in the place of a comparison, or a value that cannot be given a name. -/
def namedExpressionMistake (g : Rules) : Parser Unit :=
  (do
    let first ← g.ast .expression
    let _ ← op ":="
    let _ ← g.ast .expression
    breakAt first.line) <|>
  (do
    let first ← kind .name
    let _ ← op "="
    let _ ← g.ast .bitwiseOr
    noAssignmentAhead
    breakAt first.extent.line) <|>
  (do
    notAhead (listDisplay g <|> tuple g <|> g.ast .generator <|> constant (oneWord ["True", "None", "False"]))
    let first ← g.ast .bitwiseOr
    let _ ← op "="
    let _ ← g.ast .bitwiseOr
    noAssignmentAhead
    breakAt first.line)


/-! ## Braces -/

/-- Reads a key with its value. -/
def keyValue (g : Rules) : Parser (List Ast) := do
  let key ← g.ast .expression
  let _ ← op ":"
  let value ← g.ast .expression
  pure [key, value]

/-- Reads an entry of a mapping, or a mapping whose entries are spread out. -/
def entry (g : Rules) : Parser (List Ast) :=
  (do
    let _ ← op "**"
    lone (g.ast .bitwiseOr)) <|>
  keyValue g

/-- The parts of a mapping: all keys, and then all values. -/
def entryParts (entries : List (List Ast)) : List Ast :=
  entries.flatMap (fun e => e.take (e.length - 1)) ++ entries.flatMap (fun e => e.drop (e.length - 1))

/-- A mistake: the value of a key that is missing or starred. -/
def valueMistake (g : Rules) : Parser Unit :=
  (do
    let _ ← g.ast .expression
    let _ ← op ":"
    let star ← op "*"
    let _ ← g.ast .bitwiseOr
    breakAt star.extent.line) <|>
  (do
    let _ ← g.ast .expression
    let colon ← op ":"
    ahead (oneOf ["\x7d", ","])
    breakAt colon.extent.line)

/-- A mistake: entries of a mapping behind which there is none. -/
def entriesMistake (g : Rules) : Parser Unit := do
  let _ ← op "\x7b"
  (do
    let _ ← entry g
    let _ ← many (op "," >>= fun _ => entry g)
    let _ ← op ","
    (do
      let key ← g.ast .expression
      notAhead (op ":")
      breakAt key.line) <|>
    valueMistake g) <|>
  valueMistake g

/-- Reads a mapping. -/
def dictionary (g : Rules) : Parser Ast :=
  construct (do
    let _ ← op "\x7b"
    let entries ← orNone (commaList (entry g))
    let _ ← op "\x7d"
    pure (entryParts entries)) <|>
  mistake (entriesMistake g)

/-- Reads a set. -/
def setDisplay (g : Rules) : Parser Ast :=
  construct do
    let _ ← op "\x7b"
    let items ← starNamedExpressions g
    let _ ← op "\x7d"
    pure items

/-- A mistake: a comprehension that spreads mappings out. -/
def dictionaryComprehensionMistake (g : Rules) : Parser Unit := do
  let _ ← op "\x7b"
  let stars ← op "**"
  let _ ← g.ast .bitwiseOr
  let _ ← forClauses g
  let _ ← op "\x7d"
  breakAt stars.extent.line

/-- Reads a comprehension that gives a mapping. -/
def dictionaryComprehension (g : Rules) : Parser Ast :=
  comprehension g "\x7b" "\x7d" (keyValue g) <|> mistake (dictionaryComprehensionMistake g)

/-- Reads a comprehension that gives a set. -/
def setComprehension (g : Rules) : Parser Ast :=
  comprehension g "\x7b" "\x7d" (lone (g.ast .namedExpression)) <|> mistake (comprehensionMistake g)

/-! ## Atoms -/

/-- Reads an expression that stands for itself. -/
def atom (g : Rules) : Parser Ast :=
  nameTarget <|> constant (oneWord ["True", "False", "None"]) <|> g.ast .strings <|>
    constant number <|>
    (do
      ahead (op "(")
      tuple g <|> group g <|> g.ast .generator) <|>
    (do
      ahead (op "[")
      listDisplay g <|> listComprehension g) <|>
    (do
      ahead (op "\x7b")
      dictionary g <|> setDisplay g <|> dictionaryComprehension g <|> setComprehension g) <|>
    constant (op "...")

/-! ## Slices -/

/-- Reads what stands between two commas of a subscript. -/
def slice (g : Rules) : Parser Ast :=
  construct (do
    let bound := orNone (lone (g.ast .expression))
    let lower ← bound
    let _ ← op ":"
    let upper ← bound
    let step ← orNone (op ":" >>= fun _ => bound)
    pure (lower ++ upper ++ step)) <|>
  g.ast .namedExpression

/-- Reads what stands in the brackets of a subscript. -/
def slices (g : Rules) : Parser Ast :=
  (do
    let a ← slice g
    notAhead (op ",")
    pure a) <|>
  shaped .tuple (commaList (slice g <|> starredExpression g))

end Grammar

end BodyLength
