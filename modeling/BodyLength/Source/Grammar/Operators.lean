import BodyLength.Source.Parser
import BodyLength.Text.Compatibility

/-!
# Expressions made with operators

The levels of operators, from the conditional expression down to the power, and the expressions that are
lists of others. A chain of operators that associate to the left is read as one operand and then as many
steps as there are. The range of what a step gives starts at the first token of the chain, which may be a
bracket that belongs to no range.

Beside each rule stand the mistakes that are looked for in its place.
-/

namespace BodyLength

/-- Runs a rule that finds a single piece. -/
def Rules.ast (g : Rules) (rule : Rule) : Parser Ast :=
  Parser.one (g rule)

/-- The identifier that a name stands for. Names that differ in compatible characters only are the same
identifier. -/
def Token.identifier (t : Token) : String :=
  if t.text.toList.all (·.toNat < 128) then t.text
  else String.ofList (compatibilityForm t.text.toList)

/-- What a rule finds as a piece of the same kind as a name. -/
def Token.asName (t : Token) : Ast :=
  .name t.extent t.identifier

namespace Grammar

open BodyLength.Parser

/-! ## Lists and chains -/

/-- Reads a list with commas between its items, and perhaps one behind. -/
def commaList {α : Type} (p : Parser α) : Parser (List α) := do
  let items ← separated p (op ",")
  let _ ← maybe (op ",")
  pure items

/-- Reads an item that is the whole of a list, or a tuple of several items without brackets. -/
def openTuple (item : Parser Ast) : Parser Ast := do
  let start ← peek
  let first ← item
  (do
    let more ← many1 (op "," >>= fun _ => item)
    let _ ← maybe (op ",")
    let extent ← extentFrom start
    pure (.construct extent .tuple (first :: more))) <|>
  (do
    let _ ← op ","
    let extent ← extentFrom start
    pure (.construct extent .tuple [first])) <|>
  pure first

/-- Reads operands with operators between them, from the left. -/
def chain (operand : Parser Ast) (operator : Parser Token) : Parser Ast := do
  let start ← peek
  let first ← operand
  extend (fun left => do
    let _ ← operator
    let right ← operand
    let extent ← extentFrom start
    pure (.construct extent .plain [left, right])) first

/-- Reads operands with a word between them, which together are one construct. -/
def wordChain (operand : Parser Ast) (between : String) : Parser Ast := do
  let start ← peek
  let first ← operand
  (do
    let more ← many1 (word between >>= fun _ => operand)
    let extent ← extentFrom start
    pure (.construct extent .plain (first :: more))) <|>
  pure first

/-- Reads an operator with its operand. -/
def signed (sign : Parser Token) (operand : Parser Ast) : Parser Ast :=
  construct do
    let _ ← sign
    lone operand

/-! ## Levels of operators -/

/-- Reads operands with `or` between them. -/
def disjunction (g : Rules) : Parser Ast :=
  wordChain (g.ast .conjunction) "or"

/-- Reads operands with `and` between them. -/
def conjunction (g : Rules) : Parser Ast :=
  wordChain (g.ast .inversion) "and"

/-- Reads an operator of comparison, and tells whether it is the test for membership. -/
def comparisonOperator : Parser Bool :=
  (oneOf ["==", "!=", "<=", "<", ">=", ">"] >>= fun _ => pure false) <|>
  (do
    let _ ← word "not"
    let _ ← word "in"
    pure false) <|>
  (word "in" >>= fun _ => pure true) <|>
  (do
    let _ ← word "is"
    let _ ← maybe (word "not")
    pure false)

/-- Reads operands with operators of comparison between them. -/
def comparison (g : Rules) : Parser Ast := do
  let start ← peek
  let first ← g.ast .bitwiseOr
  (do
    let more ← many1 do
      let isMembership ← comparisonOperator
      let right ← g.ast .bitwiseOr
      pure (isMembership, right)
    let extent ← extentFrom start
    let shape := if more.head?.any (·.1) then Construct.membership else .comparison
    pure (.construct extent shape (first :: more.map (·.2)))) <|>
  pure first

/-- Reads a negation. -/
def inversion (g : Rules) : Parser Ast :=
  signed (word "not") (g.ast .inversion) <|> comparison g

/-- Reads operands with a bar between them. -/
def bitwiseOr (g : Rules) : Parser Ast :=
  chain (g.ast .bitwiseXor) (op "|")

/-- Reads operands with a caret between them. -/
def bitwiseXor (g : Rules) : Parser Ast :=
  chain (g.ast .bitwiseAnd) (op "^")

/-- Reads operands with an ampersand between them. -/
def bitwiseAnd (g : Rules) : Parser Ast :=
  chain (g.ast .shift) (op "&")

/-- Reads operands that are shifted. -/
def shift (g : Rules) : Parser Ast :=
  chain (g.ast .sum) (oneOf ["<<", ">>"])

/-- Reads a sum or a difference. -/
def sum (g : Rules) : Parser Ast :=
  chain (g.ast .term) (oneOf ["+", "-"])

/-- Reads a product or a quotient. -/
def term (g : Rules) : Parser Ast :=
  chain (g.ast .factor) (oneOf ["*", "/", "//", "%", "@"])

/-- Reads a power, whose operator associates to the right. -/
def power (g : Rules) : Parser Ast := do
  let start ← peek
  let base ← g.ast .awaitPrimary
  (do
    let _ ← op "**"
    let exponent ← g.ast .factor
    let extent ← extentFrom start
    pure (.construct extent .plain [base, exponent])) <|>
  pure base

/-- Reads an operand with signs. -/
def factor (g : Rules) : Parser Ast :=
  signed (oneOf ["+", "-", "~"]) (g.ast .factor) <|> power g

/-- Reads an operand that may be waited for. -/
def awaitPrimary (g : Rules) : Parser Ast :=
  signed (word "await") (g.ast .primary) <|> g.ast .primary

/-! ## Expressions -/

/-- Reads a conditional expression. -/
def conditional (g : Rules) : Parser Ast :=
  construct do
    let body ← g.ast .disjunction
    let _ ← word "if"
    let test ← g.ast .disjunction
    let _ ← word "else"
    let other ← g.ast .expression
    pure [test, body, other]

/-- Is the piece a name that was once a statement? -/
def isOldStatement : Ast → Bool
  | .name _ id => id == "print" || id == "exec"
  | _ => false

/-- The number of brackets that are open behind the last token read. -/
def openBrackets : Parser Nat :=
  fun ts s => (.found (((ts.tokens[s.position - 1]?).map (·.depth)).getD 0), s)

/-- A mistake: a comma that is missing between two expressions in brackets, or a conditional expression
without an alternative. -/
def expressionMistake (g : Rules) : Parser Unit :=
  (do
    notAhead ((kind .name >>= fun _ => kind .string) <|> token fun t => t.kind == .name && softWords.contains t.text)
    let first ← g.ast .disjunction
    let _ ← g.ast .plainExpression
    let depth ← openBrackets
    if isOldStatement first || depth = 0 then pure () else breakAt first.line) <|>
  (do
    let first ← g.ast .disjunction
    let _ ← word "if"
    let _ ← g.ast .disjunction
    notAhead ((word "else" >>= fun _ => pure ()) <|> (op ":" >>= fun _ => pure ()))
    breakAt first.line)

/-- A mistake: a name that was once a statement, with what was its argument. -/
def oldStatementMistake (g : Rules) : Parser Unit := do
  let first ← kind .name
  notAhead (op "(")
  let _ ← g.ast .starExpressions
  if isOldStatement first.asName then breakAt first.extent.line else pure ()

/-- Reads an expression. -/
def expression (g : Rules) : Parser Ast :=
  mistake (expressionMistake g) <|> mistake (oldStatementMistake g) <|> conditional g <|>
    g.ast .disjunction <|> g.ast .lambda

/-- Reads an expression without looking for mistakes. -/
def plainExpression (g : Rules) : Parser Ast :=
  withoutMistakes (conditional g <|> g.ast .disjunction <|> g.ast .lambda)

/-- Reads several expressions without brackets around them. -/
def expressions (g : Rules) : Parser Ast :=
  openTuple (g.ast .expression)

/-- Reads an operand whose items are spread out. -/
def starred (operand : Parser Ast) : Parser Ast :=
  shaped .starred do
    let _ ← op "*"
    lone operand

/-- Reads an expression, or one whose items are spread out. -/
def starExpression (g : Rules) : Parser Ast :=
  starred (g.ast .bitwiseOr) <|> g.ast .expression

/-- Reads several such expressions without brackets around them. -/
def starExpressions (g : Rules) : Parser Ast :=
  openTuple (g.ast .starExpression)

/-- Reads an item of a list. -/
def starNamedExpression (g : Rules) : Parser Ast :=
  starred (g.ast .bitwiseOr) <|> g.ast .namedExpression

/-- Reads the items of a list. -/
def starNamedExpressions (g : Rules) : Parser (List Ast) :=
  commaList (g.ast .starNamedExpression)

/-- Reads an argument whose items are spread out. -/
def starredExpression (g : Rules) : Parser Ast :=
  starred (g.ast .expression)

/-- Reads an expression that names its value. -/
def assignmentExpression (g : Rules) : Parser Ast :=
  construct do
    let target ← kind .name
    let _ ← op ":="
    let value ← g.ast .expression
    pure [target.asName, value]

/-- Reads an expression that is given no name. -/
def unnamedExpression (g : Rules) : Parser Ast := do
  let a ← g.ast .expression
  notAhead (op ":=")
  pure a

/-- Looks whether no assignment follows. -/
def noAssignmentAhead : Parser Unit :=
  notAhead (oneOf ["=", ":="])

/-- Reads an expression that may name its value. -/
def namedExpression (g : Rules) : Parser Ast :=
  assignmentExpression g <|> Parser.one (g .namedExpressionMistake) <|> unnamedExpression g

/-- Reads an expression that hands a value out. -/
def yieldExpression (g : Rules) : Parser Ast :=
  construct (do
    let _ ← word "yield"
    let _ ← word "from"
    lone (g.ast .expression)) <|>
  construct (do
    let _ ← word "yield"
    orNone (lone (g.ast .starExpressions)))

/-- Reads a value that is assigned or handed on. -/
def assignedValue (g : Rules) : Parser Ast :=
  yieldExpression g <|> g.ast .starExpressions

end Grammar

end BodyLength
