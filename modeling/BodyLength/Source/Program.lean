import BodyLength.Source.Grammar.CompoundStatements

/-!
# Programs

The rules of the grammar by their names, and the reading of a whole program. A rule runs others through the
table of rules, and each such run takes one from a number of nested runs that is left. Between two tokens
that are read only so many rules can be nested, so a number in proportion to the length of the text is never
used up.
-/

namespace BodyLength

namespace Grammar

open BodyLength.Parser

/-- What a rule stands for. -/
def rule (g : Rules) : Rule → Parser (List Ast)
  | .statements => statements g
  | .simpleStatement => lone (simpleStatement g)
  | .compoundStatement => lone (compoundStatement g)
  | .block => block g
  | .expression => lone (expression g)
  | .plainExpression => lone (plainExpression g)
  | .starExpression => lone (starExpression g)
  | .starExpressions => lone (starExpressions g)
  | .namedExpression => lone (namedExpression g)
  | .starNamedExpression => lone (starNamedExpression g)
  | .disjunction => lone (disjunction g)
  | .conjunction => lone (conjunction g)
  | .inversion => lone (inversion g)
  | .bitwiseOr => lone (bitwiseOr g)
  | .bitwiseXor => lone (bitwiseXor g)
  | .bitwiseAnd => lone (bitwiseAnd g)
  | .shift => lone (shift g)
  | .sum => lone (sum g)
  | .term => lone (term g)
  | .factor => lone (factor g)
  | .awaitPrimary => lone (awaitPrimary g)
  | .primary => lone (primary g)
  | .targetPrimary => lone (targetPrimary g)
  | .atom => lone (atom g)
  | .strings => lone (strings g)
  | .slices => lone (slices g)
  | .generator => lone (generator g)
  | .forClauses => forClauses g
  | .lambda => lone (lambda g)
  | .arguments => arguments g
  | .starTarget => lone (starTarget g)
  | .starAtomTarget => lone (starAtomTarget g)
  | .singleTarget => lone (singleTarget g)
  | .deleteTarget => lone (deleteTarget g)
  | .elifClause => lone (condition g "elif")
  | .namedExpressionMistake => mistake (namedExpressionMistake g)
  | .annotationMistake => lone (annotationMistake g)
  | .pattern => lone (pattern g)
  | .closedPattern => lone (closedPattern g)
  | .starPattern => lone starPattern
  | .dottedPattern => lone dottedPattern
  | .nameOrDottedPattern => lone nameOrDottedPattern
  | .dottedName => dottedName

/-- Runs a rule by its name, with a number of nested runs that is left. -/
def run : Nat → Rules
  | 0, _ => absent
  | left + 1, r =>
    if r.isRemembered then remember r (rule (run left) r) else rule (run left) r

/-- Reads all statements up to the end of the file. -/
def program (g : Rules) : Parser (List Ast) := do
  let all ← orNone (g .statements)
  let _ ← kind .finish
  pure all

end Grammar

/-- The number of nested runs that reading a text may take. -/
def nestedRuns (text : List Char) : Nat :=
  100 * (text.length + 2)

/-- Reads a program, or gives the line at which it is at fault. -/
def readProgram (text : List Char) : Except Nat (List Ast) :=
  Parser.whole (Grammar.program (Grammar.run (nestedRuns text))) (Tokens.ofChars text 1 0)

end BodyLength
