import BodyLength.Source.Grammar.Atoms

/-!
# Arguments of calls

Arguments without a keyword come first. Behind the first one with a keyword there may be further starred
ones, and behind the first unpacking of a mapping only keywords and unpackings. All arguments are read into
one list in the order they are written; the pieces themselves tell which kind they are.
-/

namespace BodyLength

namespace Grammar

open BodyLength.Parser

/-- A mistake: an argument with a keyword that is no name, or a comprehension behind a keyword. -/
def keywordMistake (g : Rules) : Parser Unit :=
  (do
    let first ← oneWord ["True", "False", "None"]
    let _ ← op "="
    breakAt first.extent.line) <|>
  (do
    let first ← kind .name
    let _ ← op "="
    let _ ← g.ast .expression
    let _ ← g .forClauses
    breakAt first.extent.line) <|>
  (do
    notAhead (kind .name >>= fun _ => op "=")
    let first ← g.ast .expression
    let _ ← op "="
    breakAt first.line)

/-- Reads an argument with a keyword. -/
def keywordArgument (g : Rules) : Parser Ast :=
  ranged do
    let _ ← kind .name
    let _ ← op "="
    let value ← g.ast .expression
    pure fun extent => .keyword extent false value

/-- Reads the unpacking of a mapping. -/
def unpackedArgument (g : Rules) : Parser Ast :=
  ranged do
    let _ ← op "**"
    let value ← g.ast .expression
    pure fun extent => .keyword extent true value

/-- Reads an argument behind one with a keyword. -/
def laterArgument (g : Rules) : Parser Ast :=
  mistake (keywordMistake g) <|> keywordArgument g <|> starredExpression g

/-- Reads an argument behind the unpacking of a mapping. -/
def lastArgument (g : Rules) : Parser Ast :=
  mistake (keywordMistake g) <|> keywordArgument g <|> unpackedArgument g

/-- Reads the arguments from the first one with a keyword on. -/
def keywordArguments (g : Rules) : Parser (List Ast) :=
  (do
    let later ← separated (laterArgument g) (op ",")
    let _ ← op ","
    let last ← separated (lastArgument g) (op ",")
    pure (later ++ last)) <|>
  separated (laterArgument g) (op ",") <|>
  separated (lastArgument g) (op ",")

/-- Reads an argument without a keyword. -/
def positionalArgument (g : Rules) : Parser Ast :=
  starredExpression g <|>
  (do
    let a ← assignmentExpression g <|> unnamedExpression g
    notAhead (op "=")
    pure a)

/-- Reads arguments, at least one. -/
def someArguments (g : Rules) : Parser (List Ast) :=
  (do
    let first ← separated (positionalArgument g) (op ",")
    let more ← orNone (op "," >>= fun _ => keywordArguments g)
    pure (first ++ more)) <|>
  keywordArguments g

/-- The line of the first argument in a list that is not empty. -/
def firstLine (arguments : List Ast) : Nat :=
  (arguments.head?.map (·.line)).getD 1

/-- A mistake: arguments in the wrong order, or a comprehension that needs brackets of its own. -/
def argumentsMistake (g : Rules) : Parser Unit :=
  (do
    let first ← someArguments g
    let _ ← op ","
    let _ ← op "*"
    breakAt (firstLine first)) <|>
  (do
    let first ← g.ast .expression
    let _ ← g .forClauses
    let _ ← op ","
    let _ ← maybe (someArguments g <|> (g.ast .expression >>= fun _ => g .forClauses))
    breakAt first.line) <|>
  (do
    let first ← kind .name
    let _ ← op "="
    let _ ← g.ast .expression
    let _ ← g .forClauses
    breakAt first.extent.line) <|>
  (do
    let first ← someArguments g
    let _ ← g .forClauses
    match (first.filter fun a => !a.isKeyword) with
    | _ :: second :: rest => breakAt (((second :: rest).getLast?).getD second).line
    | _ => pure ()) <|>
  (do
    let _ ← someArguments g
    let _ ← op ","
    let first ← g.ast .expression
    let _ ← g .forClauses
    breakAt first.line) <|>
  (do
    let _ ← someArguments g
    let _ ← op ","
    let _ ← someArguments g
    breakHere)

/-- Reads the arguments of a call up to its closing bracket. -/
def arguments (g : Rules) : Parser (List Ast) :=
  (do
    let all ← someArguments g
    let _ ← maybe (op ",")
    ahead (op ")")
    pure all) <|>
  mistake (argumentsMistake g)

end Grammar

end BodyLength
