import BodyLength.Source.Grammar.Atoms

/-!
# Statements on a line

Statements that are made of expressions. Assignments are tried first, because an expression on its own is a
statement as well. Several statements may share a line, with semicolons between them.
-/

namespace BodyLength

namespace Grammar

open BodyLength.Parser

/-! ## Assignments -/

/-- Reads the operator of an assignment that combines the old value with a new one. -/
def combiningOperator : Parser Token :=
  oneOf ["+=", "-=", "*=", "@=", "/=", "%=", "&=", "|=", "^=", "<<=", ">>=", "**=", "//="]

/-- Reads an annotation and perhaps a value. -/
def annotation (g : Rules) : Parser (List Ast) := do
  let _ ← op ":"
  let type ← g.ast .expression
  let value ← orNone (op "=" >>= fun _ => lone (assignedValue g))
  pure (type :: value)

/-- Reads the targets of an assignment, each with its sign. -/
def assignedTarget (g : Rules) : Parser Ast := do
  let a ← starTargets g
  let _ ← op "="
  pure a

/-- Finds a list in brackets, which cannot be annotated. -/
def annotationMistake (g : Rules) : Parser Ast :=
  listDisplay g <|> tuple g <|> bracketed (g.ast .annotationMistake)

/-- A mistake: an annotation of something else than one target, or an assignment to something that is
none. -/
def assignmentMistake (g : Rules) : Parser Unit :=
  let annotated := fun (p : Parser Ast) => do
    let first ← p
    let _ ← op ":"
    let _ ← g.ast .expression
    breakAt first.line
  annotated (g.ast .annotationMistake) <|>
  annotated (do
    let first ← g.ast .starNamedExpression
    let _ ← op ","
    let _ ← many (starNamedExpressions g)
    pure first) <|>
  annotated (g.ast .expression) <|>
  (do
    let _ ← many (assignedTarget g)
    let first ← g.ast .starExpressions
    let _ ← op "="
    match first.badTarget? .assigning with
    | some bad => breakAt bad.line
    | none => pure ()) <|>
  (do
    let _ ← many (assignedTarget g)
    let first ← yieldExpression g
    let _ ← op "="
    breakAt first.line) <|>
  (do
    let first ← g.ast .starExpressions
    let _ ← combiningOperator
    let _ ← assignedValue g
    breakAt first.line)

/-- Reads an assignment. Behind an operator that combines there is no way back. -/
def assignment (g : Rules) : Parser Ast := do
  let start ← peek
  let finished := fun (parts : List Ast) => do
    let extent ← extentFrom start
    pure (some (Ast.construct extent .plain parts))
  settle <|
    (do
      let target ← nameTarget
      finished (target :: (← annotation g))) <|>
    (do
      let target ← bracketed (g.ast .singleTarget) <|> memberTarget g
      finished (target :: (← annotation g))) <|>
    (do
      let targets ← many1 (assignedTarget g)
      let value ← assignedValue g
      notAhead (op "=")
      finished (targets ++ [value])) <|>
    (do
      let target ← g.ast .singleTarget
      let _ ← combiningOperator
      (do
        let value ← assignedValue g
        finished [target, value]) <|>
      pure none) <|>
    mistake (assignmentMistake g)

/-! ## Imports -/

/-- Reads names with dots between them. -/
def dottedName : Parser (List Ast) := do
  let _ ← separated (kind .name) (op ".")
  pure []

/-- Reads another name behind `as`, if there is one. -/
def newName : Parser Unit := do
  let _ ← maybe (word "as" >>= fun _ => kind .name)
  pure ()

/-- Reads the names that are imported from a module. -/
def importedNames : Parser (List Ast) :=
  separated (construct do
    let _ ← kind .name
    newName
    pure []) (op ",")

/-- A mistake: a comma behind the last name without brackets around the names. -/
def importMistake : Parser Unit := do
  let _ ← importedNames
  let _ ← op ","
  let _ ← newline
  breakHere

/-- Reads what is imported from a module. -/
def importTargets : Parser (List Ast) :=
  bracketed (do
    let names ← importedNames
    let _ ← maybe (op ",")
    pure names) <|>
  (do
    let names ← importedNames
    notAhead (op ",")
    pure names) <|>
  lone (constant (op "*")) <|>
  mistake importMistake

/-- Reads an import of modules, or from one. -/
def importStatement (g : Rules) : Parser Ast :=
  let dot := oneOf [".", "..."]
  construct (do
    let _ ← word "import"
    separated (construct do
      let _ ← g .dottedName
      newName
      pure []) (op ",")) <|>
  construct (do
    let _ ← word "from"
    let _ ← many dot
    let _ ← g .dottedName
    let _ ← word "import"
    importTargets) <|>
  construct (do
    let _ ← word "from"
    let _ ← many1 dot
    let _ ← word "import"
    importTargets)

/-! ## Other statements -/

/-- A mistake: a `del` of something that cannot be written to. -/
def deleteMistake (g : Rules) : Parser Unit := do
  let _ ← word "del"
  let target ← g.ast .starExpressions
  match target.badTarget? .deleting with
  | some bad => breakAt bad.line
  | none => pure ()

/-- Reads a `del`. -/
def deleteStatement (g : Rules) : Parser Ast :=
  construct (do
    let _ ← word "del"
    let targets ← deleteTargets g
    ahead ((op ";" >>= fun _ => pure ()) <|> (newline >>= fun _ => pure ()))
    pure targets) <|>
  mistake (deleteMistake g)

/-- Reads a `raise`. -/
def raiseStatement (g : Rules) : Parser Ast :=
  construct do
    let _ ← word "raise"
    (do
      let error ← g.ast .expression
      let cause ← orNone (word "from" >>= fun _ => lone (g.ast .expression))
      pure (error :: cause)) <|>
    pure []

/-- Reads an `assert`. -/
def assertStatement (g : Rules) : Parser Ast :=
  construct do
    let _ ← word "assert"
    let test ← g.ast .expression
    let message ← orNone (op "," >>= fun _ => lone (g.ast .expression))
    pure (test :: message)

/-- Reads a statement that says where names belong. -/
def scopeStatement : Parser Ast :=
  construct do
    let _ ← oneWord ["global", "nonlocal"]
    let _ ← separated (kind .name) (op ",")
    pure []

/-- Reads a statement of a line. -/
def simpleStatement (g : Rules) : Parser Ast :=
  assignment g <|>
  construct (lone (g.ast .starExpressions)) <|>
  construct (do
    let _ ← word "return"
    orNone (lone (g.ast .starExpressions))) <|>
  importStatement g <|> raiseStatement g <|> constant (word "pass") <|> deleteStatement g <|>
  construct (lone (yieldExpression g)) <|>
  assertStatement g <|> constant (oneWord ["break", "continue"]) <|> scopeStatement

/-- Reads the statements of a line. -/
def simpleStatements (g : Rules) : Parser (List Ast) :=
  (do
    let a ← g.ast .simpleStatement
    notAhead (op ";")
    let _ ← newline
    pure [a]) <|>
  (do
    let all ← separated (g.ast .simpleStatement) (op ";")
    let _ ← maybe (op ";")
    let _ ← newline
    pure all)

end Grammar

end BodyLength
