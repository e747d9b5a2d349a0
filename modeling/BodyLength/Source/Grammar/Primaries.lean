import BodyLength.Source.Grammar.Operators

/-!
# Calls, subscripts, accesses and targets

An expression may be followed by any number of accesses, calls and subscripts. What an assignment, a loop
or a `del` may write to is a name, an access or a subscript, or a list of such targets in brackets. The
target is the last access or subscript of a chain, so the links before it are those that are followed by
another one.
-/

namespace BodyLength

namespace Grammar

open BodyLength.Parser

/-! ## Links of a chain -/

/-- Makes a call of its callee and its arguments in the order they are written. -/
def makeCall (extent : Extent) (callee : Ast) (arguments : List Ast) : Ast :=
  .call extent callee (arguments.filter fun a => !a.isKeyword) (arguments.filter (·.isKeyword))

/-- Reads an access to a member. -/
def accessLink (start : Token) (value : Ast) : Parser Ast := do
  let _ ← op "."
  let member ← kind .name
  let extent ← extentFrom start
  pure (.access extent value member.identifier)

/-- Reads a subscript. -/
def subscriptLink (g : Rules) (start : Token) (value : Ast) : Parser Ast := do
  let _ ← op "["
  let slice ← g.ast .slices
  let _ ← op "]"
  let extent ← extentFrom start
  pure (.construct extent .subscript [value, slice])

/-- Reads a call, whose only argument may be a comprehension without brackets of its own. -/
def callLink (g : Rules) (start : Token) (callee : Ast) : Parser Ast :=
  (do
    let argument ← g.ast .generator
    let extent ← extentFrom start
    pure (makeCall extent callee [argument])) <|>
  (do
    let _ ← op "("
    let arguments ← orNone (g .arguments)
    let _ ← op ")"
    let extent ← extentFrom start
    pure (makeCall extent callee arguments))

/-- Reads any link of a chain. -/
def link (g : Rules) (start : Token) (value : Ast) : Parser Ast :=
  accessLink start value <|> callLink g start value <|> subscriptLink g start value

/-- Reads a chain of accesses, calls and subscripts. -/
def primary (g : Rules) : Parser Ast := do
  let start ← peek
  let first ← g.ast .atom
  extend (link g start) first

/-! ## Targets -/

/-- Reads the start of another link. -/
def linkStart : Parser Token :=
  oneOf ["(", "[", "."]

/-- Reads a chain up to its last link, which is left. -/
def targetPrimary (g : Rules) : Parser Ast := do
  let start ← peek
  let first ← g.ast .atom
  ahead linkStart
  extend (fun value => do
    let a ← link g start value
    ahead linkStart
    pure a) first

/-- Reads an access or a subscript that can be written to. -/
def memberTarget (g : Rules) : Parser Ast := do
  let start ← peek
  let value ← g.ast .targetPrimary
  let a ← accessLink start value <|> subscriptLink g start value
  notAhead linkStart
  pure a

/-- Reads a name. -/
def nameTarget : Parser Ast := do
  let t ← kind .name
  pure t.asName

/-- Reads something in round brackets. -/
def bracketed {α : Type} (p : Parser α) : Parser α := do
  let _ ← op "("
  let a ← p
  let _ ← op ")"
  pure a

/-- Reads a list in square brackets. -/
def squareList (p : Parser (List Ast)) : Parser Ast :=
  shaped .list do
    let _ ← op "["
    let items ← orNone p
    let _ ← op "]"
    pure items

/-- Reads a tuple in round brackets. -/
def roundTuple (p : Parser (List Ast)) : Parser Ast :=
  shaped .tuple (bracketed (orNone p))

/-- Reads the items of a tuple: several, or one with a comma. -/
def tupleItems (item : Parser Ast) : Parser (List Ast) := do
  let first ← item
  let more ← many (op "," >>= fun _ => item)
  match more with
  | [] =>
    let _ ← op ","
    pure [first]
  | _ =>
    let _ ← maybe (op ",")
    pure (first :: more)

/-- Reads a target that is not spread out. -/
def starAtomTarget (g : Rules) : Parser Ast :=
  memberTarget g <|> nameTarget <|> bracketed (g.ast .starAtomTarget) <|>
    roundTuple (tupleItems (g.ast .starTarget)) <|> squareList (commaList (g.ast .starTarget))

/-- Reads a target. -/
def starTarget (g : Rules) : Parser Ast :=
  shaped .starred (do
    let _ ← op "*"
    notAhead (op "*")
    lone (g.ast .starTarget)) <|>
  g.ast .starAtomTarget

/-- Reads a target, or several without brackets around them. -/
def starTargets (g : Rules) : Parser Ast :=
  (do
    let a ← g.ast .starTarget
    notAhead (op ",")
    pure a) <|>
  shaped .tuple (commaList (g.ast .starTarget))

/-- Reads the only target of an assignment. -/
def singleTarget (g : Rules) : Parser Ast :=
  memberTarget g <|> nameTarget <|> bracketed (g.ast .singleTarget)

/-- Reads several targets of a `del`. -/
def deleteTargets (g : Rules) : Parser (List Ast) :=
  commaList (g.ast .deleteTarget)

/-- Reads a target of a `del`. -/
def deleteTarget (g : Rules) : Parser Ast :=
  memberTarget g <|> nameTarget <|> bracketed (g.ast .deleteTarget) <|>
    roundTuple (deleteTargets g) <|> squareList (deleteTargets g)

end Grammar

end BodyLength
