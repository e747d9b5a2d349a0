import BodyLength.Source.Grammar.Atoms

/-!
# Parameters

The parameters of a function: those that are given by position, the one that takes the rest of them, those
that are given by keyword only, and the one that takes the rest of the keywords. Functions and lambdas have
the same rules, except that only the parameters of functions have annotations, and that the list ends at a
closing bracket in the one case and at a colon in the other (`ParameterStyle`).

A list is read parameter by parameter, every one with the comma behind it or at the end of the list.
-/

namespace BodyLength

/-- The parameters of a function with the defaults of those that have one. -/
structure Parameters where
  positional : List (Ast × Option Ast)
  rest : List Ast
  named : List (Ast × Option Ast)
  mapping : List Ast
deriving Inhabited

/-- The parameters and their annotations before the defaults, except that the defaults of those that are
given by keyword only stand behind these. -/
def Parameters.parts (p : Parameters) : List Ast :=
  p.positional.map (·.1) ++ p.rest ++ p.named.map (·.1) ++ p.named.filterMap (·.2) ++ p.mapping ++
    p.positional.filterMap (·.2)

/-- The two kinds of parameter lists. -/
inductive ParameterStyle where
  | function
  | lambda
deriving DecidableEq, Repr

/-- The operator behind the last parameter. -/
def ParameterStyle.closing : ParameterStyle → String
  | function => ")"
  | lambda => ":"

namespace Grammar

open BodyLength.Parser

/-! ## Single parameters -/

/-- Reads a parameter with its annotation. -/
def parameter (g : Rules) (style : ParameterStyle) : Parser Ast :=
  construct do
    let _ ← kind .name
    match style with
    | .function => orNone (op ":" >>= fun _ => lone (g.ast .expression))
    | .lambda => pure []

/-- Reads a parameter whose annotation may be spread out. -/
def spreadParameter (g : Rules) (style : ParameterStyle) : Parser Ast :=
  match style with
  | .function => construct do
      let _ ← kind .name
      let _ ← op ":"
      lone (g.ast .starExpression)
  | .lambda => absent

/-- Reads the comma behind a parameter, or looks whether the list ends. -/
def parameterEnd (style : ParameterStyle) : Parser Unit :=
  (op "," >>= fun _ => pure ()) <|> ahead (op style.closing)

/-- Reads a parameter without a default. -/
def plainParameter (g : Rules) (style : ParameterStyle) : Parser Ast := do
  let a ← parameter g style
  parameterEnd style
  pure a

/-- A mistake: a default that is missing. -/
def defaultMistake : Parser Unit := do
  let sign ← op "="
  ahead (oneOf [")", ","])
  breakAt sign.extent.line

/-- Reads a default. -/
def parameterDefault (g : Rules) : Parser Ast :=
  (op "=" >>= fun _ => g.ast .expression) <|> mistake defaultMistake

/-- Reads a parameter with a default. -/
def defaultedParameter (g : Rules) (style : ParameterStyle) : Parser (Ast × Option Ast) := do
  let a ← parameter g style
  let value ← parameterDefault g
  parameterEnd style
  pure (a, some value)

/-- Reads a parameter that may have a default. -/
def anyParameter (g : Rules) (style : ParameterStyle) : Parser (Ast × Option Ast) := do
  let a ← parameter g style
  let value ← maybe (parameterDefault g)
  parameterEnd style
  pure (a, value)

/-! ## Parameters that take the rest -/

/-- A mistake: something behind the parameter for the rest of the keywords. -/
def mappingMistake (g : Rules) (style : ParameterStyle) : Parser Unit :=
  (do
    let _ ← op "**"
    let _ ← parameter g style
    let sign ← op "="
    breakAt sign.extent.line) <|>
  (do
    let _ ← op "**"
    let _ ← parameter g style
    let _ ← op ","
    let next ← parameter g style
    breakAt next.line) <|>
  (do
    let _ ← op "**"
    let _ ← parameter g style
    let _ ← op ","
    let next ← oneOf ["*", "**", "/"]
    breakAt next.extent.line)

/-- Reads the parameter for the rest of the keywords. -/
def mappingParameter (g : Rules) (style : ParameterStyle) : Parser Ast :=
  mistake (mappingMistake g style) <|>
  (do
    let _ ← op "**"
    plainParameter g style)

/-- A mistake: a star behind which no parameter follows, one with a default, or a second one. -/
def restMistake (g : Rules) (style : ParameterStyle) : Parser Unit :=
  (do
    let star ← op "*"
    (op style.closing >>= fun _ => pure ()) <|>
      (do
        let _ ← op ","
        let _ ← oneOf [style.closing, "**"]
        pure ())
    match style with
    | .function => breakAt star.extent.line
    | .lambda => breakHere) <|>
  (do
    let _ ← op "*"
    let _ ← parameter g style
    let sign ← op "="
    breakAt sign.extent.line) <|>
  (do
    let restOrComma := (plainParameter g style >>= fun _ => pure ()) <|> (op "," >>= fun _ => pure ())
    let _ ← op "*"
    restOrComma
    let _ ← many (anyParameter g style)
    let star ← op "*"
    restOrComma
    breakAt star.extent.line)

/-- Reads the parameters from the first star on. -/
def restParameters (g : Rules) (style : ParameterStyle) : Parser Parameters :=
  let mapping := orNone (lone (mappingParameter g style))
  mistake (restMistake g style) <|>
  (do
    let _ ← op "*"
    let rest ← plainParameter g style
    let named ← many (anyParameter g style)
    pure ⟨[], [rest], named, ← mapping⟩) <|>
  (do
    let _ ← op "*"
    let rest ← spreadParameter g style
    parameterEnd style
    let named ← many (anyParameter g style)
    pure ⟨[], [rest], named, ← mapping⟩) <|>
  (do
    let _ ← op "*"
    let _ ← op ","
    let named ← many1 (anyParameter g style)
    pure ⟨[], [], named, ← mapping⟩) <|>
  (do
    let last ← mappingParameter g style
    pure ⟨[], [], [], [last]⟩)

/-! ## Lists of parameters -/

/-- Reads the mark behind the parameters that are given by position only. -/
def positionMark (style : ParameterStyle) : Parser Unit := do
  let _ ← op "/"
  parameterEnd style

/-- Reads parameters without a default. -/
def plainParameters (g : Rules) (style : ParameterStyle) : Parser (List (Ast × Option Ast)) := do
  let all ← many (plainParameter g style)
  pure (all.map fun a => (a, none))

/-- Reads at least one parameter, without a default, up to the mark. -/
def plainToMark (g : Rules) (style : ParameterStyle) : Parser (List (Ast × Option Ast)) := do
  let all ← many1 (plainParameter g style)
  positionMark style
  pure (all.map fun a => (a, none))

/-- Reads parameters, the last ones with a default, up to the mark. -/
def defaultedToMark (g : Rules) (style : ParameterStyle) : Parser (List (Ast × Option Ast)) := do
  let all ← plainParameters g style
  let more ← many1 (defaultedParameter g style)
  positionMark style
  pure (all ++ more)

/-- A mistake: a parameter without a default behind one with a default, a mark at a wrong place, or
brackets within the list. -/
def parametersMistake (g : Rules) (style : ParameterStyle) : Parser Unit :=
  let toMark := plainToMark g style <|> defaultedToMark g style
  (do
    let _ ← many (plainParameter g style)
    let _ ← defaultedToMark g style <|> many1 (defaultedParameter g style)
    let next ← plainParameter g style
    breakAt next.line) <|>
  (do
    let _ ← many (plainParameter g style)
    let bracket ← op "("
    match style with
    | .function => do
      let _ ← many1 (plainParameter g style)
      pure ()
    | .lambda => do
      let _ ← separated (parameter g style) (op ",")
      pure ()
    let _ ← maybe (op ",")
    let _ ← op ")"
    breakAt bracket.extent.line) <|>
  (do
    let mark ← op "/"
    let _ ← op ","
    breakAt mark.extent.line) <|>
  (do
    let _ ← toMark
    let _ ← many (anyParameter g style)
    let mark ← op "/"
    breakAt mark.extent.line) <|>
  (do
    let _ ← maybe toMark
    let _ ← many (anyParameter g style)
    let _ ← op "*"
    (op "," >>= fun _ => pure ()) <|> (plainParameter g style >>= fun _ => pure ())
    let _ ← many (anyParameter g style)
    let mark ← op "/"
    breakAt mark.extent.line) <|>
  (do
    let _ ← many1 (anyParameter g style)
    let _ ← op "/"
    let star ← op "*"
    breakAt star.extent.line)

/-- Reads a list of parameters that is not empty. -/
def parameters (g : Rules) (style : ParameterStyle) : Parser Parameters :=
  let withRest := fun (positional : List (Ast × Option Ast)) => do
    let rest ← maybe (restParameters g style)
    pure { rest.getD default with positional := positional }
  mistake (parametersMistake g style) <|>
  (do
    let marked ← plainToMark g style
    let plain ← plainParameters g style
    let defaulted ← many (defaultedParameter g style)
    withRest (marked ++ plain ++ defaulted)) <|>
  (do
    let marked ← defaultedToMark g style
    let defaulted ← many (defaultedParameter g style)
    withRest (marked ++ defaulted)) <|>
  (do
    let plain ← many1 (plainParameter g style)
    let defaulted ← many (defaultedParameter g style)
    withRest (plain.map (fun a => (a, none)) ++ defaulted)) <|>
  (do
    let defaulted ← many1 (defaultedParameter g style)
    withRest defaulted) <|>
  restParameters g style

/-- Reads a function without a name. -/
def lambda (g : Rules) : Parser Ast :=
  ranged do
    let _ ← word "lambda"
    let all ← maybe (parameters g .lambda)
    let _ ← op ":"
    let body ← g.ast .expression
    pure fun extent => .lambda extent (all.getD default).parts body

end Grammar

end BodyLength
