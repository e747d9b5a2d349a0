import BodyLength.Source.Ast

/-!
# Parsing with ordered choice

A parser reads tokens from a position on and finds something, finds it absent, or finds the program
broken. Alternatives are tried in order from one position, and the first that is found wins; a broken
program ends everything. This module has the parsers of single tokens and the ways to combine parsers, the
grammar follows in modules of its own.

Two things are remembered while a program is read. `reached` is how many tokens have been looked at,
because a program that fits no rule is reported at the last of them. `memo` keeps what some rules found at
a position, so that trying the next alternative does not read the same tokens over and over.

A program that fits no rule is read a second time with `explain` set. Rules then first try patterns of
common mistakes, and a mistake that is recognised is reported where it is made.

Rules refer to each other in circles. A rule is therefore a function of a way to run the other rules
(`Rules`), and only `Grammar.run` ties the knot, with a number of nested runs that is left.
-/

namespace BodyLength

/-! ## Parsers -/

/-- The rules that are run by name: those that circles pass through, and those that are remembered. -/
inductive Rule where
  | statements | simpleStatement | compoundStatement | block
  | expression | plainExpression | starExpression | starExpressions | namedExpression | starNamedExpression
  | disjunction | conjunction | inversion
  | bitwiseOr | bitwiseXor | bitwiseAnd | shift | sum | term | factor
  | awaitPrimary | primary | targetPrimary | atom | strings
  | slices | generator | forClauses | lambda | arguments
  | starTarget | starAtomTarget | singleTarget | deleteTarget
  | elifClause | namedExpressionMistake | annotationMistake
  | pattern | closedPattern | starPattern | dottedPattern | nameOrDottedPattern | dottedName
deriving DecidableEq, Repr

/-- Is what the rule finds remembered? -/
def Rule.isRemembered : Rule → Bool
  | simpleStatement | block | expression | starExpression | disjunction | conjunction | inversion
  | bitwiseOr | bitwiseXor | bitwiseAnd | shift | sum | term | factor | awaitPrimary | primary
  | targetPrimary | strings | arguments | starTarget | starAtomTarget | deleteTarget
  | namedExpressionMistake | closedPattern | starPattern | dottedPattern | nameOrDottedPattern
  | dottedName => true
  | _ => false

/-- A remembered find: what was found and the position behind it, or nothing. -/
structure Memo where
  rule : Rule
  found : Option (List Ast × Nat)

/-- The state of reading. -/
structure ParseState where
  /-- The position of the next token. -/
  position : Nat
  /-- How many tokens have been looked at. -/
  reached : Nat
  /-- Are mistakes looked for? -/
  explain : Bool
  /-- The remembered finds at each position. -/
  memo : Array (List Memo)

/-- A broken program: the line that is reported. -/
structure Breakage where
  line : Nat
  /-- Could the program not even be cut into tokens? -/
  isLexical : Bool
deriving DecidableEq, Repr

/-- What a parser finds. -/
inductive Verdict (α : Type) where
  | found (a : α)
  | absent
  | broken (b : Breakage)

/-- A parser of an `α`. -/
def Parser (α : Type) : Type :=
  Tokens → ParseState → Verdict α × ParseState

namespace Parser

variable {α β : Type}

/-- Finds a thing without reading. -/
def give (a : α) : Parser α :=
  fun _ s => (.found a, s)

/-- Reads one thing and then another. -/
def andThen (p : Parser α) (f : α → Parser β) : Parser β :=
  fun ts s =>
    match p ts s with
    | (.found a, s) => f a ts s
    | (.absent, s) => (.absent, s)
    | (.broken b, s) => (.broken b, s)

instance : Monad Parser where
  pure := give
  bind := andThen

/-- Finds nothing. -/
def absent : Parser α :=
  fun _ s => (.absent, s)

/-- Tries a parser, and another one from the same position if the first finds nothing. -/
def orTry (p : Parser α) (q : Unit → Parser α) : Parser α :=
  fun ts s =>
    let start := s.position
    match p ts s with
    | (.absent, s) => q () ts { s with position := start }
    | other => other

instance : OrElse (Parser α) :=
  ⟨orTry⟩

/-- Reads something or nothing. -/
def maybe (p : Parser α) : Parser (Option α) :=
  (p >>= fun a => pure (some a)) <|> pure none

/-- Reads a list or nothing, which is the empty list. -/
def orNone (p : Parser (List α)) : Parser (List α) :=
  p <|> pure []

/-- Reads as many as there are, at most `steps`. -/
def repeated (p : Parser α) : Nat → Parser (List α)
  | 0 => pure []
  | steps + 1 =>
    (do
      let a ← p
      let rest ← repeated p steps
      pure (a :: rest)) <|> pure []

/-- Reads as many as there are. -/
def many (p : Parser α) : Parser (List α) :=
  fun ts s => repeated p ts.tokens.size ts s

/-- Reads as many as there are, at least one. -/
def many1 (p : Parser α) : Parser (List α) := do
  let a ← p
  let rest ← many p
  pure (a :: rest)

/-- Reads at least one, with separators between them. -/
def separated (p : Parser α) (separator : Parser β) : Parser (List α) := do
  let a ← p
  let rest ← many (separator >>= fun _ => p)
  pure (a :: rest)

/-- Repeats a step that goes on from what it found before, at most `steps` times. -/
def extended (step : α → Parser α) : Nat → α → Parser α
  | 0, a => pure a
  | steps + 1, a => (do
      let b ← step a
      extended step steps b) <|> pure a

/-- Repeats a step that goes on from what it found before, as long as it finds something. -/
def extend (step : α → Parser α) (a : α) : Parser α :=
  fun ts s => extended step ts.tokens.size a ts s

/-- Looks whether something follows, without reading it. -/
def ahead (p : Parser α) : Parser Unit :=
  fun ts s =>
    let start := s.position
    match p ts s with
    | (.found _, s) => (.found (), { s with position := start })
    | (.absent, s) => (.absent, { s with position := start })
    | (.broken b, s) => (.broken b, s)

/-- Looks whether something does not follow. -/
def notAhead (p : Parser α) : Parser Unit :=
  fun ts s =>
    let start := s.position
    match p ts s with
    | (.found _, s) => (.absent, { s with position := start })
    | (.absent, s) => (.found (), { s with position := start })
    | (.broken b, s) => (.broken b, s)

/-- Makes a failure final: the alternatives after this one are not tried. Used with `settle`. -/
def commit (p : Parser α) : Parser (Option α) :=
  maybe p

/-- Takes the outcome of alternatives that may have failed for good. -/
def settle (p : Parser (Option α)) : Parser α := do
  match ← p with
  | some a => pure a
  | none => absent

/-! ## Tokens -/

/-- The next token, looked at and not read. A fault that is looked at breaks the program. -/
def peek : Parser Token :=
  fun ts s =>
    match ts.tokens[s.position]? with
    | none => (.absent, s)
    | some t =>
      let s := { s with reached := max s.reached (s.position + 1) }
      match t.kind, ts.fault with
      | .fault, some f => (.broken ⟨f.reachedLine, true⟩, s)
      | .fault, none => (.absent, s)
      | _, _ => (.found t, s)

/-- Reads the next token if it passes a test. -/
def token (test : Token → Bool) : Parser Token := do
  let t ← peek
  if test t then fun _ s => (.found t, { s with position := s.position + 1 }) else absent

/-- Reads a token of a kind. -/
def kind (k : TokenKind) : Parser Token :=
  token fun t => t.kind == k

/-- Reads an operator. -/
def op (text : String) : Parser Token :=
  token fun t => t.kind == .operator && t.text == text

/-- Reads one of several operators. -/
def oneOf (texts : List String) : Parser Token :=
  token fun t => t.kind == .operator && texts.contains t.text

/-- Reads a keyword. -/
def word (text : String) : Parser Token :=
  token fun t => t.kind == .keyword && t.text == text

/-- Reads one of several keywords. -/
def oneWord (texts : List String) : Parser Token :=
  token fun t => t.kind == .keyword && texts.contains t.text

/-- Reads a name that is a keyword in some places only. -/
def softWord (text : String) : Parser Token :=
  token fun t => t.kind == .name && t.text == text

/-- The names that are keywords in some places. -/
def softWords : List String :=
  ["_", "case", "match"]

/-- The end of a logical line. -/
def newline : Parser Token :=
  kind .newline

/-! ## Ranges -/

/-- The last token before a position that is none of the layout. -/
def lastToken? (tokens : Array Token) : Nat → Option Token
  | 0 => none
  | n + 1 =>
    match tokens[n]? with
    | some t => if t.kind.isLayout then lastToken? tokens n else some t
    | none => none

/-- The range from a token up to what was read last. -/
def extentFrom (start : Token) : Parser Extent :=
  fun ts s =>
    let last := (lastToken? ts.tokens s.position).getD start
    (.found ⟨start.extent.line, start.extent.column, last.extent.endLine, last.extent.endColumn⟩, s)

/-- Gives what is read the range it was read from. -/
def ranged (p : Parser (Extent → α)) : Parser α := do
  let start ← peek
  let make ← p
  let extent ← extentFrom start
  pure (make extent)

/-- Reads a construct of a shape with its parts. -/
def shaped (shape : Construct) (p : Parser (List Ast)) : Parser Ast :=
  ranged do
    let parts ← p
    pure fun extent => .construct extent shape parts

/-- Reads a construct with its parts. -/
def construct (p : Parser (List Ast)) : Parser Ast :=
  shaped .plain p

/-! ## Mistakes -/

/-- Breaks the program at a line. -/
def breakAt (line : Nat) : Parser α :=
  fun _ s => (.broken ⟨line, false⟩, s)

/-- The line of the last token that was looked at. -/
def reachedLine : Parser Nat :=
  fun ts s =>
    match ts.tokens[s.reached - 1]? with
    | some t => (.found t.extent.line, s)
    | none => (.found 1, s)

/-- Breaks the program at the last token that was looked at. -/
def breakHere : Parser α := do
  breakAt (← reachedLine)

/-- Looks for a mistake, where mistakes are looked for. A mistake that is read without breaking the program
means that the rule is absent all the same. -/
def mistake (p : Parser Unit) : Parser α :=
  fun ts s =>
    if s.explain then
      match p ts s with
      | (.broken b, s) => (.broken b, s)
      | (_, s) => (.absent, s)
    else (.absent, s)

/-- Reads without looking for mistakes. -/
def withoutMistakes (p : Parser α) : Parser α :=
  fun ts s =>
    let explain := s.explain
    match p ts { s with explain := false } with
    | (verdict, s) => (verdict, { s with explain := explain })

/-- Reads an operator that has to follow. -/
def need (text : String) : Parser Token := do
  let t ← peek
  if t.kind == .operator && t.text == text then op text else breakAt t.extent.line

/-- A single piece of what a rule finds. -/
def one (p : Parser (List Ast)) : Parser Ast := do
  match ← p with
  | [a] => pure a
  | parts => pure (.group parts)

/-- A piece as what a rule finds. -/
def lone (p : Parser Ast) : Parser (List Ast) := do
  let a ← p
  pure [a]

/-! ## Remembering -/

/-- What is remembered of a rule. -/
def remembered (rule : Rule) : List Memo → Option (Option (List Ast × Nat))
  | [] => none
  | m :: rest => if m.rule = rule then some m.found else remembered rule rest

/-- Runs a rule, unless what it finds here is remembered. -/
def remember (rule : Rule) (p : Parser (List Ast)) : Parser (List Ast) :=
  fun ts s =>
    let start := s.position
    match remembered rule (s.memo.getD start []) with
    | some (some (parts, after)) => (.found parts, { s with position := after })
    | some none => (.absent, s)
    | none =>
      match p ts s with
      | (.found parts, s) =>
        let memo := s.memo.modify start fun found => ⟨rule, some (parts, s.position)⟩ :: found
        (.found parts, { s with memo := memo })
      | (.absent, s) =>
        (.absent, { s with memo := s.memo.modify start fun found => ⟨rule, none⟩ :: found })
      | (.broken b, s) => (.broken b, s)

/-! ## Whole programs -/

/-- The state before the first token. -/
def initial (ts : Tokens) (reached : Nat) (explain : Bool) : ParseState :=
  ⟨0, reached, explain, Array.replicate (ts.tokens.size + 1) []⟩

/-- The line of the last of some tokens. -/
def lineBefore (ts : Tokens) (count : Nat) : Nat :=
  match ts.tokens[count - 1]? with
  | some t => t.extent.line
  | none => 1

/-- The line that is reported for a program that is broken at a line, when `reached` tokens have been
looked at. A fault further on that is an error in itself comes first, and so does a bracket that was opened
before the last token and never closed. -/
def reportedLine (ts : Tokens) (reached line : Nat) : Nat :=
  match ts.fault with
  | none => line
  | some f =>
    if f.isAnnounced then f.line
    else match f.openLine with
      | some opened => if lineBefore ts reached > opened then opened else line
      | none => line

/-- The line that is reported for a breakage. -/
def breakageLine (ts : Tokens) (reached : Nat) (b : Breakage) : Nat :=
  if b.isLexical then b.line else reportedLine ts reached b.line

/-- The line that is reported for a program that fits no rule and in which no mistake is recognised. The
first reading looked at `first` tokens, both readings together at `both`. -/
def unexplainedLine (ts : Tokens) (first both : Nat) : Nat :=
  match ts.tokens[first - 1]? with
  | none => 1
  | some t =>
    if t.kind == .indent || t.kind == .dedent then lineBefore ts both
    else reportedLine ts both t.extent.line

/-- Reads a whole program, a second time for an explanation if it fits no rule. -/
def whole (p : Parser α) (ts : Tokens) : Except Nat α :=
  match p ts (initial ts 0 false) with
  | (.found a, _) => .ok a
  | (.broken b, s) => .error (breakageLine ts s.reached b)
  | (.absent, s) =>
    match p ts (initial ts s.reached true) with
    | (.broken b, t) => .error (breakageLine ts t.reached b)
    | (_, t) => .error (unexplainedLine ts s.reached t.reached)

end Parser

/-- A way to run the rules by name. -/
abbrev Rules := Rule → Parser (List Ast)

end BodyLength
