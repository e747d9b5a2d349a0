import BodyLength.Limits.Failure
import BodyLength.Limits.Options
import BodyLength.Limits.Wording
import BodyLength.Pattern.Search

/-!
# Checking a file

A file is checked by one walk over its tree, each node before those below it. Two things have to be known at a
node that follow from the nodes around it: the name of the innermost class, for constructors, and whether one
of the arguments of an exempt call holds the node. The walk keeps both on stacks. What it pushes before the
children of a node it takes off after them, so a node finds the stacks as its surroundings have left them.

An exempt argument is kept as the range of the numbers of its subtree. A node is exempt if its own number lies
in one of the ranges.
-/

namespace BodyLength

/-! ## Exempt calls -/

/-- Is a name one of those whose calls are exempt? -/
def BodyLimits.exemptsName (limits : BodyLimits) (name : String) : Bool :=
  match limits.exempt with
  | none => false
  | some pattern => pattern.isFoundIn name

/-- Is a node a call with arguments that are exempt? -/
def BodyLimits.exemptsCall (limits : BodyLimits) (call : Node) : Bool :=
  limits.exemptsName call.calleeName && !call.arguments.isEmpty

/-! ## Surroundings -/

/-- The first and the last number of a subtree. -/
structure NumberRange where
  first : Int
  last : Int
deriving DecidableEq, Repr

/-- Is a number in a range? -/
def NumberRange.holds (range : NumberRange) (index : Int) : Bool :=
  decide (range.first ≤ index) && decide (index ≤ range.last)

/-- The numbers of a node and of those below it. -/
def Node.numberRange (n : Node) : NumberRange :=
  ⟨n.index, n.lastDescendant⟩

/-- What a walk knows at a node. -/
structure Surroundings where
  /-- For each exempt call around the node, the innermost one first, the ranges of its arguments. -/
  frames : List (List NumberRange)
  /-- The names of the classes around the node, the innermost one first. -/
  classNames : List String
  /-- What has been found so far. -/
  failures : List Failure
deriving Repr

namespace Surroundings

/-- What a walk knows at the root. -/
def atRoot : Surroundings :=
  ⟨[], [], []⟩

/-- Is the node with a number exempt? -/
def isExempt (s : Surroundings) (index : Int) : Bool :=
  s.frames.any fun frame => frame.any fun range => range.holds index

/-- The name of the innermost class. -/
def className (s : Surroundings) : String :=
  s.classNames.headD ""

/-- Enters an exempt call. -/
def pushFrame (s : Surroundings) (frame : List NumberRange) : Surroundings :=
  { s with frames := frame :: s.frames }

/-- Leaves an exempt call. -/
def popFrame (s : Surroundings) : Surroundings :=
  { s with frames := s.frames.tail }

/-- Enters a class. -/
def pushClass (s : Surroundings) (name : String) : Surroundings :=
  { s with classNames := name :: s.classNames }

/-- Leaves a class. -/
def popClass (s : Surroundings) : Surroundings :=
  { s with classNames := s.classNames.tail }

/-- Adds a failure. -/
def report (s : Surroundings) (f : Failure) : Surroundings :=
  { s with failures := s.failures ++ [f] }

/-- Measures the body of a node that is not exempt. -/
def measure (limits : BodyLimits) (file : SourceFile) (n : Node) (s : Surroundings) :
    Except RuleFault Surroundings :=
  if s.isExempt n.index then .ok s
  else do
    let length := file.bodyLength n
    if ← (limits.isTooLong n.kind length).mapError .error then
      let limit ← (limits.maxLengthFor n.kind).mapError .error
      let text ← n.failureText s.className length limit
      .ok (s.report (.ofNode ruleName file n text length))
    else .ok s

end Surroundings

/-! ## The walk -/

mutual

/-- Checks a node and those below it. -/
def visit (limits : BodyLimits) (file : SourceFile) :
    Node → Surroundings → Except RuleFault Surroundings
  | n@⟨kind, _, _, name, _, children, _, _, _, _⟩, s =>
    match kind with
    | .callExpression =>
      if limits.exemptsCall n then do
        let s ← visitAll limits file children (s.pushFrame (n.argumentNodes.map Node.numberRange))
        .ok s.popFrame
      else visitAll limits file children s
    | .classDeclaration => do
      let s ← visitAll limits file children (s.pushClass (name.getD ""))
      .ok s.popClass
    | kind =>
      if kind.isFunctionLike then do
        let s ← s.measure limits file n
        visitAll limits file children s
      else visitAll limits file children s

/-- Checks several nodes and those below them. -/
def visitAll (limits : BodyLimits) (file : SourceFile) :
    List Node → Surroundings → Except RuleFault Surroundings
  | [], s => .ok s
  | n :: rest, s => do
    let s ← visit limits file n s
    visitAll limits file rest s

end

/-- The failures of a file, each node before those below it. -/
def SourceFile.check (file : SourceFile) (limits : BodyLimits) : Except RuleFault (List Failure) := do
  let s ← visit limits file file.root .atRoot
  .ok s.failures

/-- The remarks about nodes that a walk comes to one after the other, up to one where it fails. The ranges are
those of the arguments of the exempt calls so far. They are kept when a call is left, because no number in them is
still to come. -/
def exemptNoticesFrom (limits : BodyLimits) (file : SourceFile) (ranges : List NumberRange) :
    List Node → List Notice
  | [] => []
  | n :: rest =>
    if n.kind == .callExpression && limits.exemptsCall n then
      .argumentsExempt n.arguments.length n.calleeName n.start ::
        exemptNoticesFrom limits file (n.argumentNodes.map Node.numberRange ++ ranges) rest
    else if n.isFunctionLike && !(Surroundings.measure limits file n ⟨[ranges], [], []⟩).isOk then []
    else exemptNoticesFrom limits file ranges rest

/-- The remarks about a file: its exempt calls, each before those below it. -/
def SourceFile.exemptNotices (file : SourceFile) (limits : BodyLimits) : List Notice :=
  exemptNoticesFrom limits file [] file.walk

/-! ## The rule -/

/-- Checks a file by the options of the rule. -/
def SourceFile.checkBy (file : SourceFile) (options : List Value) : Except RuleFault (List Failure) := do
  let limits ← BodyLimits.ofValues options
  file.check limits

/-- The remarks of a check by the options of the rule. -/
def SourceFile.noticesBy (file : SourceFile) (options : List Value) : List Notice :=
  BodyLimits.notices options ++
    match BodyLimits.ofValues options with
    | .ok limits => file.exemptNotices limits
    | .error _ => []

end BodyLength
