import BodyLength.Limits.BodyLimits
import BodyLength.Tree.Node

/-!
# Wording of failures

A failure says what kind of body is too long, where it stands, how long it may be and how long it is. A
function or a method is found by its own name, a constructor by the name of its class, and an arrow function
has no name to be found by.

A limit is an integer of any size, and bodies can be longer than a limit far below zero. Such a limit has more
digits than are ever written out, so there are failures that cannot be put into words, and to meet one ends the run.
-/

namespace BodyLength

/-- What a kind with a body is called. -/
def Kind.bodyLabel (kind : Kind) : Except RuleError String :=
  match kind with
  | .functionDeclaration => .ok "function"
  | .methodDeclaration => .ok "method"
  | .arrowFunction => .ok "arrow function"
  | .constructorDeclaration => .ok "constructor"
  | _ => .error (.unsupportedKind kind)

/-- Where a body stands, the class around it being given. -/
def Node.placeText (n : Node) (className : String) : String :=
  match n.kind with
  | .functionDeclaration => " in function " ++ n.name.getD "" ++ "()"
  | .methodDeclaration => " in method " ++ n.name.getD "" ++ "()"
  | .constructorDeclaration => " in class " ++ className
  | _ => ""

/-- A limit in words. -/
def limitText : Option Number → Except Abort String
  | none => .ok "None"
  | some limit => limit.written

/-- What is said about a body that is too long. -/
def Node.failureText (n : Node) (className : String) (length : Int) (limit : Option Number) :
    Except RuleFault String := do
  let label ← n.kind.bodyLabel.mapError .error
  let limit ← (limitText limit).mapError .abort
  let length ← (Number.whole length).written.mapError .abort
  .ok ("Max " ++ label ++ " body length exceeded" ++ n.placeText className ++ " - max: " ++
    limit ++ ", actual: " ++ length)

end BodyLength
