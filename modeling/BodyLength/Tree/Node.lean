import BodyLength.Text.Quoted
import BodyLength.Tree.Kind

/-!
# Syntax nodes

A node has a kind, a range of text, perhaps a name and perhaps the range of a body, and its children
in order. A call also says which node it calls and which nodes it passes as arguments. These are
references and not further children: a reference names a child by its position. The type admits a
reference to a detached node as well, one that is no child, because a tree put together by hand may
hold one; such a tree has no written form, and `Node.dangling?` is the test that finds out.

Besides what it means, a node carries the numbers of a numbering: its own and that of the last node
below it. They are not part of what a node is, so `Node.same` compares nodes without them.
-/

namespace BodyLength

/-! ## The type -/

/-- A half-open range of text. -/
structure Span where
  start : Int
  stop : Int
deriving DecidableEq, Repr

/-- A reference from a node to another one. -/
inductive Ref (α : Type) where
  /-- The child at a position. -/
  | child (position : Nat)
  /-- A node that is no child. -/
  | detached (node : α)

/-- A node of a syntax tree. -/
structure Node where
  /-- What the node is. -/
  kind : Kind
  /-- Where its text starts. -/
  start : Int
  /-- Where its text ends. -/
  stop : Int
  /-- Its name. -/
  name : Option String
  /-- The range of its body. -/
  body : Option Span
  /-- The nodes below it, in order. -/
  children : List Node
  /-- For a call, the node that is called. -/
  callee : Option (Ref Node)
  /-- For a call, the nodes that are passed. -/
  arguments : List (Ref Node)
  /-- Its number, or minus one. -/
  index : Int
  /-- The number of the last node of its subtree, or minus one. -/
  lastDescendant : Int

instance : Inhabited Node :=
  ⟨⟨.other, 0, 0, none, none, [], none, [], -1, -1⟩⟩

namespace Node

/-- Does the node have one of the kinds with a body? -/
def isFunctionLike (n : Node) : Bool :=
  n.kind.isFunctionLike

/-- A node in messages: its kind, its name if it has one that is not empty, and its range. -/
def shown (n : Node) : String :=
  let name := match n.name with
    | some s => if s.isEmpty then "" else " " ++ quoted s
    | none => ""
  n.kind.label ++ name ++ "[" ++ toString n.start ++ ":" ++ toString n.stop ++ "]"

/-! ## References -/

/-- The node that a reference leads to, if it leads anywhere. -/
def resolve? (n : Node) : Ref Node → Option Node
  | .child position => n.children[position]?
  | .detached node => some node

/-- The node that is called. -/
def calleeNode? (n : Node) : Option Node :=
  n.callee.bind n.resolve?

/-- The nodes that are passed. -/
def argumentNodes (n : Node) : List Node :=
  n.arguments.filterMap n.resolve?

/-- The name of the called function: the callee's own name if it is an identifier or the access to a
member, and nothing otherwise. -/
def calleeName (n : Node) : String :=
  match n.calleeNode? with
  | none => ""
  | some callee =>
    match callee.kind with
    | .identifier => callee.name.getD ""
    | .propertyAccess => callee.name.getD ""
    | _ => ""

/-! ## Size and order -/

mutual

/-- The number of nodes of a subtree. -/
def size : Node → Nat
  | ⟨_, _, _, _, _, children, _, _, _, _⟩ => sizeAll children + 1

/-- The number of nodes of several subtrees. -/
def sizeAll : List Node → Nat
  | [] => 0
  | n :: rest => n.size + sizeAll rest

end

/-- The nodes that a stack of subtrees holds, taken off one by one with their children put back on
top. A step takes one node away for good, so as many steps as there are nodes are enough. -/
def walkStack : Nat → List Node → List Node
  | 0, _ => []
  | _ + 1, [] => []
  | steps + 1, n :: stack => n :: walkStack steps (n.children ++ stack)

/-- The nodes of a subtree, each before those below it. -/
def walk (n : Node) : List Node :=
  walkStack n.size [n]

mutual

/-- The nodes of a subtree, each before those below it, along the tree itself. -/
def preorder : Node → List Node
  | n@⟨_, _, _, _, _, children, _, _, _, _⟩ => n :: preorderAll children

/-- The nodes of several subtrees, one subtree after the other. -/
def preorderAll : List Node → List Node
  | [] => []
  | n :: rest => n.preorder ++ preorderAll rest

end

/-! ## Sameness -/

/-- Does a test accept the node that a reference of `other` leads to? -/
def accepts (test : Node → Bool) (other : Node) (r : Ref Node) : Bool :=
  match other.resolve? r with
  | some node => test node
  | none => false

/-- Do lists of tests and of things agree in length and does each test accept its thing? -/
def acceptAll {α : Type} : List (α → Bool) → List α → Bool
  | [], [] => true
  | test :: tests, x :: xs => test x && acceptAll tests xs
  | _, _ => false

mutual

/-- Are two nodes the same apart from their numbers? References are the same when they lead to nodes
that are. -/
def same : Node → Node → Bool
  | ⟨kind, start, stop, name, body, children, callee, arguments, _, _⟩, other =>
    kind == other.kind && start == other.start && stop == other.stop && name == other.name &&
      body == other.body &&
      let tests := sameTests children
      acceptAll tests other.children &&
        sameCallee tests callee other &&
        acceptAll (sameRefs tests other arguments) other.arguments

/-- For each node, the test for being the same as it. -/
def sameTests : List Node → List (Node → Bool)
  | [] => []
  | n :: rest => n.same :: sameTests rest

/-- Is the callee of `other` the same as the given one? -/
def sameCallee (tests : List (Node → Bool)) : Option (Ref Node) → Node → Bool
  | none, other => other.callee.isNone
  | some r, other =>
    match other.callee with
    | none => false
    | some s => sameReference tests other r s

/-- For each reference, the test for leading to the same node. -/
def sameRefs (tests : List (Node → Bool)) (other : Node) : List (Ref Node) → List (Ref Node → Bool)
  | [] => []
  | r :: rest => sameReference tests other r :: sameRefs tests other rest

/-- Does a reference of `other` lead to the same node as the given one? -/
def sameReference (tests : List (Node → Bool)) (other : Node) : Ref Node → Ref Node → Bool
  | .child position, s =>
    match tests[position]? with
    | some test => accepts test other s
    | none => (other.resolve? s).isNone
  | .detached node, s => accepts node.same other s

end

/-! ## Numbering -/

mutual

/-- The subtree with its nodes numbered in order, the first one with `next`, and the number after the
last one. Numbers from before are replaced. -/
def number (next : Nat) : Node → Node × Nat
  | ⟨kind, start, stop, name, body, children, callee, arguments, _, _⟩ =>
    let (children, after) := numberAll (next + 1) children
    (⟨kind, start, stop, name, body, children, callee, arguments, next, (after : Int) - 1⟩, after)

/-- Several subtrees numbered one after the other, and the number after the last one. -/
def numberAll (next : Nat) : List Node → List Node × Nat
  | [] => ([], next)
  | n :: rest =>
    let (n, next) := number next n
    let (rest, next) := numberAll next rest
    (n :: rest, next)

end

/-- The tree under a root with its nodes numbered from zero, and how many they are. -/
def numbered (root : Node) : Node × Nat :=
  number 0 root

end Node

end BodyLength
