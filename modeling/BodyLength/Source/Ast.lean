import BodyLength.Source.Token

/-!
# Parsed programs

What the grammar makes of source code, as far as the linter has a use for it. The constructs that become
nodes of a kind of their own are told apart: functions, lambdas, classes, calls, names and accesses to members. All
others are a `construct` with a range of text and their parts in order, or, where the language gives them
no range (parameter lists, clauses of comprehensions, items of a `with`, cases of a `match`), a `group` of
their parts.

A few constructs carry a mark besides, because whether a program is well formed depends on them: only some
may be assigned to, and an `in` within the head of a loop is no comparison.
-/

namespace BodyLength

/-- The constructs that the grammar itself has to recognise again. -/
inductive Construct where
  | tuple
  | list
  | starred
  | subscript
  /-- A comparison whose first operator is `in`. -/
  | membership
  | comparison
  | plain
deriving DecidableEq, Repr, Inhabited

/-- A piece of a parsed program. -/
inductive Ast where
  /-- A function with its parameters and their defaults, its statements, its decorators and the type of
  its result. -/
  | function (extent : Extent) (name : String) (parameters body decorators returns : List Ast)
  /-- A function without a name, whose body is an expression. -/
  | lambda (extent : Extent) (parameters : List Ast) (body : Ast)
  /-- A class with its bases, the keywords beside them, its statements and its decorators. -/
  | classDef (extent : Extent) (name : String) (bases keywords body decorators : List Ast)
  /-- A call with what is called, the arguments without a keyword and those with one. -/
  | call (extent : Extent) (callee : Ast) (arguments keywords : List Ast)
  | name (extent : Extent) (id : String)
  /-- The access to a member of a value. -/
  | access (extent : Extent) (value : Ast) (member : String)
  /-- An argument with a keyword, or the unpacking of a mapping into such arguments. -/
  | keyword (extent : Extent) (isUnpacking : Bool) (value : Ast)
  /-- Anything else that has a range of text. -/
  | construct (extent : Extent) (shape : Construct) (parts : List Ast)
  /-- Anything that has no range of text. -/
  | group (parts : List Ast)
deriving Inhabited

namespace Ast

/-- The range of a piece, if it has one. -/
def extent? : Ast → Option Extent
  | function extent _ _ _ _ _ => some extent
  | lambda extent _ _ => some extent
  | classDef extent _ _ _ _ _ => some extent
  | call extent _ _ _ => some extent
  | name extent _ => some extent
  | access extent _ _ => some extent
  | keyword extent _ _ => some extent
  | construct extent _ _ => some extent
  | group _ => none

/-- The range of a piece, an empty one where it has none. -/
def extent (a : Ast) : Extent :=
  a.extent?.getD default

/-- The line where a piece starts. -/
def line (a : Ast) : Nat :=
  a.extent.line

/-- Is the piece an argument with a keyword? -/
def isKeyword : Ast → Bool
  | keyword _ _ _ => true
  | _ => false

/-- Is the piece the unpacking of a mapping into arguments? -/
def isUnpacking : Ast → Bool
  | keyword _ isUnpacking _ => isUnpacking
  | _ => false

/-- The parts of a piece without a range. -/
def parts : Ast → List Ast
  | group parts => parts
  | _ => []

/-- The decorated form of a function or a class; its own range starts behind its decorators. -/
def decorate (decorators : List Ast) : Ast → Ast
  | function extent id parameters body _ returns =>
    function extent id parameters body decorators returns
  | classDef extent id bases keywords body _ => classDef extent id bases keywords body decorators
  | a => a

end Ast

/-! ## What may be assigned to -/

/-- The uses of a target. -/
inductive TargetUse where
  | assigning
  | looping
  | deleting
deriving DecidableEq, Repr

mutual

/-- The first part of an expression that cannot be a target. Tuples and lists are targets if all their
items are; a starred item is one for what it stars, except for deleting; the head of a loop may have been
read as a membership test, and then its left side is the target. -/
def Ast.badTarget? (use : TargetUse) : Ast → Option Ast
  | .name _ _ => none
  | .access _ _ _ => none
  | a@(.construct _ shape parts) =>
    match shape with
    | .subscript => none
    | .tuple => Ast.firstBadTarget? use parts
    | .list => Ast.firstBadTarget? use parts
    | .starred => if use = .deleting then some a else Ast.headBadTarget? use parts
    | .membership => if use = .looping then Ast.headBadTarget? use parts else some a
    | .comparison => if use = .looping then none else some a
    | .plain => some a
  | a => some a

/-- The first part that cannot be a target, among several. -/
def Ast.firstBadTarget? (use : TargetUse) : List Ast → Option Ast
  | [] => none
  | a :: rest =>
    match a.badTarget? use with
    | some bad => some bad
    | none => Ast.firstBadTarget? use rest

/-- The part of the first of several that cannot be a target. -/
def Ast.headBadTarget? (use : TargetUse) : List Ast → Option Ast
  | [] => none
  | a :: _ => a.badTarget? use

end

end BodyLength
