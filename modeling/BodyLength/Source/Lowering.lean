import BodyLength.Source.Program
import BodyLength.Text.ByteColumn
import BodyLength.Text.Utf8
import BodyLength.Tree.ParseError
import BodyLength.Tree.SourceFile

/-!
# Syntax trees of programs

A parsed program becomes a tree of nodes. Functions, lambdas, classes, calls, names and accesses get a node
of their own kind, every other construct with a range gets one of the kind `other`, and a piece without a
range is replaced by its parts. Nothing is left out and nothing comes twice.

A function is a method only as a direct statement of a class, and a constructor if it is one of those and
has the name of constructors. The body of a function reaches from the start of its first statement to the
end of its last one, and that of a lambda is its expression. Decorators stand below the function or class
that they decorate, although its range starts behind them.

The arguments of a call are put in the order of their places, because in the parsed program those with a
keyword stand behind all others; what is passed with a keyword is the value alone.
-/

namespace BodyLength

namespace Ast

/-- The name of the method that constructs instances of a class. -/
def constructorName : String := "__init__"

/-- The kind of a function with a name, as a statement of a class or elsewhere. -/
def functionKind (isMember : Bool) (name : String) : Kind :=
  if !isMember then .functionDeclaration
  else if name == constructorName then .constructorDeclaration
  else .methodDeclaration

/-- The positions of a range. -/
def span (lines : SourceLines) (e : Extent) : Span :=
  ⟨lines.offset e.line e.column, lines.offset e.endLine e.endColumn⟩

/-- The positions from the start of the first statement to the end of the last one. -/
def bodySpan (lines : SourceLines) (body : List Ast) : Span :=
  ⟨(span lines ((body.head?.map extent).getD default)).start,
    (span lines ((body.getLast?.map extent).getD default)).stop⟩

/-- A node that is no call, without numbers. -/
def node (kind : Kind) (s : Span) (name : Option String) (body : Option Span) (children : List Node) :
    Node :=
  ⟨kind, s.start, s.stop, name, body, children, none, [], -1, -1⟩

/-- A call with the nodes of its callee, of which there is one, and those of its arguments. -/
def callNode (s : Span) (callee arguments : List Node) : Node :=
  ⟨.callExpression, s.start, s.stop, none, none, callee ++ arguments,
    if callee.isEmpty then none else some (.child 0),
    (List.range arguments.length).map fun i => .child (callee.length + i), -1, -1⟩

/-- Does one place come before another one, or is it the same? -/
def startsBefore (a b : Extent) : Bool :=
  a.line < b.line || (a.line == b.line && a.column ≤ b.column)

/-- The nodes of arguments, in the order of the places of the arguments. -/
def inOrder (arguments : List (Extent × List Node)) : List Node :=
  (arguments.mergeSort fun a b => startsBefore a.1 b.1).flatMap (·.2)

mutual

/-- The nodes that a piece of a program becomes: one if it has a range. -/
def lower (lines : SourceLines) (isMember : Bool) : Ast → List Node
  | function extent id parameters body decorators returns =>
    [node (functionKind isMember id) (span lines extent) (some id) (some (bodySpan lines body))
      (lowerAll lines false parameters ++ lowerAll lines false body ++
        lowerAll lines false decorators ++ lowerAll lines false returns)]
  | lambda extent parameters body =>
    [node .arrowFunction (span lines extent) none (some (span lines body.extent))
      (lowerAll lines false parameters ++ lower lines false body)]
  | classDef extent id bases keywords body decorators =>
    [node .classDeclaration (span lines extent) (some id) none
      (lowerAll lines false bases ++ lowerAll lines false keywords ++ lowerAll lines true body ++
        lowerAll lines false decorators)]
  | call extent callee arguments keywords =>
    [callNode (span lines extent) (lower lines false callee)
      (inOrder (lowerPassed lines arguments ++ lowerPassed lines keywords))]
  | name extent id => [node .identifier (span lines extent) (some id) none []]
  | access extent value member =>
    [node .propertyAccess (span lines extent) (some member) none (lower lines false value)]
  | keyword extent _ value => [node .other (span lines extent) none none (lower lines false value)]
  | construct extent _ parts => [node .other (span lines extent) none none (lowerAll lines false parts)]
  | group parts => lowerAll lines false parts

/-- The nodes that several pieces become, one after the other. -/
def lowerAll (lines : SourceLines) (isMember : Bool) : List Ast → List Node
  | [] => []
  | a :: rest => lower lines isMember a ++ lowerAll lines isMember rest

/-- The nodes of what several arguments pass, each with its place. -/
def lowerPassed (lines : SourceLines) : List Ast → List (Extent × List Node)
  | [] => []
  | keyword _ _ value :: rest => (value.extent, lower lines false value) :: lowerPassed lines rest
  | a :: rest => (a.extent, lower lines false a) :: lowerPassed lines rest

end

/-- The tree of a program. -/
def root (lines : SourceLines) (program : List Ast) : Node :=
  node .sourceFile ⟨0, lines.length⟩ none none (lowerAll lines false program)

end Ast

/-- A text as the grammar expects it: line feeds are its only line endings, and it ends with one. -/
def withFinalNewline (text : List Char) : List Char :=
  let text := unifyNewlines text
  if text.getLast? == some '\n' then text else text ++ ['\n']

/-- The file with a name and the text of a program. -/
def SourceFile.ofSource (filename source : String) : Except ParseError SourceFile :=
  let text := source.toList
  if text.contains '\x00' then .error ⟨filename, .nullCharacter⟩
  else
    match readProgram (withFinalNewline text) with
    | .error line => .error ⟨filename, .syntaxError line⟩
    | .ok program => .ok (SourceFile.ofTree filename source (Ast.root (SourceLines.ofChars text) program))

end BodyLength
