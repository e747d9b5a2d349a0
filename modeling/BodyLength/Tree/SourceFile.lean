import BodyLength.Text.LineMap
import BodyLength.Tree.Node

/-!
# Source files

A file that is ready to be checked: its name, its text, its numbered tree and the map from positions
to lines. `SourceFile.ofTree` is the only way the program makes one, so the numbers of its tree are
always those of `Node.numbered` and its line map always that of its text.
-/

namespace BodyLength

/-- A file with its syntax tree. -/
structure SourceFile where
  filename : String
  text : String
  /-- The tree, numbered. -/
  root : Node
  nodeCount : Nat
  lineMap : LineMap

namespace SourceFile

/-- The file with a name, a text and a tree. -/
def ofTree (filename text : String) (root : Node) : SourceFile :=
  let (root, count) := root.numbered
  ⟨filename, text, root, count, LineMap.ofText text⟩

/-- Line and column of a position, counted from zero. -/
def position (f : SourceFile) (offset : Int) : Nat × Nat :=
  f.lineMap.position offset

/-- The nodes of the file, each before those below it. -/
def walk (f : SourceFile) : List Node :=
  f.root.walk

/-- The nodes that have one of some kinds. -/
def nodesOfKind (f : SourceFile) (kinds : List Kind) : List Node :=
  f.walk.filter fun n => kinds.contains n.kind

/-- How many line endings a node's body contains; none when it has no body. -/
def bodyLength (f : SourceFile) (n : Node) : Int :=
  match n.body with
  | none => 0
  | some body => max 0 ((f.lineMap.lineOf body.stop : Int) - f.lineMap.lineOf body.start)

/-- Are two files the same, apart from what follows from their trees and texts? -/
def same (f g : SourceFile) : Bool :=
  f.filename == g.filename && f.text == g.text && f.root.same g.root

end SourceFile

end BodyLength
