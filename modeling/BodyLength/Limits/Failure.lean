import BodyLength.Json.Basic
import BodyLength.Tree.SourceFile

/-!
# Failures

A failure is one thing that a rule found wrong with a file. It names the range of text that it is about and
says where that range begins. Lines and columns are counted from zero here and from one wherever a failure
is written out.
-/

namespace BodyLength

/-- Something that a rule found wrong. -/
structure Failure where
  /-- The name of the rule. -/
  rule : String
  /-- The name of the file. -/
  file : String
  /-- Where the range starts. -/
  start : Int
  /-- Where the range ends. -/
  stop : Int
  /-- The line of the start, counted from zero. -/
  line : Int
  /-- The column of the start, counted from zero. -/
  column : Int
  /-- What is wrong. -/
  message : String
  /-- The measure that was too large. -/
  length : Int
deriving DecidableEq, Repr

namespace Failure

/-- The failure of a rule at a node of a file. -/
def ofNode (rule : String) (file : SourceFile) (n : Node) (message : String) (length : Int) : Failure :=
  let (line, column) := file.position n.start
  ⟨rule, file.filename, n.start, n.stop, line, column, message, length⟩

/-- A failure on one line. -/
def text (f : Failure) : String :=
  f.file ++ ":" ++ toString (f.line + 1) ++ ":" ++ toString (f.column + 1) ++ ": [" ++ f.rule ++ "] " ++
    f.message

/-- A failure as an object. -/
def toJson (f : Failure) : Json :=
  .object [("rule", .text f.rule), ("file", .text f.file), ("start", .int f.start), ("end", .int f.stop),
    ("line", .int (f.line + 1)), ("column", .int (f.column + 1)), ("message", .text f.message),
    ("length", .int f.length)]

/-- Does a failure come no later than another one, by file and then by position? -/
def comesFirst (f g : Failure) : Bool :=
  f.file < g.file || (f.file == g.file && decide (f.start ≤ g.start))

end Failure

end BodyLength
