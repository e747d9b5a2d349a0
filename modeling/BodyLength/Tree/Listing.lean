import BodyLength.Tree.SourceFile

/-!
# Listings

A listing shows what of a file can be checked: every node of the kinds that have a body to be measured, in the
order of the tree, with its place and the length of its body. The length is the number that limits are compared
with, so a listing tells which limit would be exceeded where.
-/

namespace BodyLength

/-- What a listing says about one node. -/
structure ListingRow where
  /-- The line, counted from one. -/
  line : Nat
  /-- The column, counted from one. -/
  column : Nat
  kind : Kind
  /-- The name, if the node has one that is not empty. -/
  name : Option String
  bodyLength : Int
deriving DecidableEq, Repr

/-- What a listing says about a node of a file. -/
def ListingRow.ofNode (file : SourceFile) (n : Node) : ListingRow :=
  let (line, column) := file.position n.start
  ⟨line + 1, column + 1, n.kind, n.name.filter (!·.isEmpty), file.bodyLength n⟩

/-- A text followed by as many spaces as it takes to fill a width. -/
def padded (width : Nat) (text : String) : String :=
  text ++ String.ofList (List.replicate (width - text.length) ' ')

/-- A row on one line. -/
def ListingRow.text (r : ListingRow) : String :=
  "  " ++ toString r.line ++ ":" ++ toString r.column ++ "  " ++ padded 22 r.kind.name ++ " " ++
    padded 30 (r.name.getD "<anonymous>") ++ " body: " ++ toString r.bodyLength

/-- The listing of a file. -/
def SourceFile.listing (f : SourceFile) : List ListingRow :=
  (f.walk.filter Node.isFunctionLike).map (ListingRow.ofNode f)

/-- The line above a listing. -/
def SourceFile.summary (f : SourceFile) : String :=
  "Parsed: " ++ f.filename ++ " (" ++ toString f.lineMap.lineCount ++ " lines, " ++
    toString f.nodeCount ++ " nodes)"

end BodyLength
