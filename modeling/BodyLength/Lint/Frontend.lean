import BodyLength.Files.FileTree
import BodyLength.Files.SourceText
import BodyLength.Report.Work
import BodyLength.Source.Lowering
import BodyLength.Tree.Document

/-!
# Frontends

What turns a file into a tree is its frontend, and the suffix of the file decides which one that is: source
code is parsed, and a tree document is read. A file with another suffix has none.

A file can fail to have a tree because it cannot be opened or because of what is in it. Both are reported in
the same way.

Of the files in a folder that are named like tree documents only those count as one that are marked as one. A file
that cannot be read counts as well, so that the attempt to read it reports the error.
-/

namespace BodyLength

/-! ## Frontends by suffix -/

/-- A way of turning a file into a tree. -/
inductive Frontend where
  | sourceCode
  | treeDocument
deriving DecidableEq, Repr

/-- The frontend for a suffix. -/
def Frontend.ofSuffix? (suffix : String) : Option Frontend :=
  if suffix = ".py" then some .sourceCode
  else if suffix = ".json" then some .treeDocument
  else none

/-! ## Trees of files -/

/-- Why a file has no tree. -/
inductive LoadError where
  /-- It cannot be opened. -/
  | file (path : String) (e : FileError)
  /-- It holds no tree. -/
  | parse (e : ParseError)

namespace LoadError

/-- The name of the class of a cause. -/
def typeName : LoadError → String
  | file _ e => e.typeName
  | parse _ => "SourceParseError"

/-- The wording of a cause. -/
def message : LoadError → String
  | file path e => e.message path
  | parse e => e.message

end LoadError

/-- The tree that a frontend makes of the bytes of a file. -/
def Frontend.parse (frontend : Frontend) (filename : String) (bytes : List UInt8) :
    Except (Fault ParseError) SourceFile :=
  match frontend with
  | .sourceCode => (SourceFile.ofSource filename (String.ofList (sourceText bytes))).mapError .error
  | .treeDocument => SourceFile.ofDocumentBytes filename bytes

/-- The tree that a frontend makes of a file. -/
def Frontend.load (frontend : Frontend) (tree : Entry) (path : String) :
    Except (Fault LoadError) SourceFile := do
  let bytes ← (tree.read path).mapError fun e => .error (.file path e)
  (frontend.parse path bytes).mapError (Fault.map LoadError.parse)

/-- The remark about a tree that was made. -/
def Frontend.notices (frontend : Frontend) (file : SourceFile) : List Notice :=
  match frontend with
  | .sourceCode => [.treeBuilt file.filename file.nodeCount]
  | .treeDocument => []

/-- Makes the tree of a file. -/
def Frontend.run (frontend : Frontend) (tree : Entry) (path : String) : Work (Except LoadError SourceFile) :=
  let loaded := frontend.load tree path
  ⟨loaded.toOption.elim [] frontend.notices, Fault.settle loaded⟩

/-! ## Tree documents in folders -/

/-- Does a file with such bytes, or one that cannot be opened, count as a tree document? -/
def countsAsTree (read : Except FileError (List UInt8)) : Except Abort Bool :=
  match read with
  | .error _ => .ok true
  | .ok bytes => holdsTreeDocument bytes

/-- Does the file that a path leads to count as a tree document? -/
def Entry.countsAsTree (tree : Entry) (path : String) : Except Abort Bool :=
  BodyLength.countsAsTree (tree.read path)

end BodyLength
