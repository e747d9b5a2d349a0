import BodyLength.Files.Path
import BodyLength.Text.Quoted

/-!
# Files and folders

The program sees the file system as a tree: a file is its bytes, and a folder is its entries by name. A path is
followed name by name from the folder that the program works in. The name of two points leads back to where the
path came from, and every name that is followed has to stand in a folder.

A file can be missing in three ways, which are told apart when it is opened: there is nothing with the name,
there is a folder, or the path leads through something that is no folder. A file that is there may still refuse to
be read; it has a name and a place like any other, and only opening it fails.
-/

namespace BodyLength

/-! ## The tree -/

/-- What a name stands for. -/
inductive Entry where
  /-- A file and its bytes, or none if it cannot be read. -/
  | file (content : Option (List UInt8))
  | folder (entries : List (String × Entry))
deriving Inhabited

namespace Entry

/-- A folder without entries. -/
def emptyFolder : Entry :=
  .folder []

/-- Is it a file? -/
def isFile : Entry → Bool
  | file _ => true
  | folder _ => false

/-- Is it a folder? -/
def isFolder (e : Entry) : Bool :=
  !e.isFile

/-- The entry with a name. -/
def child? (name : String) : List (String × Entry) → Option Entry
  | [] => none
  | (n, e) :: rest => if n = name then some e else child? name rest

/-- Sets the entry with a name: an old one is replaced, a new one comes last. -/
def setChild (name : String) (e : Entry) : List (String × Entry) → List (String × Entry)
  | [] => [(name, e)]
  | (n, old) :: rest => if n = name then (n, e) :: rest else (n, old) :: setChild name e rest

/-- The entries of a folder. -/
def children : Entry → List (String × Entry)
  | file _ => []
  | folder entries => entries

/-- The tree with an entry put at the end of some names, folders being made on the way. A folder that is put
where there is one already leaves it as it is. -/
def put (leaf : Entry) : List String → Entry → Entry
  | [], old => if leaf.isFolder && old.isFolder then old else leaf
  | name :: rest, e =>
    let inner := (child? name e.children).getD emptyFolder
    folder (setChild name (put leaf rest inner) e.children)

/-- The tree of some files, each with the path that leads to it and its bytes if it can be read. A path that ends
in a slash makes a folder. -/
def ofContents (files : List (String × Option (List UInt8))) : Entry :=
  files.foldl (fun tree f =>
    let leaf := if f.1.endsWith "/" then emptyFolder else file f.2
    put leaf (Path.ofText f.1).parts tree) emptyFolder

/-- The tree of some files that can be read, each with the path that leads to it. -/
def ofFiles (files : List (String × List UInt8)) : Entry :=
  ofContents (files.map fun f => (f.1, some f.2))

end Entry

/-! ## Following paths -/

/-- Why a file cannot be opened. -/
inductive FileError where
  | notFound
  | isFolder
  | notFolder
  | denied
deriving DecidableEq, Repr

namespace FileError

/-- The name of the class of a cause. -/
def typeName : FileError → String
  | notFound => "FileNotFoundError"
  | isFolder => "IsADirectoryError"
  | notFolder => "NotADirectoryError"
  | denied => "PermissionError"

/-- The wording of a cause. -/
def message (e : FileError) (path : String) : String :=
  (match e with
    | notFound => "[Errno 2] No such file or directory: "
    | isFolder => "[Errno 21] Is a directory: "
    | notFolder => "[Errno 20] Not a directory: "
    | denied => "[Errno 13] Permission denied: ") ++ quoted path

end FileError

namespace Entry

/-- Follows names from an entry, `above` being the folders that were come through, the nearest one first. -/
def follow : List String → Entry → List Entry → Except FileError Entry
  | [], e, _ => .ok e
  | name :: rest, e, above =>
    match e with
    | file _ => .error .notFolder
    | folder entries =>
      if name = "" || name = "." then follow rest e above
      else if name = ".." && !above.isEmpty then follow rest (above.headD e) above.tail
      else
        match child? name entries with
        | some inner => follow rest inner (e :: above)
        | none => .error .notFound

/-- What the text of a path leads to. A root is the entry that has it as its name. -/
def find (tree : Entry) (text : String) : Except FileError Entry :=
  if text.isEmpty then .error .notFound
  else if (rootOf text).isEmpty then follow (slashPieces text) tree []
  else follow (rootOf text :: slashPieces text) tree []

/-- The bytes that a file gives when it is opened. -/
def readContent : Option (List UInt8) → Except FileError (List UInt8)
  | some bytes => .ok bytes
  | none => .error .denied

/-- The bytes of the file that the text of a path leads to. -/
def read (tree : Entry) (text : String) : Except FileError (List UInt8) := do
  match ← tree.find text with
  | file content => readContent content
  | folder _ => .error .isFolder

/-- Is there a file with a path? -/
def hasFile (tree : Entry) (p : Path) : Bool :=
  match tree.find p.text with
  | .ok e => e.isFile
  | .error _ => false

/-! ## Listing -/

mutual

/-- The files of a tree, each with the names that lead to it. -/
def filesBelow : Entry → List (List String × Option (List UInt8))
  | file content => [([], content)]
  | folder entries => filesBelowAll entries

/-- The files of some entries, each with the names that lead to it. -/
def filesBelowAll : List (String × Entry) → List (List String × Option (List UInt8))
  | [] => []
  | (name, e) :: rest => e.filesBelow.map (fun f => (name :: f.1, f.2)) ++ filesBelowAll rest

end

/-- The files that are entries themselves, each with its name. -/
def filesAmong (entries : List (String × Entry)) : List (List String × Option (List UInt8)) :=
  entries.filterMap fun e => match e.2 with
    | file content => some ([e.1], content)
    | folder _ => none

/-- The files of a folder or, if not all are wanted, those that are in it and not further below, in order. -/
def listing (entries : List (String × Entry)) (all : Bool) : List (List String × Option (List UInt8)) :=
  (if all then filesBelowAll entries else filesAmong entries).mergeSort fun a b => namesInOrder a.1 b.1

end Entry

end BodyLength
