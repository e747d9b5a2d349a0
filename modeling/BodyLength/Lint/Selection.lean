import BodyLength.Config.Basic
import BodyLength.Lint.Frontend

/-!
# Files to check

The program is given paths. A path to a file stands for that file, whatever it is called and whatever is in it.
A path to a folder stands for files in it, in order: those with one of the configured suffixes that no excluded
name leads to. Of the files that look like tree documents only those are taken that are marked as one, because
a folder may hold other documents of the same suffix. A path to neither stands for nothing, which is worth a
warning.

To tell tree documents apart they have to be read, and that may end the run. It does so when the file is met, so
whatever comes before it has been checked by then.
-/

namespace BodyLength

/-- What becomes of a file that stands in a folder. -/
inductive Selection where
  | taken
  /-- It is passed over without a word. -/
  | ignored
  /-- It is passed over because it is no tree document. -/
  | notTree
deriving DecidableEq, Repr

namespace Config

/-- What becomes of a file that some names lead to. -/
def select (config : Config) (names : List String) (content : Option (List UInt8)) : Except Abort Selection :=
  let suffix := suffixOf (names.getLastD "")
  if !config.extensions.contains suffix then .ok .ignored
  else if config.excludes names then .ok .ignored
  else if Frontend.ofSuffix? suffix == some .treeDocument then
    (countsAsTree (Entry.readContent content)).map fun isTree => if isTree then .taken else .notTree
  else .ok .taken

end Config

/-- Something that is met when paths are gone through: a file to check, a remark, or what ends the run. -/
inductive Finding where
  | path (p : Path)
  | remark (n : Notice)
  | abort (why : Abort)

/-- What is met at a file of a folder. -/
def Config.finding (config : Config) (folder : Path) (names : List String) (content : Option (List UInt8)) :
    Option Finding :=
  match config.select names content with
  | .ok .taken => some (.path (folder.along names))
  | .ok .ignored => none
  | .ok .notTree => some (.remark (.notTreeDocument (folder.along names).text))
  | .error why => some (.abort why)

/-- What is met at a path. -/
def Config.findings (config : Config) (tree : Entry) (recursive : Bool) (p : Path) : List Finding :=
  match tree.find p.text with
  | .ok (.file _) => [.path p]
  | .ok (.folder entries) =>
    (Entry.listing entries recursive).filterMap fun f => config.finding p f.1 f.2
  | .error _ => [.remark (.pathNotFound p.text)]

/-- What is met at some paths. -/
def Config.findingsAll (config : Config) (tree : Entry) (recursive : Bool) (paths : List Path) :
    List Finding :=
  paths.flatMap (config.findings tree recursive)

/-- The files to check among what is met. -/
def Finding.files : List Finding → Work (List Path)
  | [] => return []
  | path p :: rest => do
    let others ← files rest
    return p :: others
  | remark n :: rest => do
    Work.remark [n]
    files rest
  | abort why :: _ => .abort why

/-- The files that some paths stand for. -/
def Config.selectFiles (config : Config) (tree : Entry) (recursive : Bool) (paths : List Path) :
    Work (List Path) :=
  Finding.files (config.findingsAll tree recursive paths)

end BodyLength
