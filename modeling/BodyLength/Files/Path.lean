import BodyLength.Text.CharTable

/-!
# Paths

A path is a sequence of names, perhaps with a root in front. Writing one down in several ways does not make
several paths: slashes may be repeated and the name of one point, which stays where it is, may be added
anywhere. The name of two points is kept, because going up from a link does not lead back.

The suffix of a path is the end of its last name from the last point on. A point at the beginning of a name
hides it and starts no suffix, and neither does a point at its end.
-/

namespace BodyLength

/-- A path. -/
structure Path where
  /-- The slashes of the root, if the path has one. -/
  root : String
  /-- The names, from the outermost one on. -/
  names : List String
deriving DecidableEq, Repr, Inhabited

/-- The pieces of a text between slashes. -/
def slashPieces (text : String) : List String :=
  (splitAtChar '/' text.toList).map String.ofList

/-- The root that a text begins with. Two slashes are a root of their own, more than two are as one. -/
def rootOf (text : String) : String :=
  match (text.toList.takeWhile (· == '/')).length with
  | 0 => ""
  | 2 => "//"
  | _ => "/"

namespace Path

/-- The path that a text denotes. -/
def ofText (text : String) : Path :=
  ⟨rootOf text, (slashPieces text).filter fun name => name != "" && name != "."⟩

/-- The written form of a path. -/
def text (p : Path) : String :=
  if p.root.isEmpty && p.names.isEmpty then "." else p.root ++ "/".intercalate p.names

/-- The root, if there is one, and the names. -/
def parts (p : Path) : List String :=
  if p.root.isEmpty then p.names else p.root :: p.names

/-- The path that leads on from a path along some names. -/
def along (p : Path) (names : List String) : Path :=
  ⟨p.root, p.names ++ names⟩

/-- The last name, or nothing. -/
def name (p : Path) : String :=
  p.names.getLastD ""

end Path

/-! ## Suffixes -/

/-- The suffix of a name, its point included. -/
def suffixOf (name : String) : String :=
  let reversed := name.toList.reverse
  let tail := reversed.takeWhile (· != '.')
  let rest := reversed.dropWhile (· != '.')
  if tail.isEmpty || rest.length ≤ 1 then "" else String.ofList ('.' :: tail.reverse)

/-- The suffix of a path. -/
def Path.suffix (p : Path) : String :=
  suffixOf p.name

/-! ## Order -/

/-- Does a sequence of names come no later than another one? They are compared name by name. -/
def namesInOrder : List String → List String → Bool
  | [], _ => true
  | _ :: _, [] => false
  | a :: as, b :: bs => a < b || (a == b && namesInOrder as bs)

end BodyLength
