import BodyLength.Json.Writer
import BodyLength.Tree.ParseError
import BodyLength.Tree.SourceFile

/-!
# Tree documents

A tree document is how a parser for another language hands its tree over: a JSON object that is marked as
a source file and holds the file's name, its text and the root of its tree. A node is an object with its
kind, its range, perhaps a name and perhaps a body, its children, and for calls the positions of the
callee and of the arguments among the children.

Reading checks the parts of a node in a fixed order, so that a node with several faults always reports the
same one: the children list and every child, the body, the callee, the arguments, and last the range of
the node itself. A kind may be any value and an unknown one is `other`; a name may be any value and is
taken as text. The file's own name wins over the one the reader was given, unless it is empty.

Writing fails on a tree with a detached reference and on one with a position that has too many digits. Of an integer
with too many digits both reading and writing end the run.
-/

namespace BodyLength

/-! ## Reading -/

/-- An integer field of an object. -/
def integerField (members : List (String × Json)) (field : String) : Except ParseCause Int :=
  match Json.member? field members with
  | some (.number (.whole n)) => .ok n
  | some found => .error (.notInteger field found)
  | none => .error (.notInteger field .null)

/-- The body of a node, if it has one. -/
def bodyField (members : List (String × Json)) : Except ParseCause (Option Span) :=
  match Json.member? "body" members with
  | none => .ok none
  | some .null => .ok none
  | some (.object range) => do
    let start ← integerField range "start"
    let stop ← integerField range "end"
    .ok (some ⟨start, stop⟩)
  | some _ => .error .bodyNotObject

/-- A reference to one of `count` children. -/
def childReference (count : Nat) (j : Json) : Except ParseCause (Ref Node) :=
  match j with
  | .number (.whole n) =>
    if 0 ≤ n && n < count then .ok (.child n.toNat) else .error (.badReference j)
  | _ => .error (.badReference j)

/-- The callee of a node, if it has one. -/
def calleeField (count : Nat) (members : List (String × Json)) :
    Except ParseCause (Option (Ref Node)) :=
  match Json.member? "expression" members with
  | none => .ok none
  | some .null => .ok none
  | some j => (childReference count j).map some

/-- The arguments of a node. -/
def argumentsField (count : Nat) (members : List (String × Json)) :
    Except ParseCause (List (Ref Node)) :=
  match Json.member? "arguments" members with
  | none => .ok []
  | some (.list positions) => positions.mapM (childReference count)
  | some _ => .error .argumentsNotList

/-- The kind of a node. -/
def kindField (members : List (String × Json)) : Kind :=
  match Json.member? "kind" members with
  | none => .other
  | some j => Kind.ofName j.plain

/-- The name of a node, if it has one. -/
def nameField (members : List (String × Json)) : Option String :=
  match Json.member? "name" members with
  | none => none
  | some .null => none
  | some j => some j.plain

/-- The node with the given children and the other parts of an object. -/
def nodeOfMembers (members : List (String × Json)) (children : List Node) :
    Except ParseCause Node := do
  let body ← bodyField members
  let callee ← calleeField children.length members
  let arguments ← argumentsField children.length members
  let start ← integerField members "start"
  let stop ← integerField members "end"
  .ok ⟨kindField members, start, stop, nameField members, body, children, callee, arguments, -1, -1⟩

mutual

/-- The node that a JSON value describes. -/
def Node.ofJson : Json → Except ParseCause Node
  | .object members => do
    let children ← Node.childrenOfMembers members
    nodeOfMembers members children
  | j => .error (.notNode j)

/-- The children that an object lists. -/
def Node.childrenOfMembers : List (String × Json) → Except ParseCause (List Node)
  | [] => .ok []
  | (name, j) :: rest =>
    if name = "children" then Node.childrenOfJson j else Node.childrenOfMembers rest

/-- The children that a JSON value lists. -/
def Node.childrenOfJson : Json → Except ParseCause (List Node)
  | .list items => Node.ofJsonAll items
  | _ => .error .childrenNotList

/-- The nodes that several JSON values describe. -/
def Node.ofJsonAll : List Json → Except ParseCause (List Node)
  | [] => .ok []
  | j :: rest => do
    let node ← Node.ofJson j
    let nodes ← Node.ofJsonAll rest
    .ok (node :: nodes)

end

/-- Is the value marked as a tree document? -/
def isTreeDocument : Json → Bool
  | .object members =>
    match Json.member? "_type" members with
    | some (.text mark) => mark == "source_file"
    | _ => false
  | _ => false

/-- The name that a document gives its file, if it gives one that is not empty. -/
def documentName (members : List (String × Json)) : Except ParseCause (Option String) :=
  match Json.member? "filename" members with
  | none => .ok none
  | some .null => .ok none
  | some (.text name) => .ok (if name.isEmpty then none else some name)
  | some found => .error (.filenameType found)

/-- The file that a document with the given members describes. -/
def SourceFile.ofMembers (filename : String) (members : List (String × Json)) :
    Except ParseError SourceFile := do
  let name ← (documentName members).mapError (ParseError.mk filename)
  let filename := name.getD filename
  match Json.member? "text" members with
  | some (.text text) =>
    let root ← (Node.ofJson ((Json.member? "root" members).getD .null)).mapError
      (ParseError.mk filename)
    .ok (SourceFile.ofTree filename text root)
  | _ => .error ⟨filename, .textMissing⟩

/-- The file that a JSON value describes; `filename` is its name if the value gives none. -/
def SourceFile.ofJson (filename : String) (j : Json) : Except ParseError SourceFile :=
  match j with
  | .object members =>
    if isTreeDocument j then SourceFile.ofMembers filename members
    else .error ⟨filename, .notTreeDocument⟩
  | _ => .error ⟨filename, .notTreeDocument⟩

/-- The file that a document describes. -/
def SourceFile.ofDocument (filename : String) (text : List Char) : Except (Fault ParseError) SourceFile := do
  let j ← (Json.ofChars text).mapError fun fault => fault.map fun e => ⟨filename, .notJson e⟩
  (SourceFile.ofJson filename j).mapError .error

/-- The file that the bytes of a document describe. -/
def SourceFile.ofDocumentBytes (filename : String) (bytes : List UInt8) :
    Except (Fault ParseError) SourceFile := do
  let text ← (Utf8.decode bytes).mapError fun e => .error ⟨filename, .notText e⟩
  SourceFile.ofDocument filename text

/-- Do some bytes hold a tree document? Its parts may still be faulty. -/
def holdsTreeDocument (bytes : List UInt8) : Except Abort Bool :=
  match Utf8.decode bytes with
  | .error _ => .ok false
  | .ok text =>
    match Json.ofChars text with
    | .error (.error _) => .ok false
    | .error (.abort why) => .error why
    | .ok j => .ok (isTreeDocument j)

/-! ## Writing -/

/-- A reference that a written tree cannot hold: a node that is no child of its parent. -/
structure DetachedReference where
  node : Node
  parent : Node

/-- The wording of a detached reference. -/
def DetachedReference.message (d : DetachedReference) : String :=
  d.node.shown ++ " is not a child of " ++ d.parent.shown

/-- The position that a reference from a node is written as. -/
def Node.writtenReference (parent : Node) : Ref Node → Except DetachedReference Json
  | .child position => .ok (.int position)
  | .detached node => .error ⟨node, parent⟩

/-- The member for the callee of a node. -/
def Node.writtenCallee (n : Node) : Except DetachedReference (List (String × Json)) :=
  match n.callee with
  | none => .ok []
  | some r => do
    let j ← n.writtenReference r
    .ok [("expression", j)]

/-- The member for the arguments of a node. -/
def Node.writtenArguments (n : Node) : Except DetachedReference (List (String × Json)) :=
  if n.arguments.isEmpty then .ok []
  else do
    let positions ← n.arguments.mapM n.writtenReference
    .ok [("arguments", .list positions)]

/-- The members of a node that come before its children. -/
def Node.writtenHead (n : Node) : List (String × Json) :=
  let name := match n.name with
    | none => []
    | some s => [("name", .text s)]
  let body := match n.body with
    | none => []
    | some span => [("body", .object [("start", .int span.start), ("end", .int span.stop)])]
  [("kind", .text n.kind.name), ("start", .int n.start), ("end", .int n.stop)] ++ name ++ body

mutual

/-- The JSON value that describes a node. -/
def Node.toJson : Node → Except DetachedReference Json
  | n@⟨_, _, _, _, _, children, _, _, _, _⟩ => do
    let children ← Node.toJsonAll children
    let callee ← n.writtenCallee
    let arguments ← n.writtenArguments
    .ok (.object (n.writtenHead ++ [("children", .list children)] ++ callee ++ arguments))

/-- The JSON values that describe several nodes. -/
def Node.toJsonAll : List Node → Except DetachedReference (List Json)
  | [] => .ok []
  | n :: rest => do
    let j ← n.toJson
    let js ← Node.toJsonAll rest
    .ok (j :: js)

end

/-- The JSON value that describes a file. -/
def SourceFile.toJson (f : SourceFile) : Except DetachedReference Json := do
  let root ← f.root.toJson
  .ok (.object [("_type", .text "source_file"), ("filename", .text f.filename),
    ("text", .text f.text), ("root", root)])

/-- The document that describes a file. -/
def SourceFile.toDocument (f : SourceFile) : Except (Fault DetachedReference) String := do
  let j ← f.toJson.mapError .error
  if j.isWritable then .ok j.compact else .error (.abort .longInteger)

end BodyLength
