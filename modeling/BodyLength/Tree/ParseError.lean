import BodyLength.Json.Reader
import BodyLength.Text.Utf8

/-!
# Files that have no tree

A file is handed to a frontend by its suffix, and a frontend either builds a tree or says why it cannot.
The causes come from two sides. Source code may be no program at all, or hold a null character. A tree
document may be no text, no JSON, or JSON of another shape than a tree has.

`ParseError.message` is the only place where the causes are put into words. What is wrong with a program
is not worded further than by the line where it shows.
-/

namespace BodyLength

/-- Why a file has no tree. -/
inductive ParseCause where
  /-- The source code breaks the grammar at a line. -/
  | syntaxError (line : Nat)
  /-- The source code holds a null character. -/
  | nullCharacter
  /-- The document is no UTF-8. -/
  | notText (e : Utf8Error)
  /-- The document is no JSON. -/
  | notJson (e : JsonError)
  /-- The document is not marked as a tree. -/
  | notTreeDocument
  /-- The document's file name is no text. -/
  | filenameType (found : Json)
  /-- The document has no text. -/
  | textMissing
  /-- There is something else where a node is expected. -/
  | notNode (found : Json)
  | childrenNotList
  | bodyNotObject
  /-- A field that has to be an integer is none. -/
  | notInteger (field : String) (found : Json)
  /-- A reference names no child. -/
  | badReference (found : Json)
  | argumentsNotList

/-- A file, and why it has no tree. -/
structure ParseError where
  filename : String
  cause : ParseCause

namespace ParseCause

/-- The line that a cause is known to be at. -/
def line? : ParseCause → Option Nat
  | syntaxError line => some line
  | _ => none

/-- The wording of a cause. -/
def message : ParseCause → String
  | syntaxError _ => "<syntax error>"
  | nullCharacter => "source code string cannot contain null bytes"
  | notText e => "invalid JSON: " ++ e.message
  | notJson e => "invalid JSON: " ++ e.message
  | notTreeDocument => "expected a 'source_file' document"
  | filenameType found => "document field 'filename' must be a string, got " ++ found.shown
  | textMissing => "document field 'text' must be a string"
  | notNode found => "expected a node object, got " ++ found.typeName
  | childrenNotList => "node field 'children' must be a list"
  | bodyNotObject => "node field 'body' must be an object"
  | notInteger field found => "node field '" ++ field ++ "' must be an integer, got " ++ found.shown
  | badReference found => "child reference " ++ found.shown ++ " out of range"
  | argumentsNotList => "node field 'arguments' must be a list"

end ParseCause

/-- The wording of a parse error, with the line where one is known. -/
def ParseError.message (e : ParseError) : String :=
  let place := match e.cause.line? with
    | some line => " at line " ++ toString line
    | none => ""
  "Parse error in " ++ e.filename ++ place ++ ": " ++ e.cause.message

end BodyLength
