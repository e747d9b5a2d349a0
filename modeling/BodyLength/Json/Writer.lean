import BodyLength.Json.Basic

/-!
# Writing JSON text

Values are written in ASCII: a character beyond it is written as an escape of four hexadecimal digits,
or as two of them when its code point needs more. There are two layouts. The compact one has no blanks
at all; the indented one gives each item and each member a line of its own, two blanks deeper than the
collection it belongs to, and a blank after each colon. An empty collection is its two brackets in both.
-/

namespace BodyLength.Json

/-! ## Strings -/

/-- Sixteen bits of a code point as an escape. -/
def unitEscape (unit : Nat) : String :=
  "\\u" ++ hexPadded 4 unit

/-- A character as it stands in a string. -/
def writtenChar (c : Char) : String :=
  match c with
  | '"' => "\\\""
  | '\\' => "\\\\"
  | '\n' => "\\n"
  | '\r' => "\\r"
  | '\t' => "\\t"
  | '\x08' => "\\b"
  | '\x0c' => "\\f"
  | c =>
    let n := c.toNat
    if 32 ≤ n && n < 127 then c.toString
    else if n < 0x10000 then unitEscape n
    else unitEscape (0xD800 + (n - 0x10000) / 0x400) ++ unitEscape (0xDC00 + (n - 0x10000) % 0x400)

/-- A string between its marks. -/
def writtenString (s : String) : String :=
  "\"" ++ String.join (s.toList.map writtenChar) ++ "\""

/-- A number. -/
def writtenNumber : Number → String
  | .whole n => toString n
  | .fraction .nan => "NaN"
  | .fraction (.infinite negative) => if negative then "-Infinity" else "Infinity"
  | .fraction x => x.text

/-! ## The compact layout -/

mutual

/-- A value without blanks. -/
def compact : Json → String
  | null => "null"
  | bool b => if b then "true" else "false"
  | number n => writtenNumber n
  | text s => writtenString s
  | list items => "[" ++ ",".intercalate (compactItems items) ++ "]"
  | object members => "\x7b" ++ ",".intercalate (compactMembers members) ++ "\x7d"

/-- Several values without blanks. -/
def compactItems : List Json → List String
  | [] => []
  | j :: rest => j.compact :: compactItems rest

/-- The members of an object without blanks. -/
def compactMembers : List (String × Json) → List String
  | [] => []
  | (name, j) :: rest => (writtenString name ++ ":" ++ j.compact) :: compactMembers rest

end

/-! ## The indented layout -/

/-- The start of a line at a depth. -/
def lineStart (depth : Nat) : String :=
  String.ofList ('\n' :: List.replicate (2 * depth) ' ')

/-- Parts of a collection, each on a line of its own, between the brackets. -/
def bracketed (opening closing : String) (depth : Nat) (parts : List String) : String :=
  if parts.isEmpty then opening ++ closing
  else
    opening ++ lineStart (depth + 1) ++ ("," ++ lineStart (depth + 1)).intercalate parts ++
      lineStart depth ++ closing

mutual

/-- A value at a depth. -/
def indented (depth : Nat) : Json → String
  | null => "null"
  | bool b => if b then "true" else "false"
  | number n => writtenNumber n
  | text s => writtenString s
  | list items => bracketed "[" "]" depth (indentedItems (depth + 1) items)
  | object members => bracketed "\x7b" "\x7d" depth (indentedMembers (depth + 1) members)

/-- Several values at a depth. -/
def indentedItems (depth : Nat) : List Json → List String
  | [] => []
  | j :: rest => j.indented depth :: indentedItems depth rest

/-- The members of an object at a depth. -/
def indentedMembers (depth : Nat) : List (String × Json) → List String
  | [] => []
  | (name, j) :: rest =>
    (writtenString name ++ ": " ++ j.indented depth) :: indentedMembers depth rest

end

end BodyLength.Json
