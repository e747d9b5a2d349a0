import BodyLength.Value.Display

/-!
# JSON values

What a JSON document can hold. An object keeps its members in the order in which their names were
first written; a name written twice keeps its place and takes the later value. Integers are kept
exactly, at any size, and a number with a fraction or an exponent is a floating-point number.

Messages about a document quote its values as they quote configuration values, so `Json.toValue`
embeds the one into the other.
-/

namespace BodyLength

/-- A JSON value. -/
inductive Json where
  | null
  | bool (b : Bool)
  | number (n : Number)
  | text (s : String)
  | list (items : List Json)
  | object (members : List (String × Json))
deriving Inhabited

namespace Json

/-- An integer. -/
def int (n : Int) : Json :=
  .number (.whole n)

mutual

/-- A JSON value as a configuration value. -/
def toValue : Json → Value
  | null => .null
  | bool b => .bool b
  | number n => .number n
  | text s => .text s
  | list items => .list (toValues items)
  | object members => .mapping (toEntries members)

/-- Several JSON values as configuration values. -/
def toValues : List Json → List Value
  | [] => []
  | j :: rest => j.toValue :: toValues rest

/-- The members of an object as the entries of a mapping. -/
def toEntries : List (String × Json) → List (Value × Value)
  | [] => []
  | (name, j) :: rest => (.text name, j.toValue) :: toEntries rest

end

/-- The member of an object with a name. -/
def member? (name : String) : List (String × Json) → Option Json
  | [] => none
  | (n, j) :: rest => if n = name then some j else member? name rest

/-- Writes a member: an old name keeps its place, a new one comes last. -/
def insertMember (name : String) (j : Json) : List (String × Json) → List (String × Json)
  | [] => [(name, j)]
  | (n, k) :: rest => if n = name then (n, j) :: rest else (n, k) :: insertMember name j rest

/-- The members that remain of a sequence of writes. -/
def membersOf (writes : List (String × Json)) : List (String × Json) :=
  writes.foldl (fun members m => insertMember m.1 m.2 members) []

/-- A value as messages quote it. -/
def shown (j : Json) : String :=
  j.toValue.shown

/-- A value as it reads on its own. -/
def plain (j : Json) : String :=
  j.toValue.plain

/-- Is a value written out? One with an integer that has too many digits is not. -/
def isWritable (j : Json) : Bool :=
  j.toValue.isWritable

/-- The name of the type of a value, as messages give it. -/
def typeName (j : Json) : String :=
  j.toValue.typeName

end Json

end BodyLength
