import BodyLength.Number.Binary64

/-!
# Configuration values

A configuration is data that somebody wrote down: truth values, numbers, texts, lists and mappings,
and now and then a date, raw bytes or a set. `Value` is that data. The rule takes numbers and
mappings seriously and skips everything else, so most of what is said about values here is how to
recognise what they are.

Mappings keep their entries in the order in which the keys were first written; a key written twice
keeps its place and takes the later value. Keys are told apart as values are: numbers that are equal
are the same key, whether they are integers, fractions or truth values (which count as one and zero).
-/

namespace BodyLength

/-! ## Dates -/

/-- A day of the calendar. -/
structure CalendarDate where
  year : Nat
  month : Nat
  day : Nat
deriving DecidableEq, Repr

/-- A moment of a day, with the distance from universal time where one is known, in seconds. -/
structure Timestamp where
  date : CalendarDate
  hour : Nat
  minute : Nat
  second : Nat
  microsecond : Nat
  offset : Option Int
deriving DecidableEq, Repr

/-! ## Numbers -/

/-- A number as a configuration writes it. -/
inductive Number where
  /-- An integer of any size. -/
  | whole (n : Int)
  /-- A fraction. -/
  | fraction (x : Binary64)
deriving DecidableEq, Repr

/-- Is the number different from zero? What is no number counts as different. -/
def Number.isNonzero : Number → Bool
  | .whole n => n != 0
  | .fraction x => !x.isZero

/-- Is the integer greater than the number? -/
def Number.isBelow (limit : Number) (n : Int) : Bool :=
  match limit with
  | .whole m => decide (m < n)
  | .fraction x => x.compareInt? n == some .gt

/-! ## Values -/

/-- A piece of configuration data. -/
inductive Value where
  | null
  | bool (b : Bool)
  | number (n : Number)
  | text (s : String)
  | bytes (bs : List UInt8)
  | date (d : CalendarDate)
  | timestamp (t : Timestamp)
  | list (items : List Value)
  /-- A key and its value, as an item of a list that keeps an order of entries. -/
  | pair (key value : Value)
  | set (members : List Value)
  | mapping (entries : List (Value × Value))
deriving Inhabited

namespace Value

/-- An integer. -/
def int (n : Int) : Value :=
  .number (.whole n)

/-- A fraction. -/
def float (x : Binary64) : Value :=
  .number (.fraction x)

/-- The number that a value is; truth values are none. -/
def number? : Value → Option Number
  | .number n => some n
  | _ => none

/-- The integer that a value is; truth values are none. -/
def int? : Value → Option Int
  | .number (.whole n) => some n
  | _ => none

/-- The text that a value is. -/
def text? : Value → Option String
  | .text s => some s
  | _ => none

/-- Is the value neither nothing, nor false, nor zero, nor empty? -/
def isTruthy : Value → Bool
  | null => false
  | bool b => b
  | number n => n.isNonzero
  | text s => !s.isEmpty
  | bytes bs => !bs.isEmpty
  | list items => !items.isEmpty
  | set members => !members.isEmpty
  | mapping entries => !entries.isEmpty
  | _ => true

/-- The name of the type of a value, as messages give it. -/
def typeName : Value → String
  | null => "NoneType"
  | bool _ => "bool"
  | number (.whole _) => "int"
  | number (.fraction _) => "float"
  | text _ => "str"
  | bytes _ => "bytes"
  | date _ => "date"
  | timestamp _ => "datetime"
  | list _ => "list"
  | pair _ _ => "tuple"
  | set _ => "set"
  | mapping _ => "dict"

/-! ## Keys -/

/-- The number that a value counts as among keys. -/
def keyNumber? : Value → Option Number
  | bool b => some (.whole (if b then 1 else 0))
  | number n => some n
  | _ => none

/-- Are two numbers the same key? Integers and fractions of one value are, and a key that is no
number is the same as itself. -/
def sameKeyNumber : Number → Number → Bool
  | .whole m, .whole n => m == n
  | .whole m, .fraction x => x.compareInt? m == some .eq
  | .fraction x, .whole n => x.compareInt? n == some .eq
  | .fraction x, .fraction y => x == y || x.sameNumber y

/-- May the value be a key? Lists, sets and mappings may not. -/
def isKey : Value → Bool
  | list _ => false
  | set _ => false
  | mapping _ => false
  | pair k v => k.isKey && v.isKey
  | _ => true

/-- Are two values the same key? -/
def sameKey : Value → Value → Bool
  | null, null => true
  | text s, text t => s == t
  | bytes bs, bytes cs => bs == cs
  | date d, date e => d == e
  | timestamp t, timestamp u => t == u
  | pair k v, pair l w => k.sameKey l && v.sameKey w
  | a, b =>
    match a.keyNumber?, b.keyNumber? with
    | some m, some n => sameKeyNumber m n
    | _, _ => false

/-- The value of a key among entries. -/
def lookup (key : Value) : List (Value × Value) → Option Value
  | [] => none
  | (k, v) :: rest => if sameKey k key then some v else lookup key rest

/-- The value that a mapping's entries give to a name. -/
def field? (entries : List (Value × Value)) (name : String) : Option Value :=
  lookup (.text name) entries

/-- Writes an entry: an old key keeps its place, a new one comes last. -/
def insertEntry (key value : Value) : List (Value × Value) → List (Value × Value)
  | [] => [(key, value)]
  | (k, v) :: rest =>
    if sameKey k key then (k, value) :: rest else (k, v) :: insertEntry key value rest

/-- The entries that remain of a sequence of writes. -/
def entriesOf (writes : List (Value × Value)) : List (Value × Value) :=
  writes.foldl (fun entries e => insertEntry e.1 e.2 entries) []

end Value

end BodyLength
