import BodyLength.Value.Basic
import BodyLength.Number.Numeral
import BodyLength.Number.Shortest
import BodyLength.Text.Quoted

/-!
# Values in messages

A value is shown in two ways. `Value.shown` shows it so that its type can be recognised: texts stand
between quotation marks, collections between their brackets, dates as the calls that would build
them. `Value.plain` differs only for what stands alone: a text is itself and a date has its usual
written form. Inside a collection every member is shown in the first way.

A whole fraction is shown with a point and a zero, so that it is told from an integer; `Number.plain`
is the exception made for limits, where a whole fraction reads as the integer that it is.

Not every value is shown. An integer with more digits than `maxIntegerDigits` is not written out, and neither is a
collection that holds one, whatever else is in it: `isWritable` tells which values have a text that is ever made.
-/

namespace BodyLength

/-! ## Dates -/

namespace CalendarDate

/-- The written form of a date. -/
def plain (d : CalendarDate) : String :=
  zeroPadded 4 d.year ++ "-" ++ zeroPadded 2 d.month ++ "-" ++ zeroPadded 2 d.day

/-- The parts of a date, separated by commas. -/
def parts (d : CalendarDate) : String :=
  toString d.year ++ ", " ++ toString d.month ++ ", " ++ toString d.day

end CalendarDate

namespace Timestamp

/-- The number of seconds of a day. -/
def daySeconds : Int := 86400

/-- A distance from universal time, as hours and minutes. -/
def plainOffset (offset : Int) : String :=
  let n := offset.natAbs
  (if offset < 0 then "-" else "+") ++ zeroPadded 2 (n / 3600) ++ ":" ++
    zeroPadded 2 (n % 3600 / 60)

/-- The written form of a moment. -/
def plain (t : Timestamp) : String :=
  t.date.plain ++ " " ++ zeroPadded 2 t.hour ++ ":" ++ zeroPadded 2 t.minute ++ ":" ++
    zeroPadded 2 t.second ++
    (if t.microsecond = 0 then "" else "." ++ zeroPadded 6 t.microsecond) ++
    (match t.offset with
      | none => ""
      | some offset => plainOffset offset)

/-- A span of time as days, which may be negative, and seconds of a day. -/
def shownSpan (seconds : Int) : String :=
  let days := seconds.fdiv daySeconds
  let rest := seconds.fmod daySeconds
  let parts :=
    (if days = 0 then [] else ["days=" ++ toString days]) ++
      (if rest = 0 then [] else ["seconds=" ++ toString rest])
  "datetime.timedelta(" ++ (if parts.isEmpty then "0" else ", ".intercalate parts) ++ ")"

/-- A distance from universal time as the call that would build it. -/
def shownOffset (offset : Int) : String :=
  if offset = 0 then "datetime.timezone.utc"
  else "datetime.timezone(" ++ shownSpan offset ++ ")"

/-- A moment as the call that would build it, without the small parts that are zero. -/
def shown (t : Timestamp) : String :=
  let small :=
    if t.microsecond ≠ 0 then [toString t.second, toString t.microsecond]
    else if t.second ≠ 0 then [toString t.second]
    else []
  let zone := match t.offset with
    | none => []
    | some offset => ["tzinfo=" ++ shownOffset offset]
  "datetime.datetime(" ++
    ", ".intercalate ([t.date.parts, toString t.hour, toString t.minute] ++ small ++ zone) ++ ")"

end Timestamp

/-! ## Numbers -/

/-- A number, a fraction always with a point or an exponent. -/
def Number.shown : Number → String
  | .whole n => toString n
  | .fraction x => x.text

/-- A number, a whole fraction as the integer that it is. -/
def Number.plain : Number → String
  | .whole n => toString n
  | .fraction x =>
    match x.whole? with
    | some n => toString n
    | none => x.text

/-- Is a number written out? An integer with too many digits is not. -/
def Number.isWritable : Number → Bool
  | .whole n => decide (decimalWidth n.natAbs ≤ maxIntegerDigits)
  | .fraction _ => true

/-! ## Values -/

mutual

/-- A value as messages quote it. -/
def Value.shown : Value → String
  | .null => "None"
  | .bool b => if b then "True" else "False"
  | .number n => n.shown
  | .text s => quoted s
  | .bytes bs => quotedBytes bs
  | .date d => "datetime.date(" ++ d.parts ++ ")"
  | .timestamp t => t.shown
  | .list items => "[" ++ ", ".intercalate (Value.shownItems items) ++ "]"
  | .pair k v => "(" ++ k.shown ++ ", " ++ v.shown ++ ")"
  | .set members =>
    if members.isEmpty then "set()"
    else "\x7b" ++ ", ".intercalate (Value.shownItems members) ++ "\x7d"
  | .mapping entries => "\x7b" ++ ", ".intercalate (Value.shownEntries entries) ++ "\x7d"

/-- The items of a collection, each as messages quote it. -/
def Value.shownItems : List Value → List String
  | [] => []
  | v :: rest => v.shown :: Value.shownItems rest

/-- The entries of a mapping, each as its key, a colon and its value. -/
def Value.shownEntries : List (Value × Value) → List String
  | [] => []
  | (k, v) :: rest => (k.shown ++ ": " ++ v.shown) :: Value.shownEntries rest

end

mutual

/-- Is a value written out? -/
def Value.isWritable : Value → Bool
  | .number n => n.isWritable
  | .list items => Value.areWritable items
  | .pair k v => k.isWritable && v.isWritable
  | .set members => Value.areWritable members
  | .mapping entries => Value.areWritableEntries entries
  | _ => true

/-- Are several values all written out? -/
def Value.areWritable : List Value → Bool
  | [] => true
  | v :: rest => v.isWritable && Value.areWritable rest

/-- Are the keys and the values of some entries all written out? -/
def Value.areWritableEntries : List (Value × Value) → Bool
  | [] => true
  | (k, v) :: rest => k.isWritable && v.isWritable && Value.areWritableEntries rest

end

/-- A value as it reads on its own. -/
def Value.plain : Value → String
  | .text s => s
  | .date d => d.plain
  | .timestamp t => t.plain
  | v => v.shown

end BodyLength
