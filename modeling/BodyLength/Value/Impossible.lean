import BodyLength.Value.Display

/-!
# Values that there are none of

A configuration file may be well written and still ask for a value that does not exist: the thirtieth of
February, a number that is marked as one but is spelled with other characters, a distance from universal time
of more than a day. Reading such a file ends there, and `ImpossibleValue` says why. An integer with too many digits
is of the same kind, and the only one that a JSON document can ask for.
-/

namespace BodyLength

/-- Why a value is impossible. -/
inductive ImpossibleValue where
  | year (found : Nat)
  | month
  | day
  | hour
  | minute
  | second
  /-- A distance from universal time, in seconds. -/
  | offset (seconds : Int)
  /-- A text that is marked as a date and is none. -/
  | notDate
  /-- A text that is no integer in a base. -/
  | notWhole (text : String) (base : Nat)
  /-- An integer with too many digits. -/
  | longInteger (digits : Nat)
  /-- A text that is no fraction. -/
  | notFraction (text : String)
  /-- A text without any characters that is marked as a number. -/
  | emptyNumber
  /-- A text that is marked as a truth value and is none. -/
  | notTruthValue (text : String)
  /-- A character beyond the last one. -/
  | codePoint
  /-- A character so far beyond the last one that its number cannot even be held. -/
  | hugeCodePoint
deriving DecidableEq, Repr

namespace ImpossibleValue

/-- The name of the class of a cause. -/
def typeName : ImpossibleValue → String
  | notDate => "AttributeError"
  | emptyNumber => "IndexError"
  | notTruthValue _ => "KeyError"
  | hugeCodePoint => "OverflowError"
  | _ => "ValueError"

/-- The number of characters that are quoted of a text that is no integer. -/
def quotedSize : Nat := 200

/-- The wording of a cause. -/
def message : ImpossibleValue → String
  | year found => "year " ++ toString found ++ " is out of range"
  | month => "month must be in 1..12"
  | day => "day is out of range for month"
  | hour => "hour must be in 0..23"
  | minute => "minute must be in 0..59"
  | second => "second must be in 0..59"
  | offset seconds =>
    "offset must be a timedelta strictly between -timedelta(hours=24) and timedelta(hours=24), not " ++
      Timestamp.shownSpan seconds ++ "."
  | notDate => "'NoneType' object has no attribute 'groupdict'"
  | notWhole text base =>
    "invalid literal for int() with base " ++ toString base ++ ": " ++
      String.ofList ((quoted text).toList.take quotedSize)
  | longInteger digits => integerLimitText (": value has " ++ toString digits ++ " digits")
  | notFraction text => "could not convert string to float: " ++ quoted text
  | emptyNumber => "string index out of range"
  | notTruthValue text => quoted text
  | codePoint => "chr() arg not in range(0x110000)"
  | hugeCodePoint => "Python int too large to convert to C int"

end ImpossibleValue

/-! ## Dates that exist -/

/-- Does a year have a twenty-ninth of February? -/
def isLeapYear (year : Nat) : Bool :=
  year % 4 == 0 && (year % 100 != 0 || year % 400 == 0)

/-- The number of days of a month. -/
def daysOfMonth (year month : Nat) : Nat :=
  if month = 2 then if isLeapYear year then 29 else 28
  else if month = 4 || month = 6 || month = 9 || month = 11 then 30
  else 31

/-- The day with a year, a month and a day, if there is one. -/
def CalendarDate.check (year month day : Nat) : Except ImpossibleValue CalendarDate :=
  if year < 1 || 9999 < year then .error (.year year)
  else if month < 1 || 12 < month then .error .month
  else if day < 1 || daysOfMonth year month < day then .error .day
  else .ok ⟨year, month, day⟩

/-- The moment of a day with an hour, a minute and a second, if there is one. The distance from universal
time comes first, because it is settled before the moment is. -/
def Timestamp.check (offset : Option Int) (year month day hour minute second microsecond : Nat) :
    Except ImpossibleValue Timestamp :=
  match offset.filter fun seconds => decide (Timestamp.daySeconds ≤ seconds.natAbs) with
  | some seconds => .error (.offset seconds)
  | none => do
    let date ← CalendarDate.check year month day
    if 23 < hour then .error .hour
    else if 59 < minute then .error .minute
    else if 59 < second then .error .second
    else .ok ⟨date, hour, minute, second, microsecond, offset⟩

end BodyLength
