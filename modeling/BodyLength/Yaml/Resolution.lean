import BodyLength.Number.Reading
import BodyLength.Value.Impossible

/-!
# What a plain scalar is

A plain scalar without a tag is what it looks like: nothing, a truth value, an integer in one of four bases or
in parts of sixty, a fraction, a date, one of two indicators inside mappings, or else a text. Only the exact
spellings count. An integer that begins with a zero is octal, an exponent needs a sign, and `yes` and `off` are
truth values.
-/

namespace BodyLength

/-! ## Tags -/

/-- The tag of a type that every reader knows. -/
def coreTag (name : String) : String :=
  "tag:yaml.org,2002:" ++ name

/-! ## Shapes of numbers -/

/-- Is the character a digit or an underscore? -/
def isDigitOrLine (c : Char) : Bool :=
  isAsciiDigit c || c == '_'

/-- A part of a number in parts of sixty: one digit, or two of which the first is below six. -/
def isSixtieth : List Char → Bool
  | [d] => isAsciiDigit d
  | [t, d] => '0' ≤ t && t ≤ '5' && isAsciiDigit d
  | _ => false

/-- The pieces of a text between colons. -/
def colonPieces : List Char → List (List Char)
  | [] => [[]]
  | c :: rest =>
    if c == ':' then [] :: colonPieces rest
    else
      match colonPieces rest with
      | [] => [[c]]
      | piece :: pieces => (c :: piece) :: pieces

/-- Digits and underscores, the first one being a digit that passes a test. -/
def isDigits (first : Char → Bool) : List Char → Bool
  | [] => false
  | c :: rest => first c && isAsciiDigit c && rest.all isDigitOrLine

/-- Parts of sixty behind a first part, at least one. -/
def isSexagesimal (first : Char → Bool) (cs : List Char) : Bool :=
  match colonPieces cs with
  | head :: part :: parts => isDigits first head && (part :: parts).all isSixtieth
  | _ => false

/-- Is the text that of an integer? -/
def isWholeText (cs : List Char) : Bool :=
  let unsigned := (takeSign cs).2
  match unsigned with
  | ['0'] => true
  | '0' :: 'b' :: digits => !digits.isEmpty && digits.all (isBaseDigit 2)
  | '0' :: 'x' :: digits => !digits.isEmpty && digits.all (isBaseDigit 16)
  | '0' :: digits => digits.all (isBaseDigit 8)
  | _ => isDigits (· != '0') unsigned || isSexagesimal (· != '0') unsigned

/-- Is the text empty or an exponent with a sign? -/
def isExponentText : List Char → Bool
  | [] => true
  | e :: sign :: digits =>
    (e == 'e' || e == 'E') && (sign == '-' || sign == '+') && !digits.isEmpty && digits.all isAsciiDigit
  | _ => false

/-- Is the text that of a point, digits and perhaps an exponent? -/
def isPointText (needsDigit : Bool) : List Char → Bool
  | '.' :: rest =>
    (!needsDigit || (rest.head?.map isAsciiDigit).getD false) &&
      isExponentText (rest.dropWhile isDigitOrLine)
  | _ => false

/-- Is the text that of a fraction? -/
def isFractionText (cs : List Char) : Bool :=
  let unsigned := (takeSign cs).2
  let whole := unsigned.takeWhile (· != '.')
  let rest := unsigned.dropWhile (· != '.')
  if whole.isEmpty then
    isPointText true cs || [".nan", ".NaN", ".NAN"].contains (String.ofList cs) ||
      [".inf", ".Inf", ".INF"].contains (String.ofList unsigned)
  else
    (isDigits (fun _ => true) whole && isPointText false rest) ||
      (isSexagesimal (fun _ => true) whole &&
        (match rest with
          | '.' :: digits => digits.all isDigitOrLine
          | _ => false))

/-! ## Dates -/

/-- The time of day of a date. -/
structure WrittenTime where
  hour : Nat
  minute : Nat
  second : Nat
  /-- The digits behind the point. -/
  fraction : List Char
  /-- The distance from universal time in seconds, if one is written. -/
  offset : Option Int

/-- A date as it is written. -/
structure WrittenDate where
  year : Nat
  month : Nat
  day : Nat
  /-- Have month and day two digits each? -/
  isPadded : Bool
  time : Option WrittenTime

/-- Takes so many digits off, not more than `most` and not fewer than `least`. -/
def takeDigits (least most : Nat) (cs : List Char) : Option (List Char × List Char) :=
  let digits := (cs.take most).takeWhile isAsciiDigit
  if digits.length < least then none else some (digits, cs.drop digits.length)

/-- Takes a character off. -/
def takeChar (c : Char) : List Char → Option (List Char)
  | [] => none
  | d :: rest => if d == c then some rest else none

/-- Takes the distance from universal time off, which has to use the text up. -/
def zoneOf? (cs : List Char) : Option (Option Int) :=
  let trimmed := cs.dropWhile fun c => c == ' ' || c == '\t'
  match trimmed with
  | [] => if cs.isEmpty then some none else none
  | ['Z'] => some (some 0)
  | sign :: rest => do
    if sign != '-' && sign != '+' then none
    let (hours, rest) ← takeDigits 1 2 rest
    let (minutes, rest) ← match rest with
      | [] => some ([], [])
      | _ => do
        let rest ← takeChar ':' rest
        takeDigits 2 2 rest
    if !rest.isEmpty then none
    let seconds : Int := ofDigits 10 hours * 3600 + ofDigits 10 minutes * 60
    some (some (if sign == '-' then -seconds else seconds))

/-- The time of day behind a date, which has to use the text up. -/
def timeOf? (cs : List Char) : Option WrittenTime := do
  let cs ← match cs with
    | 'T' :: rest => some rest
    | 't' :: rest => some rest
    | ' ' :: _ => some (cs.dropWhile fun c => c == ' ' || c == '\t')
    | '\t' :: _ => some (cs.dropWhile fun c => c == ' ' || c == '\t')
    | _ => none
  let (hour, cs) ← takeDigits 1 2 cs
  let cs ← takeChar ':' cs
  let (minute, cs) ← takeDigits 2 2 cs
  let cs ← takeChar ':' cs
  let (second, cs) ← takeDigits 2 2 cs
  let (fraction, cs) := match cs with
    | '.' :: rest => (rest.takeWhile isAsciiDigit, rest.dropWhile isAsciiDigit)
    | _ => ([], cs)
  let offset ← zoneOf? cs
  some ⟨ofDigits 10 hour, ofDigits 10 minute, ofDigits 10 second, fraction, offset⟩

/-- The date that a text is. -/
def WrittenDate.ofChars? (cs : List Char) : Option WrittenDate := do
  let (year, cs) ← takeDigits 4 4 cs
  let cs ← takeChar '-' cs
  let (month, cs) ← takeDigits 1 2 cs
  let cs ← takeChar '-' cs
  let (day, cs) ← takeDigits 1 2 cs
  let isPadded := month.length = 2 && day.length = 2
  if cs.isEmpty then
    some ⟨ofDigits 10 year, ofDigits 10 month, ofDigits 10 day, isPadded, none⟩
  else
    let time ← timeOf? cs
    some ⟨ofDigits 10 year, ofDigits 10 month, ofDigits 10 day, isPadded, some time⟩

/-- Is the text that of a date? Without a time of day, month and day need two digits. -/
def isDateText (cs : List Char) : Bool :=
  match WrittenDate.ofChars? cs with
  | none => false
  | some d => d.time.isSome || d.isPadded

/-! ## Words -/

/-- The spellings of truth values. -/
def truthWords : List String :=
  ["yes", "Yes", "YES", "no", "No", "NO", "true", "True", "TRUE", "false", "False", "FALSE", "on", "On",
    "ON", "off", "Off", "OFF"]

/-- The spellings of nothing. -/
def nullWords : List String :=
  ["~", "null", "Null", "NULL", ""]

/-- The tag that a plain scalar has by its text. -/
def plainTag (text : String) : String :=
  let cs := text.toList
  if truthWords.contains text then coreTag "bool"
  else if isFractionText cs then coreTag "float"
  else if isWholeText cs then coreTag "int"
  else if text == "<<" then coreTag "merge"
  else if nullWords.contains text then coreTag "null"
  else if isDateText cs then coreTag "timestamp"
  else if text == "=" then coreTag "value"
  else coreTag "str"

/-- The tag that a text has if it may be anything. A line end behind it does not count. -/
def impliedTag (text : String) : String :=
  let cs := text.toList
  if cs.length > 1 && cs.getLast? == some '\n' then plainTag (String.ofList cs.dropLast) else plainTag text

end BodyLength
