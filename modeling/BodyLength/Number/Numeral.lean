import BodyLength.Number.Reading
import BodyLength.Text.WordChars

/-!
# Numerals

Wherever a text is read as an integer it may have blanks around it, a sign, the mark of its base, and single
underscores between its digits, and the digits may be those of any script.

Turning decimal digits into an integer, or back, takes more than linear time, so there is a number of digits from
which on it is refused. It is refused before anything that stands behind the digits is looked at. A base that is a
power of two has no such bound.
-/

namespace BodyLength

/-! ## Digits without bound -/

/-- The most decimal digits that an integer is read from or written with. -/
def maxIntegerDigits : Nat := 4300

/-- What is said about an integer with more digits. Later releases name the unit of the limit as well. -/
def integerLimitText (detail : String) : String :=
  "Exceeds the limit (" ++ toString maxIntegerDigits ++ ") for integer string conversion" ++ detail ++
    "; use sys.set_int_max_str_digits() to increase the limit"

/-! ## One alphabet -/

/-- The value of a decimal digit of any script. Each script has its ten digits in a row, from zero on. -/
def decimalDigit? (c : Char) : Option Nat :=
  (decimalChars.ranges.toList.find? fun r => decide (r.1 ≤ c.toNat) && decide (c.toNat ≤ r.2)).map fun r =>
    (c.toNat - r.1) % 10

/-- The character as numerals have it: a blank is a space, a digit the one of ASCII, and what else is beyond ASCII
stands for nothing. -/
def numeralChar (c : Char) : Char :=
  if c.toNat < 127 then c
  else if isBlank c then ' '
  else
    match decimalDigit? c with
    | some d => Char.ofNat (48 + d)
    | none => '?'

/-- The text as numerals have it, without the blanks around it. -/
def numeralText (cs : List Char) : List Char :=
  (((cs.map numeralChar).dropWhile isAsciiBlank).reverse.dropWhile isAsciiBlank).reverse

/-! ## Integers -/

/-- Why a text is no integer. -/
inductive NumeralFault where
  | misspelt
  /-- There are too many digits. -/
  | tooLong (digits : Nat)
deriving DecidableEq, Repr

/-- Are some characters the mark of a base? -/
def isBaseMark (base : Nat) (cs : List Char) : Bool :=
  (base = 2 && (cs == ['0', 'b'] || cs == ['0', 'B'])) ||
    (base = 8 && (cs == ['0', 'o'] || cs == ['0', 'O'])) ||
    (base = 16 && (cs == ['0', 'x'] || cs == ['0', 'X']))

/-- The digits without the mark of their base, behind which an underscore may stand. -/
def withoutBaseMark (base : Nat) (cs : List Char) : List Char :=
  if isBaseMark base (cs.take 2) then
    match cs.drop 2 with
    | '_' :: digits => digits
    | digits => digits
  else cs

/-- Is the base a power of two? -/
def isBinaryBase (base : Nat) : Bool :=
  Nat.pow 2 base.log2 == base

/-- Do underscores stand singly and between digits only? -/
def hasSingleUnderscores (cs : List Char) : Bool :=
  (splitAtChar '_' cs).all (!·.isEmpty)

/-- The integer that a text denotes in a base. -/
def integerOfText (base : Nat) (cs : List Char) : Except NumeralFault Int :=
  let (isNegative, unsigned) := takeSign (numeralText cs)
  let body := withoutBaseMark base unsigned
  let run := body.takeWhile (isBaseDigit base)
  let digits := run.filter (· != '_')
  if !hasSingleUnderscores run then .error .misspelt
  else if !isBinaryBase base && decide (maxIntegerDigits < digits.length) then .error (.tooLong digits.length)
  else if run.length < body.length then .error .misspelt
  else
    let n : Int := ofDigits base digits
    .ok (if isNegative then -n else n)

end BodyLength
