import BodyLength.Number.Numeral
import BodyLength.Text.LetterCase
import BodyLength.Value.Base64
import BodyLength.Yaml.Resolution

/-!
# The values of scalars

The tag of a scalar says how its text is to be understood. For a plain scalar the tag follows from the text, so
the two fit together; where a tag is written, the text may be anything, and it is an error if it cannot be
understood in that way. Underscores inside numbers are left out.
-/

namespace BodyLength

/-! ## Numbers -/

/-- The impossible value that a text which is no integer asks for. -/
def ImpossibleValue.ofNumeral (base : Nat) (cs : List Char) : NumeralFault → ImpossibleValue
  | .misspelt => .notWhole (String.ofList cs) base
  | .tooLong digits => .longInteger digits

/-- The integer that digits in a base denote. -/
def wholeInBase (base : Nat) (cs : List Char) : Except ImpossibleValue Int :=
  (integerOfText base cs).mapError (.ofNumeral base cs)

/-- The integer whose parts of sixty are given. -/
def wholeOfParts (parts : List Int) : Int :=
  parts.foldl (fun n part => n * 60 + part) 0

/-- The integer that the text of an unsigned number denotes. -/
def unsignedWhole (cs : List Char) : Except ImpossibleValue Int :=
  match cs with
  | [] => .error .emptyNumber
  | ['0'] => .ok 0
  | '0' :: 'b' :: digits => wholeInBase 2 digits
  | '0' :: 'x' :: digits => wholeInBase 16 digits
  | '0' :: _ => wholeInBase 8 cs
  | _ =>
    if cs.contains ':' then ((colonPieces cs).mapM (wholeInBase 10)).map wholeOfParts
    else wholeInBase 10 cs

/-- The integer that a text denotes. -/
def wholeOfText (text : String) : Except ImpossibleValue Int := do
  let (negative, unsigned) := takeSign (text.toList.filter (· != '_'))
  let n ← unsignedWhole unsigned
  .ok (if negative then -n else n)

/-- The fraction that digits denote, perhaps with blanks around. -/
def fractionOfChars (cs : List Char) : Except ImpossibleValue Binary64 :=
  match Binary64.ofText? (String.ofList (numeralText cs)) with
  | some x => .ok x
  | none => .error (.notFraction (String.ofList cs))

/-- The fraction whose parts of sixty are given, the last one first, of which the first one counts for `unit`. -/
def fractionOfParts (unit : Nat) (sum : Binary64) : List Binary64 → Binary64
  | [] => sum
  | part :: parts => fractionOfParts (unit * 60) (sum.add (part.mulNat unit)) parts

/-- The fraction that the text of an unsigned number denotes. -/
def unsignedFraction (cs : List Char) : Except ImpossibleValue Binary64 :=
  if cs == ".inf".toList then .ok (.infinite false)
  else if cs == ".nan".toList then .ok .nan
  else if cs.contains ':' then do
    let parts ← (colonPieces cs).mapM fractionOfChars
    .ok (fractionOfParts 1 (.zero false) parts.reverse)
  else fractionOfChars cs

/-- The fraction that a text denotes. -/
def fractionOfText (text : String) : Except ImpossibleValue Binary64 := do
  let cs := (text.toList.filter (· != '_')).map lowerCase
  if cs.isEmpty then .error .emptyNumber
  else
    let (negative, unsigned) := takeSign cs
    let x ← unsignedFraction unsigned
    .ok (if negative then x.neg else x)

/-! ## Other values -/

/-- The truth value that a text denotes. -/
def truthOfText (text : String) : Except ImpossibleValue Bool :=
  let word := String.ofList (text.toList.map lowerCase)
  if ["yes", "true", "on"].contains word then .ok true
  else if ["no", "false", "off"].contains word then .ok false
  else .error (.notTruthValue word)

/-- The number of millionths of a second that the digits behind a point denote. Further digits are left out. -/
def millionths (digits : List Char) : Nat :=
  let kept := digits.take 6
  ofDigits 10 (kept ++ List.replicate (6 - kept.length) '0')

/-- The date that a text denotes, or the moment if it has a time of day. -/
def dateOfText (text : String) : Except ImpossibleValue Value :=
  match WrittenDate.ofChars? text.toList with
  | none => .error .notDate
  | some d =>
    match d.time with
    | none => (CalendarDate.check d.year d.month d.day).map .date
    | some t =>
      (Timestamp.check t.offset d.year d.month d.day t.hour t.minute t.second
        (millionths t.fraction)).map .timestamp

/-- The first run of characters beyond ASCII: where it begins and how long it is. -/
def beyondAscii? (cs : List Char) : Option (Nat × List Char) :=
  let before := cs.takeWhile fun c => c.toNat < 128
  let run := (cs.drop before.length).takeWhile fun c => 128 ≤ c.toNat
  if run.isEmpty then none else some (before.length, run)

/-- The wording of a run of characters beyond ASCII. -/
def beyondAsciiMessage (start : Nat) (run : List Char) : String :=
  (match run with
    | [c] =>
      "'ascii' codec can't encode character '" ++ codePointEscape c.toNat ++ "' in position " ++ toString start
    | _ =>
      "'ascii' codec can't encode characters in position " ++ toString start ++ "-" ++
        toString (start + run.length - 1)) ++ ": ordinal not in range(128)"

end BodyLength
