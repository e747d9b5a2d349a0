import BodyLength.Number.Binary64

/-!
# Reading numbers

Numbers reach the program as digits in some base, and as decimals with an optional fraction and an
optional power of ten. A decimal is read exactly and rounded once. Its exponent may be far larger
than any floating-point number needs, so a decimal that is certain to be infinite or zero is settled
by its order of magnitude before any power is computed.
-/

namespace BodyLength

/-! ## Digits -/

/-- The value of a digit up to `z`, letters of either case counting from ten. -/
def digitValue? (c : Char) : Option Nat :=
  if '0' ≤ c && c ≤ '9' then some (c.toNat - 48)
  else if 'a' ≤ c && c ≤ 'z' then some (c.toNat - 87)
  else if 'A' ≤ c && c ≤ 'Z' then some (c.toNat - 55)
  else none

/-- Is the character a decimal digit of the ASCII range? -/
def isAsciiDigit (c : Char) : Bool :=
  '0' ≤ c && c ≤ '9'

/-- Is the character a digit of a base, or an underscore? -/
def isBaseDigit (base : Nat) (c : Char) : Bool :=
  c == '_' || (match digitValue? c with
    | some d => decide (d < base)
    | none => false)

/-- The number that digits denote in a base; characters that are no digits are skipped. -/
def ofDigits (base : Nat) (cs : List Char) : Nat :=
  cs.foldl (fun n c => match digitValue? c with
    | some d => n * base + d
    | none => n) 0

/-! ## Decimals -/

/-- The number nearest to `digits * 10 ^ exponent`, with the given sign. -/
def Binary64.ofDecimal (negative : Bool) (digits : Nat) (exponent : Int) : Binary64 :=
  if digits = 0 then zero negative
  else
    let magnitude := ((Nat.toDigits 10 digits).length : Int) + exponent
    if magnitude > 400 then .infinite negative
    else if magnitude < -400 then zero negative
    else if exponent < 0 then ofRatio negative digits (Nat.pow 10 exponent.natAbs)
    else ofRatio negative (digits * Nat.pow 10 exponent.natAbs) 1

/-- A decimal as it is written: a sign, digits before and after the point, and an exponent. -/
structure DecimalText where
  /-- Was a minus sign written? -/
  negative : Bool
  /-- The digits before the point. -/
  whole : List Char
  /-- The digits after the point. -/
  fraction : List Char
  /-- The exponent. -/
  exponent : Int

/-- The number nearest to a written decimal. -/
def DecimalText.value (d : DecimalText) : Binary64 :=
  Binary64.ofDecimal d.negative (ofDigits 10 (d.whole ++ d.fraction))
    (d.exponent - d.fraction.length)

/-- Splits a sign off. -/
def takeSign : List Char → Bool × List Char
  | '-' :: rest => (true, rest)
  | '+' :: rest => (false, rest)
  | cs => (false, cs)

/-- The exponent after its letter, which must use the text up. -/
def exponentOf? (cs : List Char) : Option Int :=
  let (negative, digits) := takeSign cs
  if digits.isEmpty || !digits.all isAsciiDigit then none
  else
    let n : Int := ofDigits 10 digits
    some (if negative then -n else n)

/-- Reads a decimal that uses the text up. A digit is needed on one side of the point at least. -/
def DecimalText.ofChars? (cs : List Char) : Option DecimalText :=
  let (negative, cs) := takeSign cs
  let whole := cs.takeWhile isAsciiDigit
  let rest := cs.dropWhile isAsciiDigit
  let (fraction, rest) := match rest with
    | '.' :: after => (after.takeWhile isAsciiDigit, after.dropWhile isAsciiDigit)
    | _ => ([], rest)
  if whole.isEmpty && fraction.isEmpty then none
  else match rest with
    | [] => some ⟨negative, whole, fraction, 0⟩
    | e :: after =>
      if e == 'e' || e == 'E' then
        (exponentOf? after).map fun exponent => ⟨negative, whole, fraction, exponent⟩
      else none

/-- Reads a floating-point number: a decimal, or the name of an infinity or of no number. -/
def Binary64.ofText? (text : String) : Option Binary64 :=
  let (negative, name) := takeSign text.toList
  match (String.ofList name).toLower with
  | "nan" => some .nan
  | "inf" => some (.infinite negative)
  | "infinity" => some (.infinite negative)
  | _ => (DecimalText.ofChars? text.toList).map DecimalText.value

end BodyLength
