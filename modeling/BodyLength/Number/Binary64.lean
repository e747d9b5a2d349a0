/-!
# Binary floating-point numbers as data

A limit may be written as a decimal fraction, and such a fraction is kept in the usual 64-bit
binary format. Nothing here uses machine arithmetic: a `Binary64` is a sign, a significand and an
exponent, so that comparing, rounding and printing are exact arithmetic on natural numbers and can
be reasoned about.

* `ofRatio` is the format's rounding: the nearest representable number, a tie going to the even
  significand, numbers past the largest one becoming infinite.
* `ratio?` is the exact value of a finite number.
* `compareInt?` compares a number with an integer without rounding either.
-/

namespace BodyLength

/-! ## Rounding a quotient -/

/-- The natural number nearest to `num / den`, a tie going to the even one. -/
def roundDiv (num den : Nat) : Nat :=
  let q := num / den
  let r := num % den
  if 2 * r < den then q
  else if 2 * r > den then q + 1
  else if q % 2 = 0 then q else q + 1

/-! ## The numbers -/

/-- A 64-bit binary floating-point number. A finite one is its significand times two to the
exponent; `ofRatio` keeps the significand below 2 ^ 53 and, unless the exponent is the least one,
not below 2 ^ 52. -/
inductive Binary64 where
  /-- No number. -/
  | nan
  /-- Larger or smaller than every number. -/
  | infinite (negative : Bool)
  /-- A number, zero of either sign included. -/
  | finite (negative : Bool) (significand : Nat) (exponent : Int)
deriving DecidableEq, Repr, Inhabited

namespace Binary64

/-- The exponent of the smallest positive number. -/
def leastExponent : Int := -1074

/-- The exponent of the largest finite number. -/
def greatestExponent : Int := 971

/-- Zero of either sign. -/
def zero (negative : Bool) : Binary64 :=
  .finite negative 0 leastExponent

/-- The significand of `num / den` at an exponent, rounded. -/
def significandAt (num den : Nat) (exponent : Int) : Nat :=
  if exponent < 0 then roundDiv (num * Nat.pow 2 exponent.natAbs) den
  else roundDiv num (den * Nat.pow 2 exponent.natAbs)

/-- Is `num / den` at least two to the `power`? -/
def atLeastPow (num den : Nat) (power : Int) : Bool :=
  if power < 0 then den ≤ num * Nat.pow 2 power.natAbs else den * Nat.pow 2 power.natAbs ≤ num

/-- The number nearest to `num / den` with the given sign, a tie going to the even significand. -/
def ofRatio (negative : Bool) (num den : Nat) : Binary64 :=
  if num = 0 then zero negative
  else
    let estimate : Int := (num.log2 : Int) - (den.log2 : Int)
    let magnitude := if atLeastPow num den estimate then estimate else estimate - 1
    let exponent := max leastExponent (magnitude - 52)
    let significand := significandAt num den exponent
    let (significand, exponent) :=
      if significand = Nat.pow 2 53 then (Nat.pow 2 52, exponent + 1) else (significand, exponent)
    if exponent > greatestExponent then .infinite negative
    else .finite negative significand exponent

/-- The exact value of a finite number as a sign, a numerator and a denominator. -/
def ratio? : Binary64 → Option (Bool × Nat × Nat)
  | nan => none
  | infinite _ => none
  | finite negative significand exponent =>
    if exponent < 0 then some (negative, significand, Nat.pow 2 exponent.natAbs)
    else some (negative, significand * Nat.pow 2 exponent.natAbs, 1)

/-- Is the number zero, of either sign? -/
def isZero : Binary64 → Bool
  | finite _ significand _ => significand == 0
  | _ => false

/-- The sign, which a zero and an infinity have too. -/
def isNegative : Binary64 → Bool
  | nan => false
  | infinite negative => negative
  | finite negative _ _ => negative

/-- The same number with the other sign. -/
def neg : Binary64 → Binary64
  | nan => nan
  | infinite negative => infinite !negative
  | finite negative significand exponent => finite (!negative) significand exponent

/-- The integer that a finite number is equal to, if it is a whole number. -/
def whole? (x : Binary64) : Option Int :=
  match x.ratio? with
  | none => none
  | some (negative, num, den) =>
    if num % den = 0 then
      some (if negative then -((num / den : Nat) : Int) else ((num / den : Nat) : Int))
    else none

/-! ## Comparing with integers -/

/-- How an integer compares with a number; nothing compares with what is no number. -/
def compareInt? (n : Int) (x : Binary64) : Option Ordering :=
  match x with
  | nan => none
  | infinite negative => some (if negative then .gt else .lt)
  | finite negative significand exponent =>
    let signed : Int := if negative then -(significand : Int) else significand
    if exponent < 0 then some (compare (n * Nat.pow 2 exponent.natAbs) signed)
    else some (compare n (signed * Nat.pow 2 exponent.natAbs))

/-- Are the two equal as numbers? Zeros of both signs are, and what is no number equals nothing. -/
def sameNumber (x y : Binary64) : Bool :=
  match x, y with
  | nan, _ => false
  | _, nan => false
  | infinite a, infinite b => a == b
  | finite a s e, finite b t f => (s == 0 && t == 0) || (a == b && s == t && e == f)
  | _, _ => false

/-! ## Arithmetic -/

/-- The sum of two finite numbers, rounded; an exact zero is positive. -/
def add (x y : Binary64) : Binary64 :=
  match x.ratio?, y.ratio? with
  | some (s, a, b), some (t, c, d) =>
    let left : Int := if s then -((a * d : Nat) : Int) else ((a * d : Nat) : Int)
    let right : Int := if t then -((c * b : Nat) : Int) else ((c * b : Nat) : Int)
    let total := left + right
    ofRatio (if total = 0 then s && t else decide (total < 0)) total.natAbs (b * d)
  | none, some _ => x
  | some _, none => y
  | none, none => if x = y then x else nan

/-- The product of a finite number and a natural number, rounded. -/
def mulNat (x : Binary64) (n : Nat) : Binary64 :=
  match x.ratio? with
  | some (negative, num, den) => ofRatio negative (num * n) den
  | none => x

end Binary64

end BodyLength
