import BodyLength.Number.Binary64

/-!
# The shortest decimal text of a floating-point number

A floating-point number stands for every real number that rounds to it, an interval around it whose
ends belong to it exactly when its significand is even. Its text is the decimal with the fewest
digits inside that interval, and of several such decimals the one nearest to the number itself.

`shortest` looks for it on coarser and then finer decimal grids. On the grid of one, two, and up to
seventeen significant digits it tests the two grid points next to the number; the first grid with a
point in the interval wins. Everything is done on natural numbers. Distances are measured in quarters
of the unit of the last place, because the half-way points to the neighbours are then whole: they lie
two quarters away, or one quarter below a significand that is a power of two.

How the digits are laid out is a separate decision, made by `Layout`.
-/

namespace BodyLength

/-! ## Digits of a number -/

/-- A number as a whole number of powers of ten. -/
structure Decimal where
  /-- The digits, read as a natural number. -/
  digits : Nat
  /-- The power of ten that the last digit counts. -/
  exponent : Int
deriving DecidableEq, Repr

/-- How many decimal digits a natural number is written with. -/
def decimalWidth (n : Nat) : Nat :=
  (Nat.toDigits 10 n).length

namespace Shortest

/-- The real numbers that round to one floating-point number, as quarters of a unit over a common
denominator: a real number `r` is measured by `r * scale`. -/
structure Interval where
  /-- The number itself, measured. -/
  center : Nat
  /-- The lower end, measured. -/
  low : Nat
  /-- The upper end, measured. -/
  high : Nat
  /-- What one is measured as. -/
  scale : Nat
  /-- Do the ends belong to the interval? -/
  closed : Bool

/-- The interval of the positive number `significand * 2 ^ exponent`. -/
def interval (significand : Nat) (exponent : Int) : Interval :=
  let below := if significand = Nat.pow 2 52 && exponent > Binary64.leastExponent then 1 else 2
  let quarter := exponent - 2
  let unit := if quarter < 0 then 1 else Nat.pow 2 quarter.natAbs
  { center := 4 * significand * unit
    low := (4 * significand - below) * unit
    high := (4 * significand + 2) * unit
    scale := if quarter < 0 then Nat.pow 2 quarter.natAbs else 1
    closed := significand % 2 == 0 }

/-- The exponent of the first decimal digit of `num / den`. -/
def leadingPower (num den : Nat) : Int :=
  let guess : Int := (decimalWidth num : Int) - (decimalWidth den : Int)
  let reached :=
    if guess < 0 then den ≤ num * Nat.pow 10 guess.natAbs else den * Nat.pow 10 guess.natAbs ≤ num
  if reached then guess else guess - 1

/-- Is the measured number `x / unit` in the interval? -/
def Interval.holds (i : Interval) (x unit : Nat) : Bool :=
  if i.closed then i.low * unit ≤ x && x ≤ i.high * unit
  else i.low * unit < x && x < i.high * unit

/-- The point of the grid of step ten to the `power` that lies in the interval and is nearest to the
number, of the two next to it; of two equally near ones the one with an even last digit. -/
def gridPoint? (i : Interval) (power : Int) : Option Nat :=
  let unit := if power < 0 then Nat.pow 10 power.natAbs else 1
  let step := if power < 0 then i.scale else i.scale * Nat.pow 10 power.natAbs
  let below := i.center * unit / step
  let above := below + 1
  let hasBelow := i.holds (below * step) unit
  let hasAbove := i.holds (above * step) unit
  let toBelow := i.center * unit - below * step
  let toAbove := above * step - i.center * unit
  if hasBelow && hasAbove then
    if toBelow < toAbove then some below
    else if toAbove < toBelow then some above
    else if below % 2 = 0 then some below else some above
  else if hasBelow then some below
  else if hasAbove then some above
  else none

/-- The first grid with a point in the interval, starting with `count` significant digits. -/
def search (i : Interval) (leading : Int) : Nat → Nat → Decimal
  | 0, count =>
    let power := leading - count + 1
    let unit := if power < 0 then Nat.pow 10 power.natAbs else 1
    let step := if power < 0 then i.scale else i.scale * Nat.pow 10 power.natAbs
    ⟨roundDiv (i.center * unit) step, power⟩
  | more + 1, count =>
    let power := leading - count + 1
    match gridPoint? i power with
    | some digits => ⟨digits, power⟩
    | none => search i leading more (count + 1)

end Shortest

/-- The shortest decimal that rounds to the positive number `significand * 2 ^ exponent`. -/
def shortest (significand : Nat) (exponent : Int) : Decimal :=
  let i := Shortest.interval significand exponent
  Shortest.search i (Shortest.leadingPower i.center i.scale) 16 1

/-! ## Layout -/

/-- Which decimals are written with a point in place and which with a power of ten. -/
structure Layout where
  /-- The least exponent of a first digit that is still written in place. -/
  leastPositional : Int
  /-- The greatest exponent of a first digit that is still written in place. -/
  greatestPositional : Int
  /-- The least number of digits of a written exponent. -/
  exponentWidth : Nat

/-- Numbers from a ten-thousandth up to ten to the sixteenth are written in place, the others with a
signed exponent of at least two digits. -/
def Layout.standard : Layout :=
  ⟨-4, 15, 2⟩

/-- A natural number with leading zeros up to a width. -/
def zeroPadded (width n : Nat) : String :=
  let digits := Nat.toDigits 10 n
  String.ofList (List.replicate (width - digits.length) '0' ++ digits)

/-- A decimal exponent, with its sign. -/
def Layout.exponentText (layout : Layout) (e : Int) : String :=
  (if e < 0 then "-" else "+") ++ zeroPadded layout.exponentWidth e.natAbs

/-- A decimal with a point in place. -/
def positionalText (digits : List Char) (leading : Int) : String :=
  if leading < 0 then
    "0." ++ String.ofList (List.replicate (leading.natAbs - 1) '0' ++ digits)
  else
    let whole := leading.toNat + 1
    let filled := digits ++ List.replicate (whole - digits.length) '0'
    let fraction := filled.drop whole
    String.ofList (filled.take whole) ++ "." ++
      (if fraction.isEmpty then "0" else String.ofList fraction)

/-- A decimal as text, without zeros at its end. -/
def Layout.decimalText (layout : Layout) (d : Decimal) : String :=
  let all := Nat.toDigits 10 d.digits
  let leading := d.exponent + all.length - 1
  let kept := (all.reverse.dropWhile (· == '0')).reverse
  if layout.leastPositional ≤ leading && leading ≤ layout.greatestPositional then
    positionalText kept leading
  else
    match kept with
    | [] => "0.0"
    | first :: rest =>
      String.ofList (first :: (if rest.isEmpty then [] else '.' :: rest)) ++ "e" ++
        layout.exponentText leading

/-- The text of a floating-point number: the fewest digits that read back as it. -/
def Binary64.text : Binary64 → String
  | .nan => "nan"
  | .infinite negative => if negative then "-inf" else "inf"
  | .finite negative significand exponent =>
    (if negative then "-" else "") ++
      (if significand = 0 then "0.0"
       else Layout.standard.decimalText (shortest significand exponent))

end BodyLength
