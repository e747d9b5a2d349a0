/-!
# Tables of characters

Properties that a standard lists character by character are kept as tables. A table is written as
text, because its ranges are then readable next to the standard's own lists: hexadecimal code points,
a range as two of them joined by a hyphen, entries separated by blanks. `CharSet` holds the ranges of
a property, `CharMap` a number or a sequence of characters for each listed one.

Both are searched by halving, so their entries stand in increasing order. The search takes the number
of its steps as an argument and needs no more than the size of the table has binary digits.
-/

namespace BodyLength

/-! ## Reading the text of a table -/

/-- The value of a hexadecimal digit; other characters count as zero. -/
def hexValue (c : Char) : Nat :=
  if '0' ≤ c && c ≤ '9' then c.toNat - 48
  else if 'A' ≤ c && c ≤ 'F' then c.toNat - 55
  else if 'a' ≤ c && c ≤ 'f' then c.toNat - 87
  else 0

/-- The number that hexadecimal digits denote. -/
def ofHex (cs : List Char) : Nat :=
  cs.foldl (fun n c => n * 16 + hexValue c) 0

/-- Splits a text at each occurrence of a character. -/
def splitAtChar (sep : Char) : List Char → List (List Char)
  | [] => [[]]
  | c :: rest =>
    if c == sep then [] :: splitAtChar sep rest
    else match splitAtChar sep rest with
      | [] => [[c]]
      | part :: parts => (c :: part) :: parts

/-- The parts of a text between its blanks. -/
def blankSeparated (text : String) : List (List Char) :=
  (splitAtChar ' ' text.toList).filter (!·.isEmpty)

/-- A code point, or two joined by a hyphen, as a range with both ends. -/
def rangeOfChars (cs : List Char) : Nat × Nat :=
  match splitAtChar '-' cs with
  | [low] => (ofHex low, ofHex low)
  | low :: high :: _ => (ofHex low, ofHex high)
  | [] => (0, 0)

/-! ## Sets -/

/-- The ranges of code points that have a property, in increasing order. -/
structure CharSet where
  /-- First and last code point of each range. -/
  ranges : Array (Nat × Nat)

namespace CharSet

/-- Reads a table of ranges. -/
def ofLines (lines : List String) : CharSet :=
  ⟨((lines.flatMap blankSeparated).map rangeOfChars).toArray⟩

/-- Looks a code point up among the ranges from `low` up to and without `high`. -/
def search (ranges : Array (Nat × Nat)) (code : Nat) : Nat → Nat → Nat → Bool
  | 0, _, _ => false
  | steps + 1, low, high =>
    if high ≤ low then false
    else
      let middle := (low + high) / 2
      match ranges[middle]? with
      | none => false
      | some (first, last) =>
        if code < first then search ranges code steps low middle
        else if last < code then search ranges code steps (middle + 1) high
        else true

/-- Does the character have the property? -/
def contains (s : CharSet) (c : Char) : Bool :=
  search s.ranges c.toNat (s.ranges.size.log2 + 2) 0 s.ranges.size

end CharSet

/-! ## Maps -/

/-- The values of ranges of code points, in increasing order. -/
structure CharMap where
  /-- First and last code point of each range, and the value of its members. -/
  entries : Array (Nat × Nat × List Nat)

namespace CharMap

/-- One entry of a table: a range, an equals sign and code points separated by points. -/
def entryOfChars (cs : List Char) : Nat × Nat × List Nat :=
  match splitAtChar '=' cs with
  | key :: value :: _ =>
    let (first, last) := rangeOfChars key
    (first, last, (splitAtChar '.' value).map ofHex)
  | _ => (0, 0, [])

/-- Reads a table of values. -/
def ofLines (lines : List String) : CharMap :=
  ⟨((lines.flatMap blankSeparated).map entryOfChars).toArray⟩

/-- Looks a code point up among the entries from `low` up to and without `high`. -/
def search (entries : Array (Nat × Nat × List Nat)) (code : Nat) :
    Nat → Nat → Nat → Option (List Nat)
  | 0, _, _ => none
  | steps + 1, low, high =>
    if high ≤ low then none
    else
      let middle := (low + high) / 2
      match entries[middle]? with
      | none => none
      | some (first, last, value) =>
        if code < first then search entries code steps low middle
        else if last < code then search entries code steps (middle + 1) high
        else some value

/-- The value that the table gives to a character. -/
def find? (m : CharMap) (c : Char) : Option (List Nat) :=
  search m.entries c.toNat (m.entries.size.log2 + 2) 0 m.entries.size

end CharMap

end BodyLength
