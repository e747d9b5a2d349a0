import BodyLength.Text.LetterCase

/-!
# Letters that are the same when case does not count

Two letters are the same when case does not count if they have the same lower-case letter, or if their
lower-case letters have the same upper-case letter. The second happens for few letters, which the table
below lists group by group. Within ASCII only the first counts, and only for the letters of ASCII.
-/

namespace BodyLength

/-- The groups of lower-case letters with the same upper-case letter. -/
def sharedUpperCase : List (List Char) :=
  (["69.131 73.17F B5.3BC 345.3B9.1FBE 390.1FD3 3B0.1FE3 3B2.3D0 3B5.3F5 3B8.3D1 3BA.3F0",
    "3C0.3D6 3C1.3F1 3C2.3C3 3C6.3D5 432.1C80 434.1C81 43E.1C82 441.1C83 442.1C84.1C85",
    "44A.1C86 463.1C87 1C88.A64B 1E61.1E9B FB05.FB06"].flatMap blankSeparated).map fun group =>
    (splitAtChar '.' group).map fun code => Char.ofNat (ofHex code)

/-- The lower-case letters that are the same as one of them when case does not count, itself included. -/
def caseEquivalents (c : Char) : List Char :=
  (sharedUpperCase.find? (·.contains c)).getD [c]

/-- The lower-case letter of a letter, of ASCII only if asked for. -/
def foldedCase (ascii : Bool) (c : Char) : Char :=
  if ascii then c.toLower else lowerCase c

/-- Does the character have another case, within ASCII only if asked for? -/
def hasCase (ascii : Bool) (c : Char) : Bool :=
  if ascii then c.isAlpha else isCased c

/-- The lower-case letters that count as the same as a character. -/
def foldedCases (ascii : Bool) (c : Char) : List Char :=
  if ascii then [c.toLower] else caseEquivalents (lowerCase c)

/-- The characters whose lower-case letter is the given one. -/
def unfoldedCases (ascii : Bool) (c : Char) : List Char :=
  let others := if ascii then [] else lowerCaseTable.entries.toList.filterMap fun e =>
    if e.2.2 == [c.toNat] && e.1 == e.2.1 then some (Char.ofNat e.1) else none
  let itself := if foldedCase ascii c == c then [c] else []
  let upper := if c.isLower then [c.toUpper] else []
  itself ++ upper ++ others

end BodyLength
