import BodyLength.Text.WordChars

/-!
# Search patterns

A pattern decides which calls are exempt: it is looked for in the name of the called function. Patterns are
written in the usual notation of regular expressions with backtracking, that is with groups that can be
referred to, assertions about what stands before and behind, and repetitions that give back or keep what they
took.

Here is what a pattern is once it has been read. The flags that govern a part (whether case counts, whether a
point takes line ends, and so on) are kept with the parts that they matter for, so a part means the same
wherever it stands. Characters are code points, because a pattern may name one that is no character.
-/

namespace BodyLength

/-! ## Flags -/

/-- What governs the meaning of a part of a pattern. -/
structure PatternFlags where
  /-- Does the case of letters not count? -/
  ignoreCase : Bool
  /-- Do the marks for start and end mean every line? -/
  multiline : Bool
  /-- Does a point take line ends? -/
  dotAll : Bool
  /-- Are blanks and comments passed over? -/
  verbose : Bool
  /-- Do classes of characters know ASCII only? -/
  ascii : Bool
  /-- Are repetitions not allowed? -/
  template : Bool
deriving DecidableEq, Repr, Inhabited

/-! ## Parts -/

/-- A class of characters with a letter of its own. -/
inductive CharClass where
  | digit
  | blank
  | word
deriving DecidableEq, Repr

/-- Is the character in a class? -/
def CharClass.holds (ascii : Bool) (c : Char) : CharClass → Bool
  | digit => if ascii then '0' ≤ c && c ≤ '9' else isDecimal c
  | blank => if ascii then isAsciiBlank c else isBlank c
  | word => if ascii then isAsciiWord c else isWord c

/-- A member of a set of characters. -/
inductive SetItem where
  | code (n : Nat)
  | range (low high : Nat)
  | charClass (c : CharClass) (isNegated : Bool)
deriving DecidableEq, Repr

/-- A place that has to be met. -/
inductive Anchor where
  /-- The start of the text, or of a line. -/
  | lineStart
  /-- The end of the text, or of a line, or the last line end of the text. -/
  | lineEnd
  | textStart
  | textEnd
  | boundary
  | noBoundary
deriving DecidableEq, Repr

/-- How much a repetition takes, and whether it gives any of it back. -/
inductive Greed where
  | greedy
  | lazy
  | possessive
deriving DecidableEq, Repr

/-- A part of a pattern. -/
inductive PatternItem where
  | code (flags : PatternFlags) (n : Nat)
  | set (flags : PatternFlags) (isNegated : Bool) (items : List SetItem)
  | anything (flags : PatternFlags)
  | anchor (flags : PatternFlags) (place : Anchor)
  /-- What a group has taken, once more. -/
  | reference (flags : PatternFlags) (group : Nat)
  /-- Parts whose text is remembered for a group. -/
  | capture (group : Nat) (body : List PatternItem)
  /-- Parts in brackets. `isPlain` holds if the brackets change no flags. -/
  | group (isPlain : Bool) (body : List PatternItem)
  /-- Parts of which nothing is given back. -/
  | atomic (body : List PatternItem)
  /-- Parts that have to fit here, or must not, and of which nothing is taken. They are tried so many
  characters before. -/
  | assertion (lookBack : Option Nat) (isNegated : Bool) (body : List PatternItem)
  | choice (alternatives : List (List PatternItem))
  /-- Parts repeated at least and at most so many times. -/
  | repetition (flags : PatternFlags) (greed : Greed) (least : Nat) (most : Option Nat)
    (body : List PatternItem)
  /-- Parts for the case that a group has taken something, and for the case that it has not. -/
  | conditional (group : Nat) (yes no : List PatternItem)

/-- A pattern that has been read. -/
structure Pattern where
  /-- The text it was read from. -/
  text : String
  /-- The flags set for all of it. -/
  flags : PatternFlags
  items : List PatternItem
  /-- How many groups it has. -/
  groupCount : Nat

end BodyLength
