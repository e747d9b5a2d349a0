import BodyLength.Text.Quoted

/-!
# Patterns that are none

A text may be no pattern for many reasons. Most are found at a position, which is worded after the reason,
and for a text of several lines as a line and a column besides. A few reasons are of another nature: a number
of repetitions that is beyond all bounds or too long to be read, flags that contradict each other, and a pattern
that is not given as a text and cannot be written as one. They are no faults of the notation, and whoever handles
faults of the notation does not handle these.
-/

namespace BodyLength

/-- Why a text is no pattern. -/
inductive PatternProblem where
  | trailingBackslash
  | incompleteEscape (escape : String)
  | badEscape (escape : String)
  | octalTooLarge (escape : String)
  | nameBraceMissing
  | unknownCharacterName (name : String)
  | missing (what : String)
  | unterminatedName (terminator : Char)
  | openGroupReference
  | lookBehindReference
  | unknownGroupNumber (number : Nat)
  | unknownGroupName (name : String)
  | badGroupName (name : String)
  | badGroupNumber
  | repeatedGroupName (name : String) (number earlier : Nat)
  | unterminatedSet
  | badRange (low high : String)
  | repeatBoundsReversed
  | nothingToRepeat
  | repeatedRepeat
  | unexpectedEnd
  | unknownExtension (text : String)
  | unterminatedComment
  | unterminatedGroup
  | tooManyBranches
  | lateGlobalFlags
  | localeFlag
  | incompatibleTypeFlags
  | unknownFlag
  | globalFlagOn
  | typeFlagOff
  | globalFlagOff
  | flagOnAndOff
  | unbalancedBracket
  | templateRepeat (name : String)
  | variableLookBehind
  | farLookBehind
deriving DecidableEq, Repr

/-- The wording of a reason. -/
def PatternProblem.message : PatternProblem → String
  | trailingBackslash => "bad escape (end of pattern)"
  | incompleteEscape escape => "incomplete escape " ++ escape
  | badEscape escape => "bad escape " ++ escape
  | octalTooLarge escape => "octal escape value " ++ escape ++ " outside of range 0-0o377"
  | nameBraceMissing => "missing \x7b"
  | unknownCharacterName name => "undefined character name " ++ quoted name
  | missing what => "missing " ++ what
  | unterminatedName terminator => "missing " ++ String.singleton terminator ++ ", unterminated name"
  | openGroupReference => "cannot refer to an open group"
  | lookBehindReference => "cannot refer to group defined in the same lookbehind subpattern"
  | unknownGroupNumber number => "invalid group reference " ++ toString number
  | unknownGroupName name => "unknown group name " ++ quoted name
  | badGroupName name => "bad character in group name " ++ quoted name
  | badGroupNumber => "bad group number"
  | repeatedGroupName name number earlier =>
    "redefinition of group name " ++ quoted name ++ " as group " ++ toString number ++
      "; was group " ++ toString earlier
  | unterminatedSet => "unterminated character set"
  | badRange low high => "bad character range " ++ low ++ "-" ++ high
  | repeatBoundsReversed => "min repeat greater than max repeat"
  | nothingToRepeat => "nothing to repeat"
  | repeatedRepeat => "multiple repeat"
  | unexpectedEnd => "unexpected end of pattern"
  | unknownExtension text => "unknown extension ?" ++ text
  | unterminatedComment => "missing ), unterminated comment"
  | unterminatedGroup => "missing ), unterminated subpattern"
  | tooManyBranches => "conditional backref with more than two branches"
  | lateGlobalFlags => "global flags not at the start of the expression"
  | localeFlag => "bad inline flags: cannot use 'L' flag with a str pattern"
  | incompatibleTypeFlags => "bad inline flags: flags 'a', 'u' and 'L' are incompatible"
  | unknownFlag => "unknown flag"
  | globalFlagOn => "bad inline flags: cannot turn on global flag"
  | typeFlagOff => "bad inline flags: cannot turn off flags 'a', 'u' and 'L'"
  | globalFlagOff => "bad inline flags: cannot turn off global flag"
  | flagOnAndOff => "bad inline flags: flag turned on and off"
  | unbalancedBracket => "unbalanced parenthesis"
  | templateRepeat name => "internal: unsupported template operator " ++ name
  | variableLookBehind => "look-behind requires fixed-width pattern"
  | farLookBehind => "looks too much behind"

/-- A reason, and the position where it was found if it has one. -/
structure PatternFault where
  problem : PatternProblem
  position : Option Nat
deriving DecidableEq, Repr

/-- Why a text was rejected as a pattern. -/
inductive PatternRejection where
  /-- A fault of the notation. -/
  | fault (f : PatternFault)
  /-- A number of repetitions that cannot be counted. -/
  | repeatTooLarge
  /-- A number of repetitions with so many digits that it cannot even be read. -/
  | longRepeat (digits : Nat)
  /-- Two flags for the whole pattern that exclude each other. -/
  | contradictoryFlags
  /-- A value that holds an integer with too many digits to be written out, so that it has no text. -/
  | unwritable
deriving DecidableEq, Repr

/-- The line of a position, counted from one, and its column in that line. -/
def lineAndColumn (text : List Char) (position : Nat) : Nat × Nat :=
  let before := text.take position
  ((before.filter (· == '\n')).length + 1, (before.reverse.takeWhile (· != '\n')).length + 1)

/-- The wording of a fault of a text. -/
def PatternFault.message (f : PatternFault) (text : List Char) : String :=
  match f.position with
  | none => f.problem.message
  | some position =>
    let place := f.problem.message ++ " at position " ++ toString position
    if text.contains '\n' then
      let (line, column) := lineAndColumn text position
      place ++ " (line " ++ toString line ++ ", column " ++ toString column ++ ")"
    else place

end BodyLength
