import BodyLength.Number.Numeral
import BodyLength.Pattern.Rejection
import BodyLength.Pattern.Width
import BodyLength.Text.CharName
import BodyLength.Text.IdentifierChars

/-!
# Reading patterns

A pattern is read from left to right in units of one character, or of two where the first one is a
backslash. The position that a fault is reported at is counted from the place of the next unit, so it
matters how far reading has got when a fault is found. A backslash at the very end is a fault as soon as it
is the next unit.

Reading keeps which groups have been opened and closed and how wide the closed ones are. The width of a
group decides whether an assertion about what stands before can refer to it.

Sequences and alternatives are nested in each other to any depth. The number of steps that are left bounds
the nesting; every step reads a unit or goes into a bracket, so three times the length of the text is
enough.
-/

namespace BodyLength

/-! ## Units -/

/-- How far the reading of a pattern has got. -/
structure PatternReader where
  rest : List Char
  /-- The position of the next unit. -/
  position : Nat
  /-- The flags for the whole pattern, as found so far. -/
  flags : PatternFlags
  /-- Was a flag found that asks for more than ASCII? -/
  asksUnicode : Bool
  /-- For every group, its width once it is closed. The whole pattern counts as a group that never is. -/
  groups : List (Option PatternWidth)
  /-- The named groups, and their numbers. -/
  names : List (String × Nat)
  /-- The number of groups when the outermost assertion about what stands before was opened. -/
  lookBehindGroups : Option Nat
  /-- The numbers of groups that conditions ask for, with the positions of the first such condition. -/
  conditions : List (Nat × Nat)

/-- The widths of the groups that are closed, and none for the others. -/
def PatternReader.widths (s : PatternReader) : List PatternWidth :=
  s.groups.map fun w => w.getD ⟨0, 0⟩

/-- A step of reading a pattern. -/
abbrev PatternStep := StateT PatternReader (Except PatternRejection)

namespace PatternStep

/-- The next unit; none at the end. -/
def unitOf : List Char → List Char
  | '\\' :: c :: _ => ['\\', c]
  | c :: _ => [c]
  | [] => []

/-- Reports a fault so many characters before the next unit. -/
def fail {α : Type} (problem : PatternProblem) (offset : Nat) : PatternStep α := do
  let s ← get
  throw (.fault ⟨problem, some (s.position - offset)⟩)

/-- Looks at the next unit. -/
def peek : PatternStep (List Char) := do
  pure (unitOf (← get).rest)

/-- Refuses a backslash that is alone at the end. -/
def checkBackslash : PatternStep Unit := do
  if (← get).rest == ['\\'] then fail .trailingBackslash 0

/-- Takes the next unit. -/
def take : PatternStep (List Char) := do
  let s ← get
  let unit := unitOf s.rest
  set { s with rest := s.rest.drop unit.length, position := s.position + unit.length }
  checkBackslash
  pure unit

/-- Takes a character if it is the next unit. -/
def takeIf (c : Char) : PatternStep Bool := do
  if (← peek) == [c] then
    let _ ← take
    pure true
  else pure false

/-- Takes at most so many units that are characters of a class. -/
def takeWhile (test : Char → Bool) : Nat → PatternStep (List Char)
  | 0 => pure []
  | count + 1 => do
    match ← peek with
    | [c] =>
      if test c then
        let _ ← take
        pure (c :: (← takeWhile test count))
      else pure []
    | _ => pure []

/-- Takes the units up to a mark, and the mark. There has to be at least one. -/
def takeUntil (mark : Char) (what : String) : Nat → List Char → PatternStep (List Char)
  | 0, found => pure found
  | steps + 1, found => do
    let unit ← take
    if unit.isEmpty then
      if found.isEmpty then fail (.missing what) 0 else fail (.unterminatedName mark) found.length
    else if unit == [mark] then
      if found.isEmpty then fail (.missing what) 1 else pure found
    else takeUntil mark what steps (found ++ unit)

/-- Takes a name up to a mark. -/
def takeName (mark : Char) (what : String) : PatternStep (List Char) := do
  takeUntil mark what ((← get).rest.length + 1) []

/-! ## Escapes -/

/-- Is the character a digit of base sixteen? -/
def isHexUnit (c : Char) : Bool :=
  c.isDigit || ('a' ≤ c && c ≤ 'f') || ('A' ≤ c && c ≤ 'F')

/-- Is the character a digit of base eight? -/
def isOctalUnit (c : Char) : Bool :=
  '0' ≤ c && c ≤ '7'

/-- The text of an escape. -/
def escapeText (letter : Char) (more : List Char) : String :=
  String.ofList ('\\' :: letter :: more)

/-- The character that a letter behind a backslash stands for. -/
def controlCode? : Char → Option Nat
  | 'a' => some 7
  | 'b' => some 8
  | 'f' => some 12
  | 'n' => some 10
  | 'r' => some 13
  | 't' => some 9
  | 'v' => some 11
  | '\\' => some 92
  | _ => none

/-- The class that a letter behind a backslash stands for, and whether it is all other characters. -/
def charClass? : Char → Option (CharClass × Bool)
  | 'd' => some (.digit, false)
  | 'D' => some (.digit, true)
  | 's' => some (.blank, false)
  | 'S' => some (.blank, true)
  | 'w' => some (.word, false)
  | 'W' => some (.word, true)
  | _ => none

/-- The place that a letter behind a backslash stands for. -/
def anchor? : Char → Option Anchor
  | 'A' => some .textStart
  | 'b' => some .boundary
  | 'B' => some .noBoundary
  | 'Z' => some .textEnd
  | _ => none

/-- Reads a code of so many digits of base sixteen. -/
def hexCode (letter : Char) (count : Nat) : PatternStep Nat := do
  let digits ← takeWhile isHexUnit count
  let text := escapeText letter digits
  if digits.length < count then fail (.incompleteEscape text) (digits.length + 2)
  else
    let code := ofDigits 16 digits
    if code > 0x10ffff then fail (.badEscape text) (count + 2) else pure code

/-- Reads a character by its name. -/
def namedCode : PatternStep Nat := do
  if ← takeIf '\x7b' then
    let name ← takeName '\x7d' "character name"
    match CharNames.find? name with
    | some code => pure code
    | none => fail (.unknownCharacterName (String.ofList name)) (name.length + 4)
  else fail .nameBraceMissing 0

/-- Reads an octal code whose first digit has been read. -/
def octalCode (first : Char) : PatternStep Nat := do
  let digits ← takeWhile isOctalUnit 2
  let code := ofDigits 8 (first :: digits)
  if code > 0o377 then fail (.octalTooLarge (escapeText first digits)) (digits.length + 2)
  else pure code

/-- Reads an escape that is a code by name or number, if its letter says so. -/
def numberedCode? (letter : Char) : PatternStep (Option Nat) :=
  match letter with
  | 'x' => some <$> hexCode 'x' 2
  | 'u' => some <$> hexCode 'u' 4
  | 'U' => some <$> hexCode 'U' 8
  | 'N' => some <$> namedCode
  | _ => pure none

/-- Reads an escape that stands for its own character. Letters and digits do not. -/
def plainCode (letter : Char) : PatternStep Nat :=
  if letter.isAlphanum then fail (.badEscape (escapeText letter [])) 2 else pure letter.toNat

/-- Reads an escape within a set. -/
def setEscape (letter : Char) : PatternStep SetItem := do
  match controlCode? letter, charClass? letter with
  | some code, _ => pure (.code code)
  | none, some (charClass, isNegated) => pure (.charClass charClass isNegated)
  | none, none =>
    match ← numberedCode? letter with
    | some code => pure (.code code)
    | none => .code <$> (if isOctalUnit letter then octalCode letter else plainCode letter)

/-! ## Groups -/

/-- Is the group closed? -/
def isClosed (group : Nat) : PatternStep Bool := do
  pure ((← get).groups.getD group none).isSome

/-- Refuses a reference, within an assertion about what stands before, to a group that is not closed or
belongs to the assertion itself. -/
def checkLookBehind (group : Nat) : PatternStep Unit := do
  match (← get).lookBehindGroups with
  | none => pure ()
  | some count =>
    if !(← isClosed group) then fail .openGroupReference 0
    if group ≥ count then fail .lookBehindReference 0

/-- Reads a reference to a group by a number whose first digit has been read, or an octal code of three
digits. -/
def numberedReference (flags : PatternFlags) (first : Char) : PatternStep PatternItem := do
  let second ← takeWhile Char.isDigit 1
  let third ←
    if isOctalUnit first && second.any isOctalUnit then takeWhile isOctalUnit 1 else pure []
  let digits := first :: second ++ third
  if !third.isEmpty then
    let code := ofDigits 8 digits
    if code > 0o377 then fail (.octalTooLarge (escapeText first (second ++ third))) 4
    else pure (.code flags code)
  else
    let group := ofDigits 10 digits
    if group < (← get).groups.length then
      if !(← isClosed group) then fail .openGroupReference (digits.length + 1)
      checkLookBehind group
      pure (.reference flags group)
    else fail (.unknownGroupNumber group) digits.length

/-- Reads an escape outside of sets. -/
def escape (flags : PatternFlags) (letter : Char) : PatternStep PatternItem := do
  match anchor? letter, charClass? letter, controlCode? letter with
  | some place, _, _ => pure (.anchor flags place)
  | none, some (charClass, isNegated), _ => pure (.set flags false [.charClass charClass isNegated])
  | none, none, some code => pure (.code flags code)
  | none, none, none =>
    match ← numberedCode? letter with
    | some code => pure (.code flags code)
    | none =>
      if letter == '0' then
        let digits ← takeWhile isOctalUnit 2
        pure (.code flags (ofDigits 8 digits))
      else if letter.isDigit then numberedReference flags letter
      else .code flags <$> plainCode letter

/-- Opens a group, perhaps with a name. -/
def openGroup (name : Option String) : PatternStep Nat := do
  let s ← get
  let group := s.groups.length
  match name with
  | none => set { s with groups := s.groups ++ [none] }
  | some name =>
    match s.names.find? (·.1 == name) with
    | some (_, earlier) => fail (.repeatedGroupName name group earlier) (name.length + 1)
    | none => set { s with groups := s.groups ++ [none], names := s.names ++ [(name, group)] }
  pure group

/-- Closes a group. -/
def closeGroup (group : Nat) (body : List PatternItem) : PatternStep Unit :=
  modify fun s => { s with groups := s.groups.set group (some (widthOf s.widths body)) }

/-- Expects the end of a bracket that was opened at a position. -/
def closeBracket (start : Nat) : PatternStep Unit := do
  if !(← takeIf ')') then fail .unterminatedGroup ((← get).position - start)

/-! ## Sets -/

/-- Reads a member of a set whose first unit has been read. -/
def setItem (unit : List Char) : PatternStep SetItem :=
  match unit with
  | ['\\', letter] => setEscape letter
  | c :: _ => pure (.code c.toNat)
  | [] => pure (.code 0)

/-- Reads the members of a set that was opened at a position. -/
def setItems (start : Nat) : Nat → List SetItem → PatternStep (List SetItem)
  | 0, found => pure found
  | steps + 1, found => do
    let unit ← take
    if unit.isEmpty then fail .unterminatedSet ((← get).position - start)
    if unit == [']'] && !found.isEmpty then pure found
    else
      let low ← setItem unit
      if ← takeIf '-' then
        let other ← take
        if other.isEmpty then fail .unterminatedSet ((← get).position - start)
        if other == [']'] then pure (found ++ [low, .code '-'.toNat])
        else
          let high ← setItem other
          let bad := PatternProblem.badRange (String.ofList unit) (String.ofList other)
          match low, high with
          | .code m, .code n =>
            if n < m then fail bad (unit.length + 1 + other.length)
            else setItems start steps (found ++ [.range m n])
          | _, _ => fail bad (unit.length + 1 + other.length)
      else setItems start steps (found ++ [low])

/-- Reads a set behind its opening bracket. -/
def charSet (flags : PatternFlags) : PatternStep PatternItem := do
  let start := (← get).position - 1
  let isNegated ← takeIf '^'
  let items ← setItems start ((← get).rest.length + 1) []
  pure (.set flags isNegated items)

/-! ## Repetitions -/

/-- The number from which on repetitions cannot be counted. -/
def maxRepeat : Nat := Nat.pow 2 32 - 1

/-- Takes a number of repetitions. -/
def repeatCount (digits : List Char) : PatternStep (Option Nat) :=
  if digits.isEmpty then pure none
  else if maxIntegerDigits < digits.length then throw (.longRepeat digits.length)
  else
    let count := ofDigits 10 digits
    if count ≥ maxRepeat then throw .repeatTooLarge else pure (some count)

/-- Reads the bounds in braces of a repetition behind the opening brace. What is no bounds is left unread,
and then the brace is a character like any other. -/
def braceBounds : PatternStep (Option (Nat × Option Nat)) := do
  let start ← get
  if (← peek) == ['\x7d'] then pure none
  else
    let low ← takeWhile Char.isDigit start.rest.length
    let hasComma ← takeIf ','
    let high ← if hasComma then takeWhile Char.isDigit start.rest.length else pure low
    if ← takeIf '\x7d' then
      let least ← repeatCount low
      let most ← repeatCount high
      match most with
      | some n => if n < least.getD 0 then fail .repeatBoundsReversed ((← get).position - start.position)
      | none => pure ()
      pure (some (least.getD 0, most))
    else
      set start
      pure none

/-- Reads the bounds of a repetition whose mark has been read. -/
def repeatBounds (mark : Char) : PatternStep (Option (Nat × Option Nat)) :=
  match mark with
  | '?' => pure (some (0, some 1))
  | '*' => pure (some (0, none))
  | '+' => pure (some (1, none))
  | _ => braceBounds

/-- Repeats the last of the parts read so far. They stand in reverse order. `start` is the position behind
the mark. -/
def repeatLast (flags : PatternFlags) (start : Nat) (least : Nat) (most : Option Nat)
    (items : List PatternItem) : PatternStep (List PatternItem) := do
  let offset := (← get).position - start + 1
  match items with
  | [] => fail .nothingToRepeat offset
  | .anchor _ _ :: _ => fail .nothingToRepeat offset
  | .repetition _ _ _ _ _ :: _ => fail .repeatedRepeat offset
  | last :: before =>
    let body := match last with
      | .group true inner => inner
      | item => [item]
    let isLazy ← takeIf '?'
    let isPossessive ← if isLazy then pure false else takeIf '+'
    let greed := if isLazy then Greed.lazy else if isPossessive then .possessive else .greedy
    pure (.repetition flags greed least most body :: before)

/-! ## Flags -/

/-- The letters of the flags. -/
def flagLetters : List Char :=
  ['i', 'L', 'm', 's', 'x', 'a', 't', 'u']

/-- Is the letter that of a flag for classes of characters? They exclude each other. -/
def isTypeFlag (c : Char) : Bool :=
  c == 'a' || c == 'L' || c == 'u'

/-- Is the character a letter? -/
def isLetterUnit (unit : List Char) : Bool :=
  match unit with
  | [c] => c != '_' && isIdentifierStart c
  | _ => false

/-- Reports a unit in the place of a flag. -/
def failFlag {α : Type} (unit : List Char) (what : String) : PatternStep α :=
  fail (if isLetterUnit unit then .unknownFlag else .missing what) unit.length

/-- Reads flags to be set, from a letter on, and gives the unit behind them. -/
def flagsOn : Nat → Char → List Char → PatternStep (List Char × Char)
  | 0, letter, found => pure (found, letter)
  | steps + 1, letter, found => do
    if letter == 'L' then fail .localeFlag 0
    if isTypeFlag letter && found.any fun c => isTypeFlag c && c != letter then
      fail .incompatibleTypeFlags 0
    let found := found ++ [letter]
    match ← take with
    | [] => fail (.missing "-, : or )") 0
    | [c] =>
      if c == ')' || c == '-' || c == ':' then pure (found, c)
      else if flagLetters.contains c then flagsOn steps c found
      else failFlag [c] "-, : or )"
    | unit => failFlag unit "-, : or )"

/-- Reads flags to be unset, from a letter on, up to the colon. -/
def flagsOff : Nat → Char → List Char → PatternStep (List Char)
  | 0, _, found => pure found
  | steps + 1, letter, found => do
    if isTypeFlag letter then fail .typeFlagOff 0
    let found := found ++ [letter]
    match ← take with
    | [] => fail (.missing ":") 0
    | [c] =>
      if c == ':' then pure found
      else if flagLetters.contains c then flagsOff steps c found
      else failFlag [c] ":"
    | unit => failFlag unit ":"

/-- The change that a bracket makes to the flags. -/
inductive FlagChange where
  /-- Flags for the whole pattern. -/
  | global (on : List Char)
  /-- Flags for what follows in the bracket. -/
  | scoped (on off : List Char)

/-- Reads the flags of a bracket from their first letter, or the hyphen, on. -/
def flagChange (first : Char) : PatternStep FlagChange := do
  let steps := (← get).rest.length + 1
  let (on, mark) ← if first == '-' then pure ([], '-') else flagsOn steps first []
  if mark == ')' then pure (.global on)
  else
    if on.contains 't' then fail .globalFlagOn 1
    let off ←
      if mark == '-' then
        match ← take with
        | [] => fail (.missing "flag") 0
        | [c] => if flagLetters.contains c then flagsOff steps c [] else failFlag [c] "flag"
        | unit => failFlag unit "flag"
      else pure []
    if off.contains 't' then fail .globalFlagOff 1
    if on.any off.contains then fail .flagOnAndOff 1
    pure (.scoped on off)

/-- The flags with some set and some unset. -/
def changedFlags (flags : PatternFlags) (on off : List Char) : PatternFlags where
  ignoreCase := (flags.ignoreCase || on.contains 'i') && !off.contains 'i'
  multiline := (flags.multiline || on.contains 'm') && !off.contains 'm'
  dotAll := (flags.dotAll || on.contains 's') && !off.contains 's'
  verbose := (flags.verbose || on.contains 'x') && !off.contains 'x'
  ascii := if on.contains 'a' then true else if on.contains 'u' then false else flags.ascii
  template := flags.template || on.contains 't'

/-- Sets flags for the whole pattern. -/
def setGlobalFlags (on : List Char) : PatternStep PatternFlags := do
  let s ← get
  let flags := { changedFlags s.flags on [] with ascii := s.flags.ascii || on.contains 'a' }
  set { s with flags := flags, asksUnicode := s.asksUnicode || on.contains 'u' }
  pure flags

/-! ## Brackets -/

/-- What a bracket is. -/
inductive Bracket where
  /-- Something whose parts follow. -/
  | capture (name : Option String)
  | plain (isPlain : Bool) (flags : PatternFlags)
  | atomic
  | assertion (isBehind isNegated : Bool)
  | conditional (group : Nat)
  /-- Something that is complete. -/
  | reference (group : Nat)
  | comment
  | global (on : List Char)

/-- Is the text an identifier? -/
def isIdentifier (name : List Char) : Bool :=
  match name with
  | [] => false
  | c :: rest => isIdentifierStart c && rest.all isIdentifierPart

/-- Refuses a name of a group that is no identifier. -/
def checkName (name : List Char) : PatternStep Unit := do
  if !isIdentifier name then fail (.badGroupName (String.ofList name)) (name.length + 1)

/-- The group with a name. -/
def groupNamed (name : List Char) : PatternStep Nat := do
  match (← get).names.find? (·.1 == String.ofList name) with
  | some (_, group) => pure group
  | none => fail (.unknownGroupName (String.ofList name)) (name.length + 1)

/-- Takes a comment up to its end. -/
def comment (start : Nat) : Nat → PatternStep Unit
  | 0 => pure ()
  | steps + 1 => do
    let unit ← take
    if unit.isEmpty then fail .unterminatedComment ((← get).position - start)
    if unit != [')'] then comment start steps

/-- The number from which on groups cannot be counted. -/
def maxGroups : Nat := Nat.pow 2 31 - 1

/-- The group that a condition asks for by name or number. -/
def conditionGroup (name : List Char) : PatternStep Nat := do
  let offset := name.length + 1
  if isIdentifier name then groupNamed name
  else
    match integerOfText 10 name with
    | .error _ => fail (.badGroupName (String.ofList name)) offset
    | .ok n =>
      if n < 0 then fail (.badGroupName (String.ofList name)) offset
      if n = 0 then fail .badGroupNumber offset
      if n ≥ maxGroups then fail (.unknownGroupNumber n.toNat) offset
      let s ← get
      if !(s.conditions.any (·.1 == n.toNat)) then
        set { s with conditions := s.conditions ++ [(n.toNat, s.position - offset)] }
      pure n.toNat

/-- Reads what kind of bracket follows behind a question mark. `start` is the position of the bracket. -/
def extension (flags : PatternFlags) (start : Nat) : PatternStep Bracket := do
  match ← take with
  | [] => fail .unexpectedEnd 0
  | ['P'] =>
    if ← takeIf '<' then
      let name ← takeName '>' "group name"
      checkName name
      pure (.capture (some (String.ofList name)))
    else if ← takeIf '=' then
      let name ← takeName ')' "group name"
      checkName name
      let group ← groupNamed name
      if !(← isClosed group) then fail .openGroupReference (name.length + 1)
      checkLookBehind group
      pure (.reference group)
    else
      let unit ← take
      if unit.isEmpty then fail .unexpectedEnd 0
      fail (.unknownExtension (String.ofList ('P' :: unit))) (unit.length + 2)
  | [':'] => pure (.plain true flags)
  | ['#'] =>
    comment start ((← get).rest.length + 1)
    pure .comment
  | ['='] => pure (.assertion false false)
  | ['!'] => pure (.assertion false true)
  | ['<'] =>
    let unit ← take
    if unit.isEmpty then fail .unexpectedEnd 0
    if unit == ['='] then pure (.assertion true false)
    else if unit == ['!'] then pure (.assertion true true)
    else fail (.unknownExtension (String.ofList ('<' :: unit))) (unit.length + 2)
  | ['('] =>
    let name ← takeName ')' "group name"
    let group ← conditionGroup name
    checkLookBehind group
    pure (.conditional group)
  | ['>'] => pure .atomic
  | unit =>
    match unit with
    | [c] =>
      if flagLetters.contains c || c == '-' then
        match ← flagChange c with
        | .global on => pure (.global on)
        | .scoped on off => pure (.plain (on.isEmpty && off.isEmpty) (changedFlags flags on off))
      else fail (.unknownExtension (String.ofList unit)) (unit.length + 1)
    | _ => fail (.unknownExtension (String.ofList unit)) (unit.length + 1)

/-! ## Sequences and alternatives -/

/-- Passes over a comment up to the end of its line. -/
def lineComment : Nat → PatternStep Unit
  | 0 => pure ()
  | steps + 1 => do
    let unit ← take
    if !unit.isEmpty && unit != ['\n'] then lineComment steps

/-- The parts that alternatives come to. -/
def choiceOf : List (List PatternItem) → List PatternItem
  | [items] => items
  | alternatives => [.choice alternatives]

mutual

/-- Reads alternatives. `isTop` holds outside of all brackets. -/
def alternatives : Nat → Bool → PatternFlags → List (List PatternItem) → PatternStep (List PatternItem)
  | 0, _, _, found => pure (choiceOf found)
  | steps + 1, isTop, flags, found => do
    let items ← sequence steps (isTop && found.isEmpty) flags []
    let found := found ++ [items]
    if ← takeIf '|' then
      let globalFlags := (← get).flags
      let flags := if isTop then globalFlags else flags
      alternatives steps isTop flags found
    else pure (choiceOf found)

/-- Reads parts one after the other. Those read so far stand in reverse order. `isFirst` holds in the first
alternative outside of all brackets. -/
def sequence : Nat → Bool → PatternFlags → List PatternItem → PatternStep (List PatternItem)
  | 0, _, _, found => pure found.reverse
  | steps + 1, isFirst, flags, found => do
    match ← peek with
    | [] => pure found.reverse
    | ['|'] => pure found.reverse
    | [')'] => pure found.reverse
    | unit =>
      let _ ← take
      let goOn := fun (item : PatternItem) => sequence steps isFirst flags (item :: found)
      match unit with
      | ['\\', letter] => goOn (← escape flags letter)
      | [c] =>
        if flags.verbose && isAsciiBlank c then sequence steps isFirst flags found
        else if flags.verbose && c == '#' then
          lineComment ((← get).rest.length + 1)
          sequence steps isFirst flags found
        else if c == '[' then goOn (← charSet flags)
        else if c == '.' then goOn (.anything flags)
        else if c == '^' then goOn (.anchor flags .lineStart)
        else if c == '$' then goOn (.anchor flags .lineEnd)
        else if c == '*' || c == '+' || c == '?' || c == '\x7b' then
          let start := (← get).position
          match ← repeatBounds c with
          | none => goOn (.code flags c.toNat)
          | some (least, most) =>
            sequence steps isFirst flags (← repeatLast flags start least most found)
        else if c == '(' then
          let start := (← get).position - 1
          let isExtended ← takeIf '?'
          let bracket ← if isExtended then extension flags start else pure (.capture none)
          match bracket with
          | .comment => sequence steps isFirst flags found
          | .reference group => goOn (.reference flags group)
          | .global on =>
            let flags ← setGlobalFlags on
            if !isFirst || !found.isEmpty then fail .lateGlobalFlags ((← get).position - start)
            sequence steps isFirst flags found
          | .conditional group =>
            let yes ← sequence steps false flags []
            let hasOther ← takeIf '|'
            let no ← if hasOther then sequence steps false flags [] else pure []
            if hasOther && (← peek) == ['|'] then fail .tooManyBranches 0
            closeBracket start
            goOn (.conditional group yes no)
          | .assertion isBehind isNegated =>
            let outer := (← get).lookBehindGroups
            if isBehind && outer.isNone then
              modify fun s => { s with lookBehindGroups := some s.groups.length }
            let body ← alternatives steps false flags []
            modify fun s => { s with lookBehindGroups := if isBehind then outer else s.lookBehindGroups }
            closeBracket start
            let width := widthOf (← get).widths body
            let lookBack := if isBehind then some width.least else none
            goOn (.assertion lookBack isNegated body)
          | .capture name =>
            let group ← openGroup name
            let body ← alternatives steps false flags []
            closeBracket start
            closeGroup group body
            goOn (.capture group body)
          | .plain isPlain inner =>
            let body ← alternatives steps false inner []
            closeBracket start
            goOn (.group isPlain body)
          | .atomic =>
            let body ← alternatives steps false flags []
            closeBracket start
            goOn (.atomic body)
        else goOn (.code flags c.toNat)
      | _ => pure found.reverse

end

/-! ## Checks of the whole -/

/-- The name of a kind of repetition in messages. -/
def greedName : Greed → String
  | .greedy => "MAX_REPEAT"
  | .lazy => "MIN_REPEAT"
  | .possessive => "POSSESSIVE_REPEAT"

/-- Refuses something without a position. -/
def refuse (problem : PatternProblem) : Except PatternRejection Unit :=
  .error (.fault ⟨problem, none⟩)

mutual

/-- Refuses repetitions where there must be none, and assertions about what stands before whose width is
not fixed. -/
def checkItem (groups : List PatternWidth) : PatternItem → Except PatternRejection Unit
  | .capture _ body => checkItems groups body
  | .group _ body => checkItems groups body
  | .atomic body => checkItems groups body
  | .assertion lookBack _ body => do
    let width := widthOf groups body
    if lookBack.isSome && width.least > PatternWidth.maxLookBehind then refuse .farLookBehind
    if lookBack.isSome && width.least != width.most then refuse .variableLookBehind
    checkItems groups body
  | .choice alternatives => checkAll groups alternatives
  | .repetition flags greed _ _ body => do
    if flags.template then refuse (.templateRepeat (greedName greed))
    checkItems groups body
  | .conditional _ yes no => do
    checkItems groups yes
    checkItems groups no
  | _ => .ok ()

/-- Checks parts one after the other. -/
def checkItems (groups : List PatternWidth) : List PatternItem → Except PatternRejection Unit
  | [] => .ok ()
  | item :: rest => do
    checkItem groups item
    checkItems groups rest

/-- Checks alternatives. -/
def checkAll (groups : List PatternWidth) : List (List PatternItem) → Except PatternRejection Unit
  | [] => .ok ()
  | items :: rest => do
    checkItems groups items
    checkAll groups rest

end

/-- Reads a whole pattern. -/
def whole (length : Nat) : PatternStep (List PatternItem) := do
  checkBackslash
  let items ← alternatives (3 * length + 3) true (← get).flags []
  let s ← get
  if s.flags.ascii && s.asksUnicode then throw .contradictoryFlags
  if !s.rest.isEmpty then fail .unbalancedBracket 0
  match s.conditions.find? fun c => s.groups.length ≤ c.1 with
  | some (group, position) => throw (.fault ⟨.unknownGroupNumber group, some position⟩)
  | none => pure ()
  checkItems s.widths items
  pure items

end PatternStep

/-- The flags of a pattern that sets none. -/
def PatternFlags.none : PatternFlags :=
  ⟨false, false, false, false, false, false⟩

/-- Reads a pattern from a text. -/
def Pattern.ofText (text : String) : Except PatternRejection Pattern :=
  let cs := text.toList
  let start : PatternReader := ⟨cs, 0, .none, false, [Option.none], [], Option.none, []⟩
  match (PatternStep.whole cs.length).run start with
  | .error r => .error r
  | .ok (items, s) => .ok ⟨text, s.flags, items, s.groups.length - 1⟩

end BodyLength
