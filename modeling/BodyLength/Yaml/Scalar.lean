import BodyLength.Text.CharTable
import BodyLength.Yaml.Property

/-!
# Scalars in configuration texts

A scalar is written in one of three ways. Plain scalars end where something else could begin. Quoted scalars end
at their quotation mark, and between double marks characters can be escaped. Block scalars consist of the lines
that are indented far enough. A scalar that goes over several lines is folded, except for a literal block: one
line end is a space, and of several the first one is left out.
-/

namespace BodyLength

/-! ## Line ends -/

/-- What one line end and the empty lines behind it become when they are folded. -/
def foldedBreaks (first : Char) (others : List Char) : List Char :=
  (if first != '\n' then [first] else if others.isEmpty then [' '] else []) ++ others

/-! ## Block scalars -/

/-- What becomes of the line ends behind a block scalar. -/
inductive Chomping where
  | strip
  | clip
  | keep
deriving DecidableEq, Repr

/-- The chomping that a character asks for. -/
def chompingOf? (ch : Char) : Option Chomping :=
  if ch == '+' then some .keep else if ch == '-' then some .strip else none

/-- The indentation that a character asks for, if it is a digit. -/
def indentationOf? (ch : Char) : Option Nat :=
  if ch.isDigit then some (ch.toNat - 48) else none

/-- The indentation behind the indicator of a block scalar, if there is one. -/
def readIndentation (began : Mark) (c : YamlCursor) : Except YamlError (Option Nat × YamlCursor) :=
  match indentationOf? c.peek with
  | none => .ok (none, c)
  | some 0 => .error (.during .blockScalar began .zeroIndentation c.mark)
  | some n => .ok (some n, c.next)

/-- The chomping behind the indicator of a block scalar, if there is one. -/
def readChomping (c : YamlCursor) : Option Chomping × YamlCursor :=
  match chompingOf? c.peek with
  | none => (none, c)
  | some chomping => (some chomping, c.next)

/-- The chomping and the indentation of a block scalar, in either order. -/
def readBlockHeader (began : Mark) (c : YamlCursor) :
    Except YamlError (Chomping × Option Nat × YamlCursor) := do
  let (first, c) := readChomping c
  let (indentation, c) ← readIndentation began c
  let (second, c) := if first.isSome || indentation.isNone then (none, c) else readChomping c
  requireBehind .blockScalar began "chomping or indentation indicators" isYamlSpace c
  .ok ((first.or second).getD .clip, indentation, c)

/-- The empty lines before the first line of a block scalar, the widest indentation among them, and the end of
the last one. -/
def leadingBreaks : Nat → Nat → Mark → YamlCursor → List Char × Nat × Mark × YamlCursor
  | 0, widest, stop, c => ([], widest, stop, c)
  | fuel + 1, widest, stop, c =>
    if c.peek == ' ' then leadingBreaks fuel (max widest c.next.column) stop c.next
    else
      match c.lineBreak? with
      | none => ([], widest, stop, c)
      | some (ch, after) =>
        let (breaks, widest, stop, c) := leadingBreaks fuel widest after.mark after
        (ch :: breaks, widest, stop, c)

/-- The place after the spaces that follow, but not beyond a column. -/
def skipIndentation (indent : Nat) (c : YamlCursor) : YamlCursor :=
  c.skip (min (indent - c.column) (c.run (· == ' ')).length)

/-- The empty lines inside a block scalar, and the end of the last one. -/
def blockBreaks (indent : Nat) : Nat → Mark → YamlCursor → List Char × Mark × YamlCursor
  | 0, stop, c => ([], stop, c)
  | fuel + 1, stop, c =>
    let c := skipIndentation indent c
    match c.lineBreak? with
    | none => ([], stop, c)
    | some (ch, after) =>
      let (breaks, stop, c) := blockBreaks indent fuel after.mark after
      (ch :: breaks, stop, c)

/-- Is the character a space or a tabulator? -/
def isYamlIndent (ch : Char) : Bool :=
  ch == ' ' || ch == '\t'

/-- The lines of a block scalar from a line on that is indented far enough, the empty lines before it being
given: the characters, what chomping keeps of the line ends behind them, and the end. -/
def blockLines (isFolded : Bool) (indent : Nat) (chomping : Chomping) :
    Nat → List Char → Mark → YamlCursor → List Char × Mark × YamlCursor
  | 0, _, stop, c => ([], stop, c)
  | fuel + 1, breaks, _, c =>
    let startsWithText := !isYamlIndent c.peek
    let line := c.run fun ch => !isYamlLineEnd ch
    let c := c.skip line.length
    let (lineBreak, c) := match c.lineBreak? with
      | none => ([], c)
      | some (ch, after) => ([ch], after)
    let (others, stop, c) := blockBreaks indent c.rest.length.succ c.mark c
    if c.column = indent && c.peek != '\x00' then
      let joint :=
        if isFolded && lineBreak == ['\n'] && startsWithText && !isYamlIndent c.peek then
          if others.isEmpty then [' '] else []
        else lineBreak
      let (text, stop, c) := blockLines isFolded indent chomping fuel others stop c
      (breaks ++ line ++ joint ++ text, stop, c)
    else
      let tail := match chomping with
        | .strip => []
        | .clip => lineBreak
        | .keep => lineBreak ++ others
      (breaks ++ line ++ tail, stop, c)

/-- A block scalar inside a collection of some indentation, its indicator being next: its text, its end, and
the place behind it. -/
def readBlockScalar (isFolded : Bool) (outer : Int) (c : YamlCursor) :
    Except YamlError (String × Mark × YamlCursor) := do
  let began := c.mark
  let (chomping, indentation, c) ← readBlockHeader began c.next
  let c ← endLine .blockScalar began c
  let least := (max 1 (outer + 1)).toNat
  let (breaks, indent, stop, c) := match indentation with
    | none =>
      let (breaks, widest, stop, c) := leadingBreaks c.rest.length.succ 0 c.mark c
      (breaks, max least widest, stop, c)
    | some n =>
      let indent := least + n - 1
      let (breaks, stop, c) := blockBreaks indent c.rest.length.succ c.mark c
      (breaks, indent, stop, c)
  if c.column = indent && c.peek != '\x00' then
    let (text, stop, c) := blockLines isFolded indent chomping c.rest.length.succ breaks stop c
    .ok (String.ofList text, stop, c)
  else
    .ok (String.ofList (if chomping = .keep then breaks else []), stop, c)

/-! ## Quoted scalars -/

/-- The character that an escape of one character stands for. -/
def yamlEscape? (ch : Char) : Option Char :=
  [('0', '\x00'), ('a', '\x07'), ('b', '\x08'), ('t', '\t'), ('\t', '\t'), ('n', '\n'), ('v', '\x0b'),
    ('f', '\x0c'), ('r', '\r'), ('e', '\x1b'), (' ', ' '), ('"', '"'), ('\\', '\\'), ('/', '/'),
    ('N', '\x85'), ('_', '\xa0'), ('L', '\u2028'), ('P', '\u2029')].lookup ch

/-- The number of digits of an escape by code point. -/
def yamlEscapeDigits? (ch : Char) : Option Nat :=
  [('x', 2), ('u', 4), ('U', 8)].lookup ch

/-- The character with a code point. -/
def charOfCode (code : Nat) : Except YamlError Char :=
  if code < 0x110000 then .ok (Char.ofNat code)
  else if code < 0x80000000 then .error (.impossible .codePoint)
  else .error (.impossible .hugeCodePoint)

/-- The empty lines inside a quoted scalar. -/
def quotedBreaks (began : Mark) : Nat → YamlCursor → Except YamlError (List Char × YamlCursor)
  | 0, c => .ok ([], c)
  | fuel + 1, c =>
    if c.atDocumentEdge then .error (.during .quotedScalar began .documentSeparator c.mark)
    else
      let c := c.skipWhile isYamlIndent
      match c.lineBreak? with
      | none => .ok ([], c)
      | some (ch, after) => do
        let (breaks, c) ← quotedBreaks began fuel after
        .ok (ch :: breaks, c)

/-- An escape between double quotation marks, the character behind the backslash being next. -/
def readYamlEscape (began : Mark) (c : YamlCursor) : Except YamlError (List Char × YamlCursor) :=
  match yamlEscape? c.peek with
  | some ch => .ok ([ch], c.next)
  | none =>
    match yamlEscapeDigits? c.peek with
    | some count =>
      let c := c.next
      let digits := c.rest.take count
      match (digits.find? fun ch => !isYamlHexDigit ch), decide (digits.length < count) with
      | some bad, _ =>
        .error (.during .doubleQuoted began
          (.expected ("escape sequence of " ++ toString count ++ " hexadecimal numbers") bad) c.mark)
      | none, true =>
        .error (.during .doubleQuoted began
          (.expected ("escape sequence of " ++ toString count ++ " hexadecimal numbers") '\x00') c.mark)
      | none, false => do
        let ch ← charOfCode (ofHex digits)
        .ok ([ch], c.skip count)
    | none =>
      match c.lineBreak? with
      | some (_, after) => quotedBreaks began after.rest.length.succ after
      | none => .error (.during .doubleQuoted began (.unknownEscape c.peek) c.mark)

/-- The blanks inside a quoted scalar, which fold where a line ends. -/
def readQuotedBlanks (began : Mark) (c : YamlCursor) : Except YamlError (List Char × YamlCursor) :=
  let blanks := c.run isYamlIndent
  let c := c.skip blanks.length
  if c.rest.isEmpty then .error (.during .quotedScalar began .endOfText c.mark)
  else
    match c.lineBreak? with
    | none => .ok (blanks, c)
    | some (ch, after) => do
      let (breaks, c) ← quotedBreaks began after.rest.length.succ after
      .ok (foldedBreaks ch breaks, c)

/-- A quoted scalar from behind its first quotation mark on. -/
def quotedChars (mark : Char) (began : Mark) : Nat → YamlCursor → Except YamlError (List Char × YamlCursor)
  | 0, c => .ok ([], c)
  | fuel + 1, c =>
    if c.peek == mark then
      if mark == '\'' && c.peekAt 1 == '\'' then do
        let (text, c) ← quotedChars mark began fuel (c.skip 2)
        .ok ('\'' :: text, c)
      else .ok ([], c.next)
    else if mark == '"' && c.peek == '\\' then do
      let (chars, c) ← readYamlEscape began c.next
      let (text, c) ← quotedChars mark began fuel c
      .ok (chars ++ text, c)
    else if isYamlBlank c.peek then do
      let (blanks, c) ← readQuotedBlanks began c
      let (text, c) ← quotedChars mark began fuel c
      .ok (blanks ++ text, c)
    else do
      let (text, after) ← quotedChars mark began fuel c.next
      .ok (c.peek :: text, after)

/-- A quoted scalar, its quotation mark being next. -/
def readQuotedScalar (c : YamlCursor) : Except YamlError (String × YamlCursor) := do
  let (text, after) ← quotedChars c.peek c.mark c.rest.length.succ c.next
  .ok (String.ofList text, after)

/-! ## Plain scalars -/

/-- Does a plain scalar end before the next character? -/
def endsPlain (inFlow : Bool) (c : YamlCursor) : Bool :=
  isYamlBlank c.peek ||
    (c.peek == ':' &&
      (isYamlBlank (c.peekAt 1) || (inFlow && ",[]\x7b\x7d".toList.contains (c.peekAt 1)))) ||
    (inFlow && ",?[]\x7b\x7d".toList.contains c.peek)

/-- The characters of a plain scalar up to its end or a blank. -/
def plainRun (inFlow : Bool) : Nat → YamlCursor → List Char × YamlCursor
  | 0, c => ([], c)
  | fuel + 1, c =>
    if endsPlain inFlow c then ([], c)
    else
      let (text, after) := plainRun inFlow fuel c.next
      (c.peek :: text, after)

/-- The empty lines inside a plain scalar, or nothing if a document starts or ends behind one of them. -/
def plainBreaks : Nat → YamlCursor → Option (List Char) × YamlCursor
  | 0, c => (some [], c)
  | fuel + 1, c =>
    if c.peek == ' ' then plainBreaks fuel c.next
    else
      match c.lineBreak? with
      | none => (some [], c)
      | some (ch, after) =>
        if after.atDocumentEdge then (none, after)
        else
          let (breaks, c) := plainBreaks fuel after
          (breaks.map (ch :: ·), c)

/-- The blanks inside a plain scalar, whether a line ends among them, and the place behind them. There are none
if the scalar cannot go on. -/
def readPlainBlanks (c : YamlCursor) : List Char × Bool × YamlCursor :=
  let spaces := c.run (· == ' ')
  let c := c.skip spaces.length
  match c.lineBreak? with
  | none => (spaces, false, c)
  | some (ch, after) =>
    if after.atDocumentEdge then ([], true, after)
    else
      let (breaks, c) := plainBreaks after.rest.length.succ after
      (match breaks with
        | none => []
        | some breaks => foldedBreaks ch breaks, true, c)

/-- A plain scalar as it was read. -/
structure PlainScalar where
  text : List Char
  stop : Mark
  /-- Does it end at the beginning of a line? -/
  endsLine : Bool
  after : YamlCursor

/-- A plain scalar from a place on, the blanks before it and its end up to there being given. -/
def plainChars (inFlow : Bool) (indent : Int) :
    Nat → List Char → Bool → Mark → YamlCursor → PlainScalar
  | 0, _, endsLine, stop, c => ⟨[], stop, endsLine, c⟩
  | fuel + 1, blanks, endsLine, stop, c =>
    if c.peek == '#' then ⟨[], stop, endsLine, c⟩
    else
      let (run, behind) := plainRun inFlow c.rest.length.succ c
      if run.isEmpty then ⟨[], stop, endsLine, c⟩
      else
        let (spaces, hasBreak, c) := readPlainBlanks behind
        if spaces.isEmpty || c.peek == '#' || (!inFlow && decide ((c.column : Int) < indent)) then
          ⟨blanks ++ run, behind.mark, hasBreak, c⟩
        else
          let rest := plainChars inFlow indent fuel spaces hasBreak behind.mark c
          { rest with text := blanks ++ run ++ rest.text }

/-- A plain scalar inside a collection of some indentation. -/
def readPlainScalar (inFlow : Bool) (outer : Int) (c : YamlCursor) : PlainScalar :=
  plainChars inFlow (outer + 1) c.rest.length.succ [] false c.mark c

end BodyLength
