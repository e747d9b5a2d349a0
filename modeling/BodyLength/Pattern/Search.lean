import BodyLength.Pattern.Basic
import BodyLength.Text.CaseEquivalents

/-!
# Searching for patterns

A pattern is found in a text if it fits from some position on. Parts are tried one after the other, each
with what is still to come behind it: a part that can fit in several ways goes through them until what comes
behind fits as well. So a greedy repetition takes all it can and gives back one by one, a lazy one takes one
more only when it has to, and a possessive one, like an atomic bracket, is not gone back into.

A repetition of something that took no character is not tried again from the same position. That bounds
the number of rounds by the length of the text, beyond those that have to be.
-/

namespace BodyLength

/-! ## Single characters -/

/-- Does a code count as a letter with another case? -/
def hasCaseCode (ascii : Bool) (code : Nat) : Bool :=
  code.isValidChar && hasCase ascii (Char.ofNat code)

/-- Is there a letter with another case in a range of codes? -/
def hasCaseWithin (ascii : Bool) (low high : Nat) : Bool :=
  let meets := fun (first last : Nat) => low ≤ last && first ≤ high
  if ascii then meets 0x41 0x5a || meets 0x61 0x7a
  else casedChars.ranges.any fun r => meets r.1 r.2

/-- Is the character the one with a code, when case does not count? -/
def sameWithoutCase (ascii : Bool) (code : Nat) (c : Char) : Bool :=
  code.isValidChar && (foldedCases ascii (Char.ofNat code)).contains (foldedCase ascii c)

namespace SetItem

/-- Does case make a difference for the item? -/
def isCased (ascii : Bool) : SetItem → Bool
  | code n => hasCaseCode ascii n
  | range low high => hasCaseWithin ascii low high
  | charClass _ _ => false

/-- Is the character among those of the item? -/
def holds (ascii : Bool) (c : Char) : SetItem → Bool
  | code n => c.toNat == n
  | range low high => low ≤ c.toNat && c.toNat ≤ high
  | charClass kind isNegated => kind.holds ascii c != isNegated

/-- Is the character among those of the item, when case does not count? -/
def holdsWithoutCase (ascii : Bool) (c : Char) : SetItem → Bool
  | code n => sameWithoutCase ascii n c
  | range low high =>
    ((foldedCases ascii c).flatMap (unfoldedCases ascii)).any fun d =>
      low ≤ d.toNat && d.toNat ≤ high
  | charClass kind isNegated => kind.holds ascii (foldedCase ascii c) != isNegated

end SetItem

/-- Is the character in a set? -/
def setHolds (flags : PatternFlags) (isNegated : Bool) (items : List SetItem) (c : Char) : Bool :=
  let found :=
    if flags.ignoreCase && items.any (·.isCased flags.ascii) then
      items.any (·.holdsWithoutCase flags.ascii c)
    else items.any (·.holds flags.ascii c)
  found != isNegated

/-- Is the character the one with a code? -/
def codeHolds (flags : PatternFlags) (code : Nat) (c : Char) : Bool :=
  if flags.ignoreCase && hasCaseCode flags.ascii code then sameWithoutCase flags.ascii code c
  else c.toNat == code

/-! ## Places -/

/-- Is there a word character at a position? -/
def wordAt (ascii : Bool) (text : Array Char) (position : Nat) : Bool :=
  text[position]?.any fun c => CharClass.word.holds ascii c

/-- Is one side of the position a word character and the other not? -/
def isWordEdge (ascii : Bool) (text : Array Char) (position : Nat) : Bool :=
  (position != 0 && wordAt ascii text (position - 1)) != wordAt ascii text position

/-- Is the position at such a place? A text without characters has neither edges nor insides of words. -/
def Anchor.holds (flags : PatternFlags) (text : Array Char) (position : Nat) : Anchor → Bool
  | lineStart => position == 0 || (flags.multiline && text[position - 1]? == some '\n')
  | lineEnd =>
    position == text.size ||
      (text[position]? == some '\n' && (flags.multiline || position + 1 == text.size))
  | textStart => position == 0
  | textEnd => position == text.size
  | boundary => text.size != 0 && isWordEdge flags.ascii text position
  | noBoundary => text.size != 0 && !isWordEdge flags.ascii text position

/-! ## States -/

/-- How far a search has got. -/
structure SearchState where
  position : Nat
  /-- For every group, where it was opened last and where it was closed last. -/
  marks : Array (Option Nat × Option Nat)

/-- What is still to come behind a part. -/
abbrev SearchRest := SearchState → Option SearchState

namespace SearchState

/-- The state behind the next character, if it passes a test. -/
def take? (text : Array Char) (test : Char → Bool) (s : SearchState) : Option SearchState :=
  match text[s.position]? with
  | some c => if test c then some { s with position := s.position + 1 } else none
  | none => none

/-- The text that a group has taken, by its two ends. -/
def taken? (s : SearchState) (group : Nat) : Option (Nat × Nat) :=
  match s.marks[group]? with
  | some (some start, some stop) => if start ≤ stop then some (start, stop) else none
  | _ => none

/-- The state behind the repetition of a piece of the text. -/
def repeat? (flags : PatternFlags) (text : Array Char) (s : SearchState) (start stop : Nat) :
    Option SearchState :=
  let fold := fun (c : Char) => if flags.ignoreCase then foldedCase flags.ascii c else c
  let piece := (text.extract start stop).map fold
  let here := (text.extract s.position (s.position + (stop - start))).map fold
  if here == piece then some { s with position := s.position + (stop - start) } else none

end SearchState

/-! ## Repetitions -/

/-- Goes through a thing as often as it has to be. -/
def takeLeast (body : SearchRest → SearchRest) : Nat → SearchRest → SearchRest
  | 0, k, s => k s
  | count + 1, k, s => body (takeLeast body count k) s

/-- Goes through a thing as often as it may be, or as seldom, and then through the rest. -/
def takeMore (body : SearchRest → SearchRest) (isLazy : Bool) :
    Nat → Option Nat → SearchRest → SearchRest
  | 0, _, k, s => k s
  | count + 1, last, k, s =>
    let more := fun (_ : Unit) =>
      if last == some s.position then none
      else body (takeMore body isLazy count (some s.position) k) s
    if isLazy then
      match k s with
      | some found => some found
      | none => more ()
    else
      match more () with
      | some found => some found
      | none => k s

/-- Goes through a thing as often as it has to be, in the first way each time. -/
def keepLeast (body : SearchRest → SearchRest) : Nat → SearchRest
  | 0, s => some s
  | count + 1, s =>
    match body some s with
    | some s => keepLeast body count s
    | none => none

/-- Goes through a thing as often as it may be, in the first way each time. -/
def keepMore (body : SearchRest → SearchRest) : Nat → Option Nat → SearchState → SearchState
  | 0, _, s => s
  | count + 1, last, s =>
    if last == some s.position then s
    else match body some s with
      | some next => keepMore body count (some s.position) next
      | none => s

/-- The number of rounds beyond those that have to be. -/
def moreRounds (length least : Nat) (most : Option Nat) : Nat :=
  match most with
  | some n => min (n - least) (length + 2)
  | none => length + 2

/-! ## Parts -/

mutual

/-- Goes through a part and then through the rest. -/
def PatternItem.search (text : Array Char) : PatternItem → SearchRest → SearchRest
  | .code flags n, k, s => (s.take? text (codeHolds flags n)).bind k
  | .set flags isNegated items, k, s => (s.take? text (setHolds flags isNegated items)).bind k
  | .anything flags, k, s => (s.take? text fun c => flags.dotAll || c != '\n').bind k
  | .anchor flags place, k, s => if place.holds flags text s.position then k s else none
  | .reference flags group, k, s =>
    match s.taken? group with
    | some (start, stop) => (s.repeat? flags text start stop).bind k
    | none => none
  | .capture group body, k, s =>
    let opened := { s with marks := s.marks.modify group fun m => (some s.position, m.2) }
    searchAll text body
      (fun s => k { s with marks := s.marks.modify group fun m => (m.1, some s.position) }) opened
  | .group _ body, k, s => searchAll text body k s
  | .atomic body, k, s =>
    match searchAll text body some s with
    | some after => k after
    | none => none
  | .assertion lookBack isNegated body, k, s =>
    let back := lookBack.getD 0
    let found :=
      if s.position < back then none
      else searchAll text body some { s with position := s.position - back }
    match found with
    | some after => if isNegated then none else k { after with position := s.position }
    | none => if isNegated then k s else none
  | .choice alternatives, k, s => searchAny text alternatives k s
  | .repetition _ greed least most body, k, s =>
    let rounds := moreRounds text.size least most
    match greed with
    | .greedy =>
      takeLeast (searchAll text body) least (takeMore (searchAll text body) false rounds none k) s
    | .lazy =>
      takeLeast (searchAll text body) least (takeMore (searchAll text body) true rounds none k) s
    | .possessive =>
      match keepLeast (searchAll text body) least s with
      | some s => k (keepMore (searchAll text body) rounds none s)
      | none => none
  | .conditional group yes no, k, s =>
    match s.taken? group with
    | some _ => searchAll text yes k s
    | none => searchAll text no k s

/-- Goes through parts one after the other and then through the rest. -/
def searchAll (text : Array Char) : List PatternItem → SearchRest → SearchRest
  | [], k, s => k s
  | item :: rest, k, s => item.search text (searchAll text rest k) s

/-- Goes through alternatives until the rest fits behind one. -/
def searchAny (text : Array Char) : List (List PatternItem) → SearchRest → SearchRest
  | [], _, _ => none
  | items :: rest, k, s =>
    match searchAll text items k s with
    | some found => some found
    | none => searchAny text rest k s

end

/-! ## Whole texts -/

/-- Does the pattern fit from a position on? -/
def Pattern.fitsAt (p : Pattern) (text : Array Char) (position : Nat) : Bool :=
  (searchAll text p.items some ⟨position, Array.replicate (p.groupCount + 1) (none, none)⟩).isSome

/-- Is the pattern found anywhere in a text? -/
def Pattern.isFoundIn (p : Pattern) (text : String) : Bool :=
  let cs := text.toList.toArray
  (List.range (cs.size + 1)).any (p.fitsAt cs)

end BodyLength
