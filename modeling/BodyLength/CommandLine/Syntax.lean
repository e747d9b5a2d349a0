import BodyLength.Text.Quoted
import BodyLength.Text.WordChars

/-!
# Arguments of a command

A command takes options and one kind of positional argument. An option has a short name of one dash and one
letter, or a long name of two dashes, or both. Short options can be written together, a long name can be cut
short as long as only one option begins with it, and a value can be written into the same argument as its
option. Behind two dashes everything is positional, and so is what looks like a negative number or holds a space.

Arguments are first told apart one by one and then consumed from left to right: options wherever they stand,
positional arguments in the first place where they fit. What fits nowhere is left over. Asking for help ends the
reading at once.
-/

namespace BodyLength

/-! ## What a command takes -/

/-- What an option does. -/
inductive OptionEffect where
  /-- It is on or off. -/
  | switch
  /-- It takes a value. -/
  | value
  | help
  | version
deriving DecidableEq, Repr

/-- An option. -/
structure OptionSyntax where
  /-- Its names, each with its dashes. -/
  names : List String
  effect : OptionEffect
deriving DecidableEq, Repr

/-- What the positional arguments of a command are. -/
inductive PositionalSyntax where
  /-- Exactly one. -/
  | one
  /-- One or more. -/
  | many
  /-- One and whatever follows it. -/
  | command
deriving DecidableEq, Repr

/-- What a command takes. -/
structure CommandSyntax where
  options : List OptionSyntax
  positional : PositionalSyntax
  /-- What the positional arguments are called. -/
  positionalName : String
  /-- Does there have to be a positional argument? -/
  isRequired : Bool

/-! ## What goes wrong -/

/-- Why arguments make no sense. -/
inductive ArgumentError where
  /-- A name cut short begins several names. -/
  | ambiguous (given : String) (names : List String)
  /-- An option has a value that it does not take. -/
  | needlessValue (option : OptionSyntax) (value : String)
  | missingValue (option : OptionSyntax)
  | missingPositional (name : String)
  | invalidChoice (name given : String) (choices : List String)
  | leftOver (arguments : List String)
deriving DecidableEq, Repr

/-- The wording of an error. -/
def ArgumentError.message : ArgumentError → String
  | ambiguous given names =>
    "ambiguous option: " ++ given ++ " could match " ++ ", ".intercalate names
  | needlessValue option value =>
    "argument " ++ "/".intercalate option.names ++ ": ignored explicit argument " ++ quoted value
  | missingValue option => "argument " ++ "/".intercalate option.names ++ ": expected one argument"
  | missingPositional name => "the following arguments are required: " ++ name
  | invalidChoice name given choices =>
    "argument " ++ name ++ ": invalid choice: " ++ quoted given ++ " (choose from " ++
      ", ".intercalate (choices.map quoted) ++ ")"
  | leftOver arguments => "unrecognized arguments: " ++ " ".intercalate arguments

/-- Why the reading of arguments ends early. -/
inductive ArgumentStop where
  | help
  | version
  | wrong (e : ArgumentError)
deriving DecidableEq, Repr

/-! ## Telling arguments apart -/

/-- What an argument is. -/
inductive ArgumentKind where
  | positional
  /-- The two dashes before positional arguments. -/
  | separator
  /-- An option by its name, with the value that is written with it. -/
  | known (option : OptionSyntax) (name : String) (value : Option String)
  /-- It looks like an option and is none. -/
  | unknown
deriving DecidableEq, Repr

/-- The options with their names, name by name. -/
def CommandSyntax.named (s : CommandSyntax) : List (String × OptionSyntax) :=
  s.options.flatMap fun option => option.names.map fun name => (name, option)

/-- Splits a text at its first equals sign. -/
def splitAtEquals (cs : List Char) : List Char × Option (List Char) :=
  match cs.dropWhile (· != '=') with
  | [] => (cs, none)
  | _ :: value => (cs.takeWhile (· != '='), some value)

/-- A text without a line break at its end. -/
def withoutFinalBreak (cs : List Char) : List Char :=
  if cs.getLast? = some '\n' then cs.dropLast else cs

/-- Are these digits, perhaps with a point among them that digits follow? -/
def isUnsignedNumber (cs : List Char) : Bool :=
  match cs, cs.dropWhile isDecimal with
  | [], _ => false
  | _, [] => true
  | _, '.' :: digits => !digits.isEmpty && digits.all isDecimal
  | _, _ => false

/-- Does the argument look like a negative number? A line break at its end does not matter. -/
def isNegativeNumber (cs : List Char) : Bool :=
  match cs with
  | '-' :: rest => isUnsignedNumber (withoutFinalBreak rest)
  | _ => false

/-- The options that an argument may mean, if it names none in full. -/
def CommandSyntax.candidates (s : CommandSyntax) (cs : List Char) :
    List (OptionSyntax × String × Option String) :=
  match cs with
  | '-' :: '-' :: _ =>
    let (start, value) := splitAtEquals cs
    (s.named.filter fun e => start.isPrefixOf e.1.toList).map fun e => (e.2, e.1, value.map String.ofList)
  | '-' :: letter :: rest =>
    (s.named.filter fun e => e.1 == String.ofList ['-', letter]).map fun e =>
      (e.2, e.1, some (String.ofList rest))
  | _ => []

/-- The option that an argument names before an equals sign. -/
def CommandSyntax.assigned? (s : CommandSyntax) (cs : List Char) : Option ArgumentKind :=
  match splitAtEquals cs with
  | (_, none) => none
  | (name, some value) =>
    (s.named.lookup (String.ofList name)).map fun option =>
      .known option (String.ofList name) (some (String.ofList value))

/-- What an argument is that begins with a dash and names no option in full. -/
def CommandSyntax.kindByCandidates (s : CommandSyntax) (argument : String) :
    Except ArgumentError ArgumentKind :=
  let cs := argument.toList
  match s.candidates cs with
  | [(option, name, value)] => .ok (.known option name value)
  | [] =>
    if isNegativeNumber cs || cs.contains ' ' then .ok .positional else .ok .unknown
  | several => .error (.ambiguous argument (several.map fun c => c.2.1))

/-- What an argument before two dashes is. -/
def CommandSyntax.kindOf (s : CommandSyntax) (argument : String) : Except ArgumentError ArgumentKind :=
  match argument.toList with
  | '-' :: rest =>
    match s.named.lookup argument, rest, s.assigned? argument.toList with
    | some option, _, _ => .ok (.known option argument none)
    | none, [], _ => .ok .positional
    | none, _, some kind => .ok kind
    | none, _, none => s.kindByCandidates argument
  | _ => .ok .positional

/-- Arguments with what they are. -/
def CommandSyntax.kinds (s : CommandSyntax) :
    List String → Except ArgumentError (List (String × ArgumentKind))
  | [] => .ok []
  | argument :: rest =>
    if argument = "--" then .ok ((argument, .separator) :: rest.map fun a => (a, .positional))
    else do
      let kind ← s.kindOf argument
      let others ← s.kinds rest
      .ok ((argument, kind) :: others)

/-! ## Consuming arguments -/

/-- What has been read of the arguments. -/
structure Arguments where
  /-- The options that were given, each with its value. -/
  options : List (OptionSyntax × Option String)
  /-- The positional arguments, once they have been found. -/
  positional : Option (List String)
  /-- What fits nowhere. -/
  leftOver : List String

namespace Arguments

/-- Nothing read yet. -/
def none : Arguments :=
  ⟨[], .none, []⟩

/-- Is an option with a name among those that were given? -/
def has (a : Arguments) (name : String) : Bool :=
  a.options.any fun o => o.1.names.contains name

/-- The value that was given last to an option with a name. Two dashes separate arguments and are no value,
even where they are written together with the option. -/
def value? (a : Arguments) (name : String) : Option String :=
  ((a.options.reverse.find? fun o => o.1.names.contains name).bind Prod.snd).filter (· != "--")

end Arguments

/-- Is the argument positional? -/
def ArgumentKind.isPositional : ArgumentKind → Bool
  | positional => true
  | _ => false

/-- Is the argument positional, or does it separate such arguments? -/
def ArgumentKind.isPlain : ArgumentKind → Bool
  | positional => true
  | separator => true
  | _ => false

/-- The arguments without the first two dashes. -/
def withoutSeparator (arguments : List String) : List String :=
  arguments.erase "--"

/-- Takes the positional arguments off, if they stand here. -/
def PositionalSyntax.take? (p : PositionalSyntax) (items : List (String × ArgumentKind)) :
    Option (List String × List (String × ArgumentKind)) :=
  let before := items.takeWhile fun i => i.2 == .separator
  match items.drop before.length with
  | [] => none
  | item :: rest =>
    if !item.2.isPositional then none
    else
      match p with
      | .command => some ((before ++ item :: rest).map Prod.fst, [])
      | .many =>
        let more := rest.takeWhile fun i => i.2.isPlain
        some (withoutSeparator ((before ++ item :: more).map Prod.fst), rest.drop more.length)
      | .one =>
        let more := rest.takeWhile fun i => i.2 == .separator
        some (withoutSeparator ((before ++ item :: more).map Prod.fst), rest.drop more.length)

/-- Options that are written together in one argument. The last one may take its value from the argument, or
from the one behind it; then the rest begins behind that one. -/
def CommandSyntax.chain (s : CommandSyntax) (rest : List (String × ArgumentKind)) :
    Nat → OptionSyntax → String → Option String →
      Except ArgumentError (List (OptionSyntax × Option String) × List (String × ArgumentKind))
  | _, option, _, none =>
    if option.effect = .value then
      match rest with
      | (value, .positional) :: behind => .ok ([(option, some value)], behind)
      | _ => .error (.missingValue option)
    else .ok ([(option, none)], rest)
  | 0, option, _, some value => .error (.needlessValue option value)
  | fuel + 1, option, name, some value =>
    if option.effect = .value then .ok ([(option, some value)], rest)
    else
      match value.toList, name.startsWith "--" with
      | letter :: letters, false =>
        let next := String.ofList ['-', letter]
        match s.named.lookup next with
        | none => .error (.needlessValue option value)
        | some following => do
          let (options, behind) ← s.chain rest fuel following next
            (if letters.isEmpty then none else some (String.ofList letters))
          .ok ((option, none) :: options, behind)
      | _, _ => .error (.needlessValue option value)

/-- Adds options one by one; help and the version end the reading. -/
def Arguments.addOptions (a : Arguments) :
    List (OptionSyntax × Option String) → Except ArgumentStop Arguments
  | [] => .ok a
  | (option, value) :: rest =>
    match option.effect with
    | .help => .error .help
    | .version => .error .version
    | _ => addOptions { a with options := a.options ++ [(option, value)] } rest

/-- Consumes arguments from left to right. -/
def CommandSyntax.consume (s : CommandSyntax) :
    Nat → List (String × ArgumentKind) → Arguments → Except ArgumentStop Arguments
  | 0, _, a => .ok a
  | _ + 1, [], a => .ok a
  | fuel + 1, (argument, .known option name value) :: rest, a => do
    let (options, behind) ← (s.chain rest argument.length option name value).mapError .wrong
    let a ← a.addOptions options
    s.consume fuel behind a
  | fuel + 1, (argument, .unknown) :: rest, a =>
    s.consume fuel rest { a with leftOver := a.leftOver ++ [argument] }
  | fuel + 1, (argument, kind) :: rest, a =>
    match a.positional, s.positional.take? ((argument, kind) :: rest) with
    | none, some (found, behind) => s.consume fuel behind { a with positional := some found }
    | _, _ => s.consume fuel rest { a with leftOver := a.leftOver ++ [argument] }

/-- Reads the arguments of a command. -/
def CommandSyntax.read (s : CommandSyntax) (arguments : List String) : Except ArgumentStop Arguments := do
  let items ← (s.kinds arguments).mapError .wrong
  let a ← s.consume (items.length + 1) items .none
  if s.isRequired && a.positional.isNone then .error (.wrong (.missingPositional s.positionalName))
  else .ok a

end BodyLength
