import BodyLength.CommandLine.Syntax
import BodyLength.CommandLine.Usage

/-!
# Commands

The program is called with a command and its arguments. The arguments are read twice: once by the program,
which finds out which command is meant, and once by the command, which gets everything behind its name. What
the command cannot make sense of goes back to the program, so it is the program that complains about arguments
that nobody knows.

Without a command there is only one thing to do, which is to explain the program.
-/

namespace BodyLength

/-! ## What can be asked for -/

/-- A command with its arguments. -/
inductive Command where
  /-- Check files and folders. -/
  | lint (paths : List String) (config : Option String) (recursive asJson : Bool)
  /-- Show what could be checked in a file. -/
  | tree (file : String)
  /-- Explain the program. -/
  | explain
deriving DecidableEq, Repr

/-- The paths that are given to a command. -/
def Command.paths : Command → List String
  | lint paths config _ _ => paths ++ config.toList
  | tree file => [file]
  | explain => []

/-- A call of the program. -/
structure Invocation where
  /-- Are all remarks of the program to be shown? -/
  verbose : Bool
  command : Command
deriving DecidableEq, Repr

/-- Why a call of the program asks for nothing, or for nothing but information. -/
inductive InvocationStop where
  | help (of : CommandName)
  | version
  | wrong (of : CommandName) (e : ArgumentError)
deriving DecidableEq, Repr

/-! ## What is taken -/

/-- The option that asks for help. -/
def helpOption : OptionSyntax :=
  ⟨["-h", "--help"], .help⟩

/-- The commands by the names that they are called by. -/
def commandChoices : List (String × CommandName) :=
  [("lint", .lint), ("tree", .tree)]

/-- What the program and its commands take. -/
def CommandName.takes : CommandName → CommandSyntax
  | program =>
    ⟨[helpOption, ⟨["--version"], .version⟩, ⟨["-v", "--verbose"], .switch⟩], .command, "command", false⟩
  | lint =>
    ⟨[helpOption, ⟨["-c", "--config"], .value⟩, ⟨["-r", "--recursive"], .switch⟩, ⟨["--json"], .switch⟩],
      .many, "paths", true⟩
  | tree => ⟨[helpOption], .one, "file", true⟩

/-! ## Reading -/

/-- Why a call stops when the arguments of one of the commands cannot be read to their end. -/
def CommandName.stop (c : CommandName) : ArgumentStop → InvocationStop
  | .help => .help c
  | .version => .version
  | .wrong e => .wrong c e

/-- Reads the arguments of a command. -/
def CommandName.read (c : CommandName) (arguments : List String) : Except InvocationStop Arguments :=
  (c.takes.read arguments).mapError c.stop

/-- The command that some arguments ask for. -/
def CommandName.command : CommandName → Arguments → Command
  | program, _ => .explain
  | lint, a => .lint (a.positional.getD []) (a.value? "--config") (a.has "--recursive") (a.has "--json")
  | tree, a => .tree ((a.positional.getD []).headD "")

/-- Complains about arguments that nobody knows. -/
def refuseLeftOver (arguments : List String) : Except InvocationStop Unit :=
  if arguments.isEmpty then .ok () else .error (.wrong .program (.leftOver arguments))

/-- The command with a name. -/
def commandNamed (name : String) : Except InvocationStop CommandName :=
  match commandChoices.lookup name with
  | some c => .ok c
  | none =>
    .error (.wrong .program (.invalidChoice "command" name (commandChoices.map Prod.fst)))

/-- Reads the arguments of the program. -/
def Invocation.ofArguments (arguments : List String) : Except InvocationStop Invocation := do
  let a ← CommandName.read .program arguments
  let verbose := a.has "--verbose"
  match a.positional.getD [] with
  | [] =>
    refuseLeftOver a.leftOver
    return ⟨verbose, .explain⟩
  | name :: rest =>
    let c ← commandNamed name
    let b ← c.read rest
    refuseLeftOver (a.leftOver ++ b.leftOver)
    return ⟨verbose, c.command b⟩

/-- The paths that are given to the program. -/
def argumentPaths (arguments : List String) : List String :=
  match Invocation.ofArguments arguments with
  | .ok i => i.command.paths
  | .error _ => []

end BodyLength
