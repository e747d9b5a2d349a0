import BodyLength.CommandLine.Command
import BodyLength.Config.Loading
import BodyLength.Json.Writer
import BodyLength.Lint.Run
import BodyLength.Tree.Listing

/-!
# Running the program

A run of the program writes to two places and ends with a number. The results go to the first place, and what
is said about the work goes to the second: first the remarks made on the way, from a severity on that the caller
chooses, and then the errors that kept files from being checked. The number is zero if all is well, one if
something was found or a file could not be handled, and two if the call or the configuration makes no sense.

Results are written either as lines for people or as one document for programs. Both say the same. The lines have
nothing but counts in them, of lines, columns and files; the document has positions as well, and where one of them has
too many digits it is not written.
-/

namespace BodyLength

/-! ## Output -/

/-- What a run has written, line by line, and the number it ends with. -/
structure Output where
  exit : Nat
  /-- The lines of results. -/
  results : List String
  /-- The lines about the work. -/
  messages : List String
deriving DecidableEq, Repr

namespace Output

/-- Lines as they are written. -/
def written (lines : List String) : String :=
  String.join (lines.map (· ++ "\n"))

/-- The output with lines about the work before those that it has. -/
def preceded (lines : List String) (o : Output) : Output :=
  { o with messages := lines ++ o.messages }

end Output

/-! ## Information and complaints -/

/-- The output of a call that asks for nothing, or for nothing but information. -/
def InvocationStop.output : InvocationStop → Output
  | help c => ⟨0, c.help, []⟩
  | version => ⟨0, [versionLine], []⟩
  | wrong c e => ⟨2, [], [c.usage, c.words ++ ": error: " ++ e.message]⟩

/-! ## Checking -/

namespace LintResult

/-- The line below the failures. -/
def summary (r : LintResult) : String :=
  toString r.filesChecked ++ " files checked, " ++ toString r.failures.length ++ " failures, " ++
    toString r.errors.length ++ " errors"

/-- The number that a run ends with. -/
def exit (r : LintResult) : Nat :=
  if r.isClean then 0 else 1

/-- A result as lines for people. -/
def asLines (r : LintResult) : Output :=
  ⟨r.exit, r.failures.map Failure.text ++ ["", r.summary], r.errors.map ErrorReport.text⟩

/-- A result as a document for programs. -/
def asDocument (r : LintResult) : Except Abort Output :=
  if r.toJson.isWritable then .ok ⟨r.exit, [r.toJson.indented 0], []⟩ else .error .longInteger

/-- A result in one of the two forms. -/
def output (asJson : Bool) (r : LintResult) : Except Abort Output :=
  if asJson then r.asDocument else .ok r.asLines

end LintResult

/-- The output when there is no configuration. -/
def ConfigError.output (e : ConfigError) : Output :=
  ⟨2, [], ["Configuration error: " ++ e.text]⟩

/-- Checks files and folders. -/
def runLint (s : Environment) (paths : List String) (config : Option String) (recursive asJson : Bool) :
    Work Output := do
  match ← loadConfig (Registry.standard.map Prod.fst) s config with
  | .error e => return e.output
  | .ok config =>
    let result ← lintPaths Registry.standard config s.files recursive (paths.map Path.ofText)
    ⟨[], result.output asJson⟩

/-! ## Showing a tree -/

/-- The output when a file is of a type that has no tree. -/
def unsupported (p : Path) : Output :=
  ⟨1, [], ["Unsupported file type: " ++ (if p.suffix.isEmpty then p.name else p.suffix)]⟩

/-- The output when a file has no tree. -/
def LoadError.output (e : LoadError) : Output :=
  ⟨1, [], ["Parse error: " ++ e.message]⟩

/-- The output for a file that has a tree. -/
def SourceFile.listingOutput (f : SourceFile) : Output :=
  ⟨0, f.summary :: f.listing.map ListingRow.text, []⟩

/-- Shows what could be checked in a file. -/
def runTree (s : Environment) (file : String) : Work Output := do
  let p := Path.ofText file
  match Frontend.ofSuffix? p.suffix with
  | none => return unsupported p
  | some frontend =>
    match ← frontend.run s.files p.text with
    | .ok f => return f.listingOutput
    | .error e => return e.output

/-! ## The program -/

/-- Does what a command asks for. -/
def Command.run (s : Environment) : Command → Work Output
  | lint paths config recursive asJson => runLint s paths config recursive asJson
  | tree file => runTree s file
  | explain => return ⟨0, CommandName.program.help, []⟩

/-- From which severity on remarks are shown. -/
def Invocation.leastSeverity (i : Invocation) : Severity :=
  if i.verbose then .debug else .warning

/-- Is a remark shown? It has to be grave enough, and there has to be a text for it. -/
def Invocation.shows (i : Invocation) (n : Notice) : Bool :=
  n.isAtLeast i.leastSeverity && n.isWordable

/-- The lines for the remarks that are shown. -/
def Invocation.shownNotices (i : Invocation) (notices : List Notice) : List String :=
  (notices.filter i.shows).map Notice.text

/-- What a run of the program comes to. -/
structure RunOutcome where
  output : Output
  /-- What ended the run before its time, if anything did. -/
  aborted : Option Abort

/-- Does what a call of the program asks for. -/
def Invocation.run (s : Environment) (i : Invocation) : RunOutcome :=
  let work := i.command.run s
  let notices := i.shownNotices work.notices
  match work.outcome with
  | .ok output => ⟨output.preceded notices, none⟩
  | .error why => ⟨⟨1, [], notices⟩, some why⟩

/-- Runs the program. -/
def runProgram (s : Environment) (arguments : List String) : RunOutcome :=
  match Invocation.ofArguments arguments with
  | .ok i => i.run s
  | .error stop => ⟨stop.output, none⟩

end BodyLength
