import BodyLength.CommandLine.Run
import BodyLength.Yaml.Document

/-!
# The executable

This is the outermost layer: it gathers what the program finds around it, runs the program on that, and writes
what comes of it. Everything that is decided is decided in `runProgram`.

The files that a run can see are those that the call names, the configuration files, and those that are named
on the standard input, one path a line, unless it is a terminal. To check a folder, the names of the files
below it are given there.
-/

namespace BodyLength

/-! ## Gathering files -/

/-- The bytes of a file with its name, if there is such a file, and no bytes if it cannot be read. -/
def gatherFile (name : String) : IO (Option (String × Option (List UInt8))) := do
  match ← (IO.FS.readBinFile name).toBaseIO with
  | .ok bytes => return some (name, some bytes.toList)
  | .error (.permissionDenied _ _ _) => return some (name, none)
  | .error _ => return none

/-- The lines of a stream without their ends. -/
partial def gatherLines (input : IO.FS.Stream) (lines : List String) : IO (List String) := do
  let line ← input.getLine
  if line.isEmpty then return lines.reverse
  gatherLines input (String.ofList (withoutFinalBreak line.toList) :: lines)

/-- The names of files that are given on the standard input. -/
def gatherNames : IO (List String) := do
  let input ← IO.getStdin
  if ← input.isTty then return []
  gatherLines input []

/-- What there is around the program when it is called with some arguments. -/
def gatherEnvironment (arguments : List String) : IO Environment := do
  let home := (← IO.getEnv "HOME").getD "/"
  let configVariable ← IO.getEnv "FUNCLINT_CONFIG"
  let blind : Environment := ⟨.emptyFolder, home, configVariable, readYamlFile⟩
  let places := configVariable.toList ++ blind.searchPaths.map Path.text
  let names := (← gatherNames) ++ argumentPaths arguments ++ places
  let files ← names.filterMapM gatherFile
  return { blind with files := .ofContents files }

/-! ## Writing output -/

/-- Writes what came of a run and gives the number that it ends with. -/
def writeOutcome (outcome : RunOutcome) : IO UInt32 := do
  (← IO.getStderr).putStr (Output.written outcome.output.messages)
  (← IO.getStdout).putStr (Output.written outcome.output.results)
  match outcome.aborted with
  | some why => (← IO.getStderr).putStrLn (why.typeName ++ ": " ++ why.message)
  | none => pure ()
  return outcome.output.exit.toUInt32

end BodyLength

/-- Runs the program. -/
def main (arguments : List String) : IO UInt32 := do
  BodyLength.writeOutcome (BodyLength.runProgram (← BodyLength.gatherEnvironment arguments) arguments)
