import BodyLength.Config.Reading
import BodyLength.Files.FileTree
import BodyLength.Yaml.Document

/-!
# Configuration files

A configuration file that is asked for has to be there: the one that the caller names or else the one that the
environment names. Without either, two places are searched, and if there is no file the usual configuration
holds.

A file that holds nothing, or a value that is as good as nothing, is a configuration that says nothing.

What a file holds is up to a reader of YAML, which is part of the surroundings of the program. An error that it finds
in the file is an error of the configuration. Everything else that the reader fails with ends the run, and so does a
file that cannot be opened.
-/

namespace BodyLength

/-- What the program finds around it. -/
structure Environment where
  /-- The files. -/
  files : Entry
  /-- The path of the home folder. -/
  home : String
  /-- The configuration file that the environment names. -/
  configVariable : Option String
  /-- The value that the bytes of a YAML file hold. -/
  yaml : List UInt8 → Except (Fault YamlError) Value

/-! ## Places -/

/-- The places where a configuration file may be, in the order in which they are searched. -/
def Environment.searchPaths (s : Environment) : List Path :=
  [.ofText "funclint.yaml", (Path.ofText s.home).along [".funclint", "config.yaml"]]

/-- The configuration file that is asked for. Nobody asks for one by a text without characters. -/
def Environment.requiredPath? (s : Environment) (asked : Option String) : Option Path :=
  (((asked.filter (!·.isEmpty)).or (s.configVariable.filter (!·.isEmpty)))).map Path.ofText

/-- The configuration file, if there is one. -/
def Environment.configPath (s : Environment) (asked : Option String) : Except ConfigError (Option Path) :=
  match s.requiredPath? asked with
  | some path => if s.files.hasFile path then .ok (some path) else .error (.fileNotFound path)
  | none => .ok (s.searchPaths.find? s.files.hasFile)

/-! ## Files -/

/-- The value of a configuration file. One that is as good as nothing is an empty mapping. -/
def Value.orEmpty (v : Value) : Value :=
  if v.isTruthy then v else .mapping []

/-- Reads a configuration file. -/
def Environment.readConfig (s : Environment) (known : List String) (path : Path) (bytes : List UInt8) :
    Work (Except ConfigError Config) :=
  match s.yaml bytes with
  | .error (.error e) => pure (.error (.badYaml path e))
  | .error (.abort why) => .abort why
  | .ok v => do
    Work.remark [.configurationRead path.text]
    Config.ofValue known (some path) v.orEmpty

/-- Finds the configuration file and reads it, or takes the usual configuration. -/
def loadConfig (known : List String) (s : Environment) (asked : Option String) :
    Work (Except ConfigError Config) :=
  match s.configPath asked with
  | .error e => pure (.error e)
  | .ok none => do
    Work.remark [.noConfigurationFile]
    return .ok .usual
  | .ok (some path) =>
    match s.files.read path.text with
    | .error e => .abort (.unreadable path.text e)
    | .ok bytes => s.readConfig known path bytes

end BodyLength
