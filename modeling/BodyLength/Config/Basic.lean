import BodyLength.Files.Path
import BodyLength.Value.Basic

/-!
# Configurations

A configuration says which rules run and with which options, which files of a folder are checked, and where it
was read. Rules run in the order in which the configuration names them. A file of a folder is checked if its
suffix is one of the extensions and none of the names that lead to it from the folder is excluded.
-/

namespace BodyLength

/-- The rules that run and the files that are checked. -/
structure Config where
  /-- The rules by name, each with its options. -/
  rules : List (String × List Value)
  /-- The suffixes of the files that are checked. -/
  extensions : List String
  /-- The names that exclude whatever is below them. -/
  excluded : List String
  /-- Where the configuration was read. -/
  path : Option Path
deriving Inhabited

namespace Config

/-- The names that are excluded unless a configuration says otherwise. -/
def usuallyExcluded : List String :=
  [".git", ".venv", "venv", "__pycache__", ".mypy_cache", ".pytest_cache", "node_modules", "dist", "build"]

/-- The configuration that holds where none says otherwise: one rule without options. -/
def usual : Config :=
  ⟨[("max-func-body-length", [])], [".py", ".json"], usuallyExcluded, none⟩

/-- Sets the options of a rule among rules: an old rule keeps its place, a new one comes last. -/
def setRule (name : String) (options : List Value) :
    List (String × List Value) → List (String × List Value)
  | [] => [(name, options)]
  | (n, old) :: rest =>
    if n = name then (n, options) :: rest else (n, old) :: setRule name options rest

/-- Is a path with some parts excluded? -/
def excludes (config : Config) (parts : List String) : Bool :=
  config.excluded.any fun name => parts.contains name

end Config

end BodyLength
