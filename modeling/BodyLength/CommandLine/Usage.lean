/-!
# Usage

What the program says about itself. Each command has a line that shows how it is called, a longer text about
its arguments, and the words that its name begins with in messages. The lines fit into eighty columns.
-/

namespace BodyLength

/-- Whose arguments are spoken of: those of the program or those of one of its commands. -/
inductive CommandName where
  | program
  | lint
  | tree
deriving DecidableEq, Repr

namespace CommandName

/-- The words by which a command is called. -/
def words : CommandName → String
  | program => "funclint"
  | lint => "funclint lint"
  | tree => "funclint tree"

/-- How a command is called. -/
def usage : CommandName → String
  | program => "usage: funclint [-h] [--version] [-v] \x7blint,tree\x7d ..."
  | lint => "usage: funclint lint [-h] [-c CONFIG] [-r] [--json] paths [paths ...]"
  | tree => "usage: funclint tree [-h] file"

/-- What the arguments of a command mean, line by line. -/
def explanation : CommandName → List String
  | program =>
    ["Function body length linter",
      "",
      "positional arguments:",
      "  \x7blint,tree\x7d    Commands",
      "    lint         Lint files or directories",
      "    tree         Show function-like nodes of a file",
      "",
      "options:",
      "  -h, --help     show this help message and exit",
      "  --version      show program's version number and exit",
      "  -v, --verbose  Enable debug logging",
      "",
      "Examples:",
      "    funclint lint src/ -r",
      "    funclint lint app.py --config funclint.yaml --json",
      "    funclint tree app.py"]
  | lint =>
    ["positional arguments:",
      "  paths                 Files or directories to lint",
      "",
      "options:",
      "  -h, --help            show this help message and exit",
      "  -c CONFIG, --config CONFIG",
      "                        Configuration file (YAML)",
      "  -r, --recursive       Recurse into directories",
      "  --json                Output as JSON"]
  | tree =>
    ["positional arguments:",
      "  file        File to parse",
      "",
      "options:",
      "  -h, --help  show this help message and exit"]

/-- The whole help for a command, line by line. -/
def help (c : CommandName) : List String :=
  c.usage :: "" :: c.explanation

end CommandName

/-- What the program is and which one. -/
def versionLine : String :=
  "funclint 0.1.0"

end BodyLength
