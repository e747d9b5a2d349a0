import BodyLength.Lint.Result
import BodyLength.Lint.Rule
import BodyLength.Lint.Selection

/-!
# Checking files

Every rule of the configuration is run on every file, and what the rules find is put together. A rule that
fails on a file is reported and leaves no failures behind; the other rules run all the same. A file that has no
tree is reported and not counted as checked. A file without a frontend is passed over.

In the end the failures are sorted by file and position. The order of those at one place stays what it was.
-/

namespace BodyLength

/-! ## One file -/

/-- The report about a rule that failed on a file. -/
def ruleReport (name filename : String) (e : RuleError) : ErrorReport :=
  ⟨filename, e.message, e.typeName, some name⟩

/-- Runs one rule on a file. -/
def lintByRule (registry : Registry) (file : SourceFile) (name : String) (options : List Value) :
    Work LintResult :=
  match registry.find? name with
  | none => do
    Work.remark [.unknownRule name]
    return .empty
  | some rule => do
    match ← rule.run options file with
    | .ok failures => return ⟨failures, [], 0⟩
    | .error e =>
      Work.remark [.ruleFailed name file.filename e.message]
      return ⟨[], [ruleReport name file.filename e], 0⟩

/-- Runs rules on a file, one after the other. -/
def lintByRules (registry : Registry) (file : SourceFile) :
    List (String × List Value) → Work LintResult
  | [] => return .empty
  | (name, options) :: rest => do
    let first ← lintByRule registry file name options
    let others ← lintByRules registry file rest
    return first.merge others

/-- Runs the rules of a configuration on a file that has a tree. -/
def lintSourceFile (registry : Registry) (config : Config) (file : SourceFile) : Work LintResult := do
  let result ← lintByRules registry file config.rules
  return (LintResult.ofChecked [] []).merge result

/-- The report about a file that has no tree. -/
def loadReport (path : String) (e : LoadError) : ErrorReport :=
  ⟨path, e.message, e.typeName, none⟩

/-- Checks a file. -/
def lintFile (registry : Registry) (config : Config) (tree : Entry) (p : Path) : Work LintResult :=
  match Frontend.ofSuffix? p.suffix with
  | none => do
    Work.remark [.noFrontend p.text]
    return .empty
  | some frontend => do
    match ← frontend.run tree p.text with
    | .ok file => lintSourceFile registry config file
    | .error e =>
      Work.remark [.notParsed p.text e.message]
      return .ofUnread (loadReport p.text e)

/-! ## Many files -/

/-- Checks what is met, one after the other. -/
def lintFindings (registry : Registry) (config : Config) (tree : Entry) :
    List Finding → Work LintResult
  | [] => return .empty
  | .path p :: rest => do
    let first ← lintFile registry config tree p
    let others ← lintFindings registry config tree rest
    return first.merge others
  | .remark n :: rest => do
    Work.remark [n]
    lintFindings registry config tree rest
  | .abort why :: _ => .abort why

/-- The remark at the end. -/
def finishedNotice (r : LintResult) : Notice :=
  .finished r.filesChecked r.failures.length r.errors.length

/-- Checks all files that some paths stand for. -/
def lintPaths (registry : Registry) (config : Config) (tree : Entry) (recursive : Bool)
    (paths : List Path) : Work LintResult := do
  let result ← lintFindings registry config tree (config.findingsAll tree recursive paths)
  let result := result.sorted
  Work.remark [finishedNotice result]
  return result

end BodyLength
