import BodyLength.Limits.Failure

/-!
# Results

A result is what came of checking some files: the failures that were found, the errors that kept a rule or a
file from being checked, and the number of files that were checked. Results of different files are put
together in the order of the files.
-/

namespace BodyLength

/-! ## Errors -/

/-- A rule that could not run on a file, or a file that could not be read. -/
structure ErrorReport where
  file : String
  message : String
  /-- The name of the class of the error. -/
  errorType : String
  /-- The rule, unless it is the file that could not be read. -/
  rule : Option String
deriving DecidableEq, Repr

namespace ErrorReport

/-- A report on one line. -/
def text (e : ErrorReport) : String :=
  let owner := match e.rule with
    | none => ""
    | some rule => if rule.isEmpty then "" else "[" ++ rule ++ "] "
  e.file ++ ": " ++ owner ++ e.errorType ++ ": " ++ e.message

/-- A report as an object. -/
def toJson (e : ErrorReport) : Json :=
  let rule := match e.rule with
    | none => Json.null
    | some rule => .text rule
  .object [("file", .text e.file), ("rule", rule), ("error_type", .text e.errorType),
    ("message", .text e.message)]

end ErrorReport

/-! ## Results -/

/-- What came of checking some files. -/
structure LintResult where
  failures : List Failure
  errors : List ErrorReport
  filesChecked : Int
deriving DecidableEq, Repr

namespace LintResult

/-- The result of checking nothing. -/
def empty : LintResult :=
  ⟨[], [], 0⟩

/-- The result of one file that was checked. -/
def ofChecked (failures : List Failure) (errors : List ErrorReport) : LintResult :=
  ⟨failures, errors, 1⟩

/-- The result of one file that could not be read. -/
def ofUnread (e : ErrorReport) : LintResult :=
  ⟨[], [e], 0⟩

/-- Two results together. -/
def merge (r s : LintResult) : LintResult :=
  ⟨r.failures ++ s.failures, r.errors ++ s.errors, r.filesChecked + s.filesChecked⟩

/-- Was nothing found and nothing missed? -/
def isClean (r : LintResult) : Bool :=
  r.failures.isEmpty && r.errors.isEmpty

/-- The result with its failures in order, those at one place staying as they are. -/
def sorted (r : LintResult) : LintResult :=
  { r with failures := r.failures.mergeSort Failure.comesFirst }

/-- A result as an object. -/
def toJson (r : LintResult) : Json :=
  .object [("failures", .list (r.failures.map Failure.toJson)),
    ("errors", .list (r.errors.map ErrorReport.toJson)), ("files_checked", .int r.filesChecked)]

@[simp] theorem empty_merge (r : LintResult) : empty.merge r = r := by
  simp [empty, merge]

@[simp] theorem merge_empty (r : LintResult) : r.merge empty = r := by
  simp [empty, merge]

theorem merge_assoc (r s t : LintResult) : (r.merge s).merge t = r.merge (s.merge t) := by
  simp [merge, Int.add_assoc]

end LintResult

end BodyLength
