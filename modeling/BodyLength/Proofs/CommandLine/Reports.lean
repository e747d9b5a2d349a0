import BodyLength.CommandLine.Run
import BodyLength.Proofs.Json.ReadBack
import BodyLength.Proofs.Outcome

/-!
# The two forms of a report

The result of a run is written as lines or as a document, and the two forms are made apart from each other: each of them
counts the lines and columns of a failure from one by itself. Here a document is read back, with a reader that knows the
names of the members and nothing of the writer, and both forms are compared with what was read.

Unlike the lines, a document has the positions of failures in it. Where one of them has too many digits there is no
document, and a run that is asked for it ends with that.

* `FailureRecord.ofJson?_toJson`, `ErrorReport.ofJson?_toJson`, `LintReport.ofJson?_toJson`: what is written of a
  failure, of an error and of a whole result is read as that, whatever its texts hold.
* `LintReport.read?_written`: the same for the text of the document, if there is one.
* `lines_and_document_agree`: the program ends with the same number in both forms, the document tells the result, and
  the lines tell what the document does.
-/

namespace BodyLength

/-! ## Reading members -/

namespace Json

/-- The member with a name, if a value is an object that has one. -/
def memberOf? (name : String) : Json → Option Json
  | object members => member? name members
  | _ => none

/-- The text, if a value is one. -/
def text? : Json → Option String
  | text s => some s
  | _ => none

/-- The integer, if a value is one. -/
def int? : Json → Option Int
  | number (.whole n) => some n
  | _ => none

/-- The items, if a value is a list. -/
def items? : Json → Option (List Json)
  | list items => some items
  | _ => none

/-- A text or nothing, if a value is one of them. -/
def optionalText? : Json → Option (Option String)
  | null => some none
  | text s => some (some s)
  | _ => none

end Json

/-! ## Reading a document -/

/-- A failure as it is written in a document: its line and its column are counted from one. -/
structure FailureRecord where
  rule : String
  file : String
  start : Int
  stop : Int
  line : Int
  column : Int
  message : String
  length : Int
deriving DecidableEq, Repr

namespace FailureRecord

/-- Reads a failure. -/
def ofJson? (j : Json) : Option FailureRecord := do
  return {
    rule := ← (← j.memberOf? "rule").text?
    file := ← (← j.memberOf? "file").text?
    start := ← (← j.memberOf? "start").int?
    stop := ← (← j.memberOf? "end").int?
    line := ← (← j.memberOf? "line").int?
    column := ← (← j.memberOf? "column").int?
    message := ← (← j.memberOf? "message").text?
    length := ← (← j.memberOf? "length").int? }

/-- The failure that a record is about. -/
def failure (f : FailureRecord) : Failure :=
  ⟨f.rule, f.file, f.start, f.stop, f.line - 1, f.column - 1, f.message, f.length⟩

/-- A record on one line. -/
def asLine (f : FailureRecord) : String :=
  f.file ++ ":" ++ toString f.line ++ ":" ++ toString f.column ++ ": [" ++ f.rule ++ "] " ++ f.message

end FailureRecord

/-- Reads an error. -/
def ErrorReport.ofJson? (j : Json) : Option ErrorReport := do
  return {
    file := ← (← j.memberOf? "file").text?
    message := ← (← j.memberOf? "message").text?
    errorType := ← (← j.memberOf? "error_type").text?
    rule := ← (← j.memberOf? "rule").optionalText? }

/-- What a document tells about a run. -/
structure LintReport where
  failures : List FailureRecord
  errors : List ErrorReport
  filesChecked : Int
deriving DecidableEq, Repr

namespace LintReport

/-- Reads what an object tells. -/
def ofJson? (j : Json) : Option LintReport := do
  return {
    failures := ← (← (← j.memberOf? "failures").items?).mapM FailureRecord.ofJson?
    errors := ← (← (← j.memberOf? "errors").items?).mapM ErrorReport.ofJson?
    filesChecked := ← (← j.memberOf? "files_checked").int? }

/-- Reads a text that is one document and nothing else. -/
def read? (text : String) : Option LintReport :=
  match Json.ofChars text.toList with
  | .ok j => ofJson? j
  | .error _ => none

/-- The line of the three counts. -/
def countsLine (r : LintReport) : String :=
  toString r.filesChecked ++ " files checked, " ++ toString r.failures.length ++ " failures, " ++
    toString r.errors.length ++ " errors"

end LintReport

/-! ## Reading back what was written -/

/-- A failure as a document has it. -/
def Failure.record (f : Failure) : FailureRecord :=
  ⟨f.rule, f.file, f.start, f.stop, f.line + 1, f.column + 1, f.message, f.length⟩

/-- A result as a document has it. -/
def LintResult.report (r : LintResult) : LintReport :=
  ⟨r.failures.map Failure.record, r.errors, r.filesChecked⟩

/-- A failure is made of its record again. -/
@[simp]
theorem Failure.failure_record (f : Failure) : f.record.failure = f := by
  simp [record, FailureRecord.failure]

/-- Both forms count lines and columns alike. -/
theorem Failure.asLine_record (f : Failure) : f.record.asLine = f.text :=
  rfl

/-- What is written of a failure is read as its record. -/
theorem FailureRecord.ofJson?_toJson (f : Failure) : ofJson? f.toJson = some f.record := by
  simp [ofJson?, Failure.toJson, Failure.record, Json.memberOf?, Json.member?, Json.text?, Json.int?, Json.int]

/-- What is written of an error is read as that error. -/
theorem ErrorReport.ofJson?_toJson (e : ErrorReport) : ofJson? e.toJson = some e := by
  obtain ⟨file, message, errorType, rule⟩ := e
  cases rule <;> simp [ofJson?, toJson, Json.memberOf?, Json.member?, Json.text?, Json.optionalText?]

/-- Items that are each read as what they were written for are read together. -/
theorem mapM_map_eq_some {α β γ : Type} {write : α → β} {read : β → Option γ} {kept : α → γ}
    (h : ∀ a, read (write a) = some (kept a)) (items : List α) :
    (items.map write).mapM read = some (items.map kept) := by
  induction items with
  | nil => rfl
  | cons a rest ih => simp [h, ih]

/-- What is written of a result is read as its report. -/
theorem LintReport.ofJson?_toJson (r : LintResult) : ofJson? r.toJson = some r.report := by
  have hfailures := mapM_map_eq_some FailureRecord.ofJson?_toJson r.failures
  have herrors := mapM_map_eq_some ErrorReport.ofJson?_toJson r.errors
  rw [List.map_id'] at herrors
  simp [ofJson?, LintResult.toJson, LintResult.report, Json.memberOf?, Json.member?, Json.items?, Json.int?, Json.int,
    hfailures, herrors]

/-! ## The text of a document -/

/-- All numbers of a failure are integers, so that nothing of it is lost in writing. -/
theorem Failure.isExact_toJson (f : Failure) : f.toJson.IsExact := by
  refine ⟨by simp, ?_⟩
  simp [Json.HoldExact, Json.IsExact, Json.int]

/-- An error has no numbers. -/
theorem ErrorReport.isExact_toJson (e : ErrorReport) : e.toJson.IsExact := by
  obtain ⟨file, message, errorType, rule⟩ := e
  refine ⟨by simp, ?_⟩
  cases rule <;> simp [Json.HoldExact, Json.IsExact]

/-- Nothing of a result is lost in writing. -/
theorem LintResult.isExact_toJson (r : LintResult) : r.toJson.IsExact := by
  have hfailures : Json.AreExact (r.failures.map Failure.toJson) := by
    rw [Json.areExact_iff, List.forall_mem_map]
    exact fun f _ => f.isExact_toJson
  have herrors : Json.AreExact (r.errors.map ErrorReport.toJson) := by
    rw [Json.areExact_iff, List.forall_mem_map]
    exact fun e _ => e.isExact_toJson
  exact ⟨by simp, hfailures, herrors, trivial, trivial⟩

/-- The document of a result is read as that result. -/
theorem LintReport.read?_written {r : LintResult} {output : Output} (h : r.asDocument = .ok output) :
    read? (Output.written output.results) = some r.report := by
  unfold LintResult.asDocument at h
  split at h
  · rename_i hwritable
    cases h
    have hwritten : Output.written [r.toJson.indented 0] = r.toJson.indented 0 ++ "\n" := by
      simp [Output.written, String.join]
    rw [read?, hwritten, Json.ofChars_indented r.isExact_toJson hwritable]
    exact ofJson?_toJson r
  · cases h

/-- There is a document exactly if everything in it can be written out. -/
theorem LintResult.exists_asDocument_iff {r : LintResult} :
    (∃ output, r.asDocument = .ok output) ↔ r.toJson.isWritable = true := by
  unfold asDocument
  split <;> simp_all

/-! ## Runs -/

/-- Do some arguments ask for paths to be checked, and for a document if `asJson`? -/
def AskToLint (arguments paths : List String) (asked : Option String) (recursive asJson : Bool) : Prop :=
  ∃ verbose, Invocation.ofArguments arguments = .ok ⟨verbose, .lint paths asked recursive asJson⟩

section Runs

variable {s : Environment} {paths : List String} {asked : Option String} {recursive : Bool} {config : Config}
  {result : LintResult}

/-- A run that has a result writes it in the form that it was asked for, and its remarks in front of it, if the result
has that form. -/
theorem exists_runProgram_eq {arguments : List String} {asJson : Bool}
    (hask : AskToLint arguments paths asked recursive asJson)
    (hconfig : (loadConfig (Registry.standard.map Prod.fst) s asked).outcome = .ok (.ok config))
    (hresult : (lintPaths Registry.standard config s.files recursive (paths.map Path.ofText)).outcome =
      .ok result) :
    (∀ output, result.output asJson = .ok output →
      ∃ notices, runProgram s arguments = ⟨output.preceded notices, none⟩) ∧
    ∀ why, result.output asJson = .error why → (runProgram s arguments).aborted = some why := by
  obtain ⟨verbose, harguments⟩ := hask
  have hwork : ((Command.lint paths asked recursive asJson).run s).outcome = result.output asJson := by
    simp only [Command.run, runLint, Work.bind_eq_andThen, Work.andThen_outcome, hconfig, Except.bind, hresult]
  rw [runProgram, harguments]
  constructor
  · intro output houtput
    simp only [Invocation.run, hwork, houtput]
    exact ⟨_, rfl⟩
  · intro why hwhy
    simp only [Invocation.run, hwork, hwhy]

/-- In both forms a run ends with the same number. -/
theorem LintResult.exit_output {r : LintResult} {asJson : Bool} {output : Output} (h : r.output asJson = .ok output) :
    output.exit = if r.failures = [] ∧ r.errors = [] then 0 else 1 := by
  have hexit : r.exit = if r.failures = [] ∧ r.errors = [] then 0 else 1 := by simp [exit, isClean]
  rw [← hexit]
  unfold LintResult.output at h
  split at h
  · unfold asDocument at h
    split at h
    · cases h
      rfl
    · cases h
  · cases h
    rfl

/-- Whenever there is a result, the lines and the document tell it alike. The program ends with the same number, zero
if the result is empty and one otherwise. What it writes as a document is one document, which is read as the failures of
the result in their order, its errors and the number of its files. And the lines are those of the failures that the
document tells of, in their order, and below them the three counts of the document. The run for the lines always comes
to its end, and the one for the document exactly if everything in it can be written out. -/
theorem lines_and_document_agree {arguments arguments' : List String}
    (hlines : AskToLint arguments paths asked recursive false)
    (hdocument : AskToLint arguments' paths asked recursive true)
    (hconfig : (loadConfig (Registry.standard.map Prod.fst) s asked).outcome = .ok (.ok config))
    (hresult : (lintPaths Registry.standard config s.files recursive (paths.map Path.ofText)).outcome =
      .ok result) :
    ((runProgram s arguments).aborted = none ∧
      ((runProgram s arguments').aborted = none ↔ result.toJson.isWritable = true)) ∧
    (∀ run ∈ [runProgram s arguments, runProgram s arguments'], run.aborted = none →
      run.output.exit = if result.failures = [] ∧ result.errors = [] then 0 else 1) ∧
    ((runProgram s arguments').aborted = none →
      ∃ report, LintReport.read? (Output.written (runProgram s arguments').output.results) = some report ∧
        report.failures.map FailureRecord.failure = result.failures ∧
        report.errors = result.errors ∧
        report.filesChecked = result.filesChecked ∧
        (runProgram s arguments).output.results =
          report.failures.map FailureRecord.asLine ++ ["", report.countsLine]) := by
  obtain ⟨hlinesRun, -⟩ := exists_runProgram_eq hlines hconfig hresult
  obtain ⟨hdocumentRun, hnoDocument⟩ := exists_runProgram_eq hdocument hconfig hresult
  obtain ⟨notices, hrun⟩ := hlinesRun _ rfl
  -- the run with a document ends early only for a document that cannot be written
  have hwritable : (runProgram s arguments').aborted = none ↔ ∃ output, result.asDocument = .ok output := by
    constructor
    · intro hnone
      cases hasDocument : result.asDocument with
      | ok output => exact ⟨output, rfl⟩
      | error why => cases hnone.symm.trans (hnoDocument why hasDocument)
    · rintro ⟨output, houtput⟩
      obtain ⟨notices', hrun'⟩ := hdocumentRun output houtput
      rw [hrun']
  refine ⟨⟨by rw [hrun], hwritable.trans LintResult.exists_asDocument_iff⟩, fun run hmem hnone => ?_, fun hnone => ?_⟩
  · rcases List.mem_pair.mp hmem with rfl | rfl
    · -- either way the exit is that of the result
      have hform : result.output false = .ok result.asLines := rfl
      rw [hrun, ← LintResult.exit_output hform]
      rfl
    · obtain ⟨output, houtput⟩ := hwritable.mp hnone
      obtain ⟨notices', hrun'⟩ := hdocumentRun output houtput
      have hform : result.output true = .ok output := houtput
      rw [hrun', ← LintResult.exit_output hform]
      rfl
  · obtain ⟨output, houtput⟩ := hwritable.mp hnone
    obtain ⟨notices', hrun'⟩ := hdocumentRun output houtput
    -- the lines are made of the failures, and the same lines can be made of what is read of the document
    have hfailures : result.failures.map Failure.text =
        (result.failures.map Failure.record).map FailureRecord.asLine := by
      rw [List.map_map]
      exact List.map_congr_left fun f _ => f.asLine_record.symm
    have hcounts : result.summary = result.report.countsLine := by
      simp [LintResult.summary, LintReport.countsLine, LintResult.report]
    have hread := LintReport.read?_written houtput
    rw [hrun, hrun']
    refine ⟨result.report, hread, ?_, rfl, rfl, ?_⟩
    · simp [LintResult.report, Function.comp_def]
    · simp only [LintResult.asLines, Output.preceded, hfailures, hcounts, LintResult.report]

end Runs

/-- A file that is no program, and a document of a file whose name has a mark, a character of two escapes and the end of
a line. No body may have a second line. -/
def quotedFolder : Environment :=
  ⟨.folder [("funclint.yaml", .file (Utf8.encode "rules:\n  max-func-body-length: [0]".toList)), ("a.py", .file (some [0])),
    ("b.json", .file (Utf8.encode ("\x7b\"_type\": \"source_file\", \"filename\": \"\\\"😀\\n\", ".toList ++
      "\"text\": \"a\\nb\", \"root\": \x7b\"kind\": \"constructor\", \"start\": 0, \"end\": 3, ".toList ++
      "\"body\": \x7b\"start\": 0, \"end\": 3\x7d\x7d\x7d".toList)))],
    "home", none, readYamlFile⟩

/-- The lines and the document tell of one failure in the file with that name, and of one error. -/
theorem quotedFolder_is_told_alike :
    AskToLint ["lint", "a.py", "b.json"] ["a.py", "b.json"] none false false ∧
    AskToLint ["lint", "--json", "a.py", "b.json"] ["a.py", "b.json"] none false true ∧
    ∃ config result,
      (loadConfig (Registry.standard.map Prod.fst) quotedFolder none).outcome = .ok (.ok config) ∧
      (lintPaths Registry.standard config quotedFolder.files false (["a.py", "b.json"].map Path.ofText)).outcome =
        .ok result ∧
      (result.failures.map Failure.file = ["\"😀\n"] ∧ result.errors.map ErrorReport.file = ["a.py"]) ∧
      (runProgram quotedFolder ["lint", "a.py", "b.json"]).output.exit = 1 ∧
      ∃ report, LintReport.read? (Output.written
          (runProgram quotedFolder ["lint", "--json", "a.py", "b.json"]).output.results) = some report ∧
        report.failures.map FailureRecord.failure = result.failures := by
  have hlines : AskToLint ["lint", "a.py", "b.json"] ["a.py", "b.json"] none false false := ⟨false, rfl⟩
  have hdocument : AskToLint ["lint", "--json", "a.py", "b.json"] ["a.py", "b.json"] none false true := ⟨false, rfl⟩
  -- that there are a configuration and a result, and what is in the result, is found by evaluation
  have hgiven : (match (loadConfig (Registry.standard.map Prod.fst) quotedFolder none).outcome with
      | .ok (.ok config) =>
        match (lintPaths Registry.standard config quotedFolder.files false
            (["a.py", "b.json"].map Path.ofText)).outcome with
        | .ok result => decide (result.failures.map Failure.file = ["\"😀\n"] ∧
            result.errors.map ErrorReport.file = ["a.py"])
        | .error _ => false
      | _ => false) = true := by decide +kernel
  split at hgiven
  · rename_i config hconfig
    split at hgiven
    · rename_i result hresult
      have hfiles := of_decide_eq_true hgiven
      obtain ⟨⟨hended, -⟩, hruns, hreport⟩ := lines_and_document_agree hlines hdocument hconfig hresult
      have hexit := hruns _ List.mem_cons_self hended
      have hended' : (runProgram quotedFolder ["lint", "--json", "a.py", "b.json"]).aborted = none := by
        rw [← Option.isNone_iff_eq_none]
        decide +kernel
      obtain ⟨report, hread, hfailures, -⟩ := hreport hended'
      have hfound : result.failures ≠ [] := by
        intro hnil
        rw [hnil] at hfiles
        cases hfiles.1
      rw [if_neg fun hclean => hfound hclean.1] at hexit
      exact ⟨hlines, hdocument, config, result, hconfig, hresult, hfiles, hexit, report, hread, hfailures⟩
    · cases hgiven
  · cases hgiven

end BodyLength
