import BodyLength.Lint.Run
import BodyLength.Proofs.Outcome

/-!
# Runs that go through

A rule may give failures, fail with an error, or end the run. Only the last of these is felt outside of the rule and the
file: an error becomes a report, and a file that has no tree becomes one as well. Besides rules there is only one thing
that ends a run, a document with an integer that is too long to be read. It does so when the document is to be told from
others in a folder, and when its tree is to be made.

So a run goes through exactly if the files that it is to check can be listed, and each of them can be checked.

* `lintSourceFile_outcome_of_rules_eq_singleton`: what one rule comes to on a file, as a result.
* `HasTree`, `FailsToLoad`, `EndsLoading`: what the frontend of a file makes of it, one of the three.
* `completes_lintFile_iff`: checking a file goes through exactly if its loading does not end the run and no rule does.
* `completes_lintPaths_iff`: a run goes through exactly if it does so on each of its files.
-/

namespace BodyLength

/-! ## One rule -/

/-- What a rule that found failures, or failed, adds to a result. -/
def ruleOutcome (name filename : String) : Except RuleFault (List Failure) → Except Abort LintResult
  | .ok failures => .ok ⟨failures, [], 0⟩
  | .error (.error e) => .ok ⟨[], [ruleReport name filename e], 0⟩
  | .error (.abort why) => .error why

/-- Running a rule comes to what is made of its check. -/
theorem lintByRule_outcome {registry : Registry} {name : String} {rule : LintRule}
    (h : registry.find? name = some rule) (file : SourceFile) (options : List Value) :
    (lintByRule registry file name options).outcome = ruleOutcome name file.filename (rule.check options file) := by
  simp only [lintByRule, h, Work.bind_eq_andThen, Work.pure_eq_done, Work.andThen_outcome, LintRule.run]
  cases rule.check options file with
  | ok failures => rfl
  | error fault =>
      cases fault with
      | error e => rfl
      | abort why => rfl

/-- The rules of a configuration that has one rule only give what that rule gives. -/
theorem lintSourceFile_outcome_of_rules_eq_singleton {registry : Registry} {config : Config} {name : String}
    {options : List Value} {rule : LintRule} (hrules : config.rules = [(name, options)])
    (h : registry.find? name = some rule) (file : SourceFile) :
    (lintSourceFile registry config file).outcome =
      (ruleOutcome name file.filename (rule.check options file)).map
        fun r => { r with filesChecked := r.filesChecked + 1 } := by
  simp only [lintSourceFile, hrules, lintByRules, Work.bind_eq_andThen, Work.pure_eq_done, Work.andThen_outcome,
    lintByRule_outcome h]
  cases ruleOutcome name file.filename (rule.check options file) with
  | error why => rfl
  | ok result => simp [Except.bind, Except.map, LintResult.merge, LintResult.ofChecked, LintResult.empty, Int.add_comm]

/-- Without rules nothing is found. -/
theorem lintSourceFile_outcome_of_rules_eq_nil {registry : Registry} {config : Config} (hrules : config.rules = [])
    (file : SourceFile) : (lintSourceFile registry config file).outcome = .ok ⟨[], [], 1⟩ := by
  simp only [lintSourceFile, hrules, lintByRules]
  rfl

/-! ## One file -/

/-- Is a tree made of the file at a path? -/
def HasTree (tree : Entry) (p : Path) (file : SourceFile) : Prop :=
  ∃ frontend, Frontend.ofSuffix? p.suffix = some frontend ∧ frontend.load tree p.text = .ok file

/-- Is there no tree for the file at a path, because of an error? -/
def FailsToLoad (tree : Entry) (p : Path) (e : LoadError) : Prop :=
  ∃ frontend, Frontend.ofSuffix? p.suffix = some frontend ∧ frontend.load tree p.text = .error (.error e)

/-- Does the attempt to make a tree of the file at a path end the run? -/
def EndsLoading (tree : Entry) (p : Path) (why : Abort) : Prop :=
  ∃ frontend, Frontend.ofSuffix? p.suffix = some frontend ∧ frontend.load tree p.text = .error (.abort why)

/-- Has the file at a path no frontend? -/
def Path.lacksFrontend (p : Path) : Bool :=
  (Frontend.ofSuffix? p.suffix).isNone

section File

variable {registry : Registry} {config : Config} {tree : Entry} {p : Path}

/-- A file has no frontend, or its frontend makes a tree of it, or fails, or ends the run. -/
theorem lacksFrontend_or_loads (tree : Entry) (p : Path) :
    p.lacksFrontend = true ∨ (∃ file, HasTree tree p file) ∨ (∃ e, FailsToLoad tree p e) ∨
      ∃ why, EndsLoading tree p why := by
  cases hfrontend : Frontend.ofSuffix? p.suffix with
  | none => exact Or.inl (by rw [Path.lacksFrontend, hfrontend, Option.isNone_none])
  | some frontend =>
      apply Or.inr
      cases hload : frontend.load tree p.text with
      | ok file => exact Or.inl ⟨file, frontend, hfrontend, hload⟩
      | error fault =>
          cases fault with
          | error e => exact Or.inr (Or.inl ⟨e, frontend, hfrontend, hload⟩)
          | abort why => exact Or.inr (Or.inr ⟨why, frontend, hfrontend, hload⟩)

/-- A file without a frontend adds nothing. -/
theorem lintFile_outcome_of_lacksFrontend (h : p.lacksFrontend = true) :
    (lintFile registry config tree p).outcome = .ok .empty := by
  rw [Path.lacksFrontend, Option.isNone_iff_eq_none] at h
  simp [lintFile, h]

/-- A file without a tree gives one report, which is about no rule. -/
theorem lintFile_outcome_of_failsToLoad {e : LoadError} (h : FailsToLoad tree p e) :
    (lintFile registry config tree p).outcome = .ok (.ofUnread (loadReport p.text e)) := by
  obtain ⟨frontend, hfrontend, hload⟩ := h
  simp [lintFile, hfrontend, Frontend.run, hload, Fault.settle, Work.andThen_outcome, Except.bind]

/-- A file that has a tree gives what checking its tree gives. -/
theorem lintFile_outcome_of_hasTree {file : SourceFile} (h : HasTree tree p file) :
    (lintFile registry config tree p).outcome = (lintSourceFile registry config file).outcome := by
  obtain ⟨frontend, hfrontend, hload⟩ := h
  simp [lintFile, hfrontend, Frontend.run, hload, Fault.settle, Work.andThen_outcome, Except.bind]

/-- What ends the loading of a file ends the run. -/
theorem lintFile_outcome_of_endsLoading {why : Abort} (h : EndsLoading tree p why) :
    (lintFile registry config tree p).outcome = .error why := by
  obtain ⟨frontend, hfrontend, hload⟩ := h
  simp [lintFile, hfrontend, Frontend.run, hload, Fault.settle, Work.andThen_outcome, Except.bind]

/-- What has a tree has a frontend. -/
theorem HasTree.not_lacksFrontend {file : SourceFile} (h : HasTree tree p file) : p.lacksFrontend = false := by
  obtain ⟨frontend, hfrontend, -⟩ := h
  rw [Path.lacksFrontend, hfrontend, Option.isNone_some]

/-- So has what fails to load. -/
theorem FailsToLoad.not_lacksFrontend {e : LoadError} (h : FailsToLoad tree p e) : p.lacksFrontend = false := by
  obtain ⟨frontend, hfrontend, -⟩ := h
  rw [Path.lacksFrontend, hfrontend, Option.isNone_some]

/-- Checking a file goes through exactly if its tree can be checked, where it has one, and the attempt to make it does
not end the run. -/
theorem completes_lintFile_iff : (lintFile registry config tree p).Completes ↔
    (∀ why, ¬ EndsLoading tree p why) ∧
      ∀ file, HasTree tree p file → (lintSourceFile registry config file).Completes := by
  unfold Work.Completes
  constructor
  · rintro ⟨r, hr⟩
    refine ⟨fun why hends => ?_, fun file htree => ⟨r, ?_⟩⟩
    · rw [lintFile_outcome_of_endsLoading hends] at hr
      cases hr
    · rw [← lintFile_outcome_of_hasTree htree, hr]
  · rintro ⟨hends, htrees⟩
    -- one of four things becomes of a file, and only one of them is up to the rules
    rcases lacksFrontend_or_loads tree p with hlacks | ⟨file, htree⟩ | ⟨e, hfails⟩ | ⟨why, hwhy⟩
    · exact ⟨_, lintFile_outcome_of_lacksFrontend hlacks⟩
    · rw [lintFile_outcome_of_hasTree htree]
      exact htrees file htree
    · exact ⟨_, lintFile_outcome_of_failsToLoad hfails⟩
    · exact absurd hwhy (hends why)

end File

/-! ## Files among what is met -/

namespace Finding

variable {n : Notice} {p : Path} {rest found : List Finding} {files : List Path}

/-- The path that is met, if it is one. -/
def path? : Finding → Option Path
  | path p => some p
  | _ => none

/-- Are some paths all that is met, but for remarks? -/
def Lists (found : List Finding) (files : List Path) : Prop :=
  (Finding.files found).outcome = .ok files

/-- Nothing lists nothing. -/
@[simp] theorem lists_nil_iff : Lists [] files ↔ files = [] := by
  simp [Lists, Finding.files, eq_comm]

/-- A remark changes nothing about the list. -/
@[simp] theorem lists_remark_iff : Lists (remark n :: rest) files ↔ Lists rest files := by
  simp [Lists, Finding.files]

/-- A path that is met first is the first one of the list. -/
@[simp] theorem lists_path_iff :
    Lists (path p :: rest) files ↔ ∃ others, files = p :: others ∧ Lists rest others := by
  unfold Lists
  rw [Finding.files, Work.bind_eq_andThen, Work.andThen_outcome]
  cases (Finding.files rest).outcome with
  | error why => simp [Except.bind]
  | ok others => simp [Except.bind, eq_comm]

/-- Where the run ends there is no list. -/
@[simp] theorem not_lists_abort {why : Abort} : ¬ Lists (abort why :: rest) files := by
  simp [Lists, Finding.files, Work.abort]

/-- What is met can be listed exactly if nothing of it ends the run, and the list is that of the paths. -/
theorem lists_iff : Lists found files ↔ (∀ why, abort why ∉ found) ∧ found.filterMap path? = files := by
  -- a path is listed, a remark is passed, and what ends the run leaves no list at all
  induction found generalizing files with
  | nil => simp [eq_comm]
  | cons finding rest ih =>
      cases finding with
      | path p =>
          have hpath : (Finding.path p).path? = some p := rfl
          rw [lists_path_iff, List.filterMap_cons_some hpath]
          simp only [ih, List.mem_cons, reduceCtorEq, false_or]
          constructor
          · rintro ⟨_, rfl, hrest, rfl⟩
            exact ⟨hrest, rfl⟩
          · rintro ⟨hrest, rfl⟩
            exact ⟨_, rfl, hrest, rfl⟩
      | remark n =>
          have hremark : (Finding.remark n).path? = none := rfl
          rw [lists_remark_iff, ih, List.filterMap_cons_none hremark]
          simp
      | abort why => exact iff_of_false not_lists_abort fun h => h.1 why List.mem_cons_self

/-- What ends the listing is met. -/
theorem abort_mem_of_files_eq_error {why : Abort} (h : (Finding.files found).outcome = .error why) :
    abort why ∈ found := by
  induction found with
  | nil => cases h
  | cons finding rest ih =>
      cases finding with
      | path p =>
          rw [Finding.files, Work.bind_eq_andThen, Work.andThen_outcome] at h
          cases hrest : (Finding.files rest).outcome with
          | ok others =>
              rw [hrest] at h
              cases h
          | error why' =>
              rw [hrest] at h
              cases h
              exact List.mem_cons_of_mem _ (ih hrest)
      | remark n => exact List.mem_cons_of_mem _ (ih h)
      | abort why' =>
          cases h
          exact List.mem_cons_self

end Finding

/-! ## Many files -/

section Files

variable {registry : Registry} {config : Config} {tree : Entry}

/-- A run over what is met goes through exactly if that can be listed and each file of the list can be checked. -/
theorem completes_lintFindings_iff (found : List Finding) :
    (lintFindings registry config tree found).Completes ↔
      ∃ files, Finding.Lists found files ∧ ∀ p ∈ files, (lintFile registry config tree p).Completes := by
  induction found with
  | nil => simpa [lintFindings] using Work.completes_done _
  | cons finding rest ih =>
      cases finding with
      | path p =>
          have hrest (first : LintResult) := Work.completes_andThen_iff_of_forall
            (w := lintFindings registry config tree rest) fun others => Work.completes_done (first.merge others)
          rw [lintFindings, Work.bind_eq_andThen, Work.completes_andThen_iff]
          simp only [Work.bind_eq_andThen, Work.pure_eq_done, hrest, exists_and_right, ih, Finding.lists_path_iff]
          -- the first file and the others go through together exactly if each does
          constructor
          · rintro ⟨hfirst, others, hothers, hall⟩
            exact ⟨p :: others, ⟨others, rfl, hothers⟩, List.forall_mem_cons.mpr ⟨hfirst, hall⟩⟩
          · rintro ⟨_, ⟨others, rfl, hothers⟩, hall⟩
            obtain ⟨hfirst, hall⟩ := List.forall_mem_cons.mp hall
            exact ⟨hfirst, others, hothers, hall⟩
      | remark n =>
          simp only [lintFindings, Work.bind_eq_andThen, Work.completes_andThen_iff, ih, Finding.lists_remark_iff]
          simp [Work.remark]
      | abort why => simp [lintFindings, Work.Completes, Work.abort]

/-- A run goes through exactly if its files can be listed and each of them can be checked. -/
theorem completes_lintPaths_iff (recursive : Bool) (paths : List Path) :
    (lintPaths registry config tree recursive paths).Completes ↔
      ∃ files, (config.selectFiles tree recursive paths).outcome = .ok files ∧
        ∀ p ∈ files, (lintFile registry config tree p).Completes := by
  refine Iff.trans ?_ (completes_lintFindings_iff (config.findingsAll tree recursive paths))
  unfold lintPaths
  simp only [Work.bind_eq_andThen, Work.pure_eq_done]
  rw [Work.completes_andThen_iff]
  simp [Work.Completes]

end Files

end BodyLength
