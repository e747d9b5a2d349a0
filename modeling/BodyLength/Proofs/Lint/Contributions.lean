import BodyLength.Proofs.Lint.Gathering

/-!
# What each rule adds

A configuration has a table of rules, and all of them are run on a file that has a tree. What an entry of the table adds
to the result is said without the other entries: the failures that its rule finds, or one report if the rule fails, or
nothing if there is no rule with the name. The result is these additions in the order of the table, so that an entry can
be taken out or put elsewhere, and all that changes is what it adds itself. A rule that fails adds no failures.

This holds as long as no rule ends the run, which none does that finds failures or fails with an error.

* `Registry.failuresOf`, `Registry.reportOf?`: what an entry of a table adds.
* `lintByRule_outcome_of_handles`, `lintByRules_outcome_of_handles`: one rule, and all rules of a table.
* `rules_are_isolated`: what the result of a file is, and what becomes of it without an entry or with one elsewhere.
-/

namespace BodyLength

/-! ## One rule -/

namespace LintRule

variable (rule : LintRule) (options : List Value) (file : SourceFile)

/-- Does a rule that is run on a file find failures or fail with an error? -/
def Handles : Prop :=
  (∃ failures, rule.check options file = .ok failures) ∨ ∃ e, rule.check options file = .error (.error e)

/-- The failures that a rule finds. One that fails finds none. -/
def found : List Failure :=
  match rule.check options file with
  | .ok failures => failures
  | .error _ => []

/-- The error with which a rule fails, if it does. -/
def error? : Option RuleError :=
  match rule.check options file with
  | .error (.error e) => some e
  | _ => none

end LintRule

namespace Registry

variable (registry : Registry) (file : SourceFile)

/-- Do the rules of a table find failures or fail with errors? Names without a rule are no matter. -/
def Handles (table : List (String × List Value)) : Prop :=
  ∀ entry ∈ table, ∀ rule, registry.find? entry.1 = some rule → rule.Handles entry.2 file

/-- The failures that an entry of a table adds. -/
def failuresOf (entry : String × List Value) : List Failure :=
  match registry.find? entry.1 with
  | none => []
  | some rule => rule.found entry.2 file

/-- The report that an entry of a table adds, if its rule fails. It is about the file, and about the rule by the name
that the table has for it. -/
def reportOf? (entry : String × List Value) : Option ErrorReport :=
  ((registry.find? entry.1).bind fun rule => rule.error? entry.2 file).map fun e =>
    ⟨file.filename, e.message, e.typeName, some entry.1⟩

/-- What an entry of a table adds to a result. -/
def contribution (entry : String × List Value) : LintResult :=
  ⟨registry.failuresOf file entry, (registry.reportOf? file entry).toList, 0⟩

end Registry

section Rules

variable {registry : Registry} {file : SourceFile} {name : String} {options : List Value} {rule : LintRule}
  {table before after : List (String × List Value)}

variable (file options) in
/-- A name without a rule adds nothing. -/
theorem Registry.adds_of_find?_eq_none (h : registry.find? name = none) :
    registry.failuresOf file (name, options) = [] ∧ registry.reportOf? file (name, options) = none := by
  simp [failuresOf, reportOf?, h]

/-- A rule that finds failures adds them and no error. -/
theorem Registry.adds_of_eq_ok {failures : List Failure} (h : registry.find? name = some rule)
    (hcheck : rule.check options file = .ok failures) :
    registry.failuresOf file (name, options) = failures ∧ registry.reportOf? file (name, options) = none := by
  simp [failuresOf, reportOf?, h, LintRule.found, LintRule.error?, hcheck]

/-- A rule that fails adds a report and leaves no failures behind. -/
theorem Registry.adds_of_eq_error {e : RuleError} (h : registry.find? name = some rule)
    (hcheck : rule.check options file = .error (.error e)) : registry.failuresOf file (name, options) = [] ∧
      registry.reportOf? file (name, options) = some ⟨file.filename, e.message, e.typeName, some name⟩ := by
  simp [failuresOf, reportOf?, h, LintRule.found, LintRule.error?, hcheck]

/-- One rule gives what its entry adds. -/
theorem lintByRule_outcome_of_handles (h : ∀ rule, registry.find? name = some rule → rule.Handles options file) :
    (lintByRule registry file name options).outcome = .ok (registry.contribution file (name, options)) := by
  rw [Registry.contribution]
  cases hrule : registry.find? name with
  | none =>
      obtain ⟨hfailures, hreport⟩ := Registry.adds_of_find?_eq_none file options hrule
      simp [lintByRule, hrule, hfailures, hreport, LintResult.empty]
  | some rule =>
      rw [lintByRule_outcome hrule]
      rcases h rule hrule with ⟨failures, hcheck⟩ | ⟨e, hcheck⟩
      · obtain ⟨hfailures, hreport⟩ := Registry.adds_of_eq_ok hrule hcheck
        simp [hcheck, ruleOutcome, hfailures, hreport]
      · obtain ⟨hfailures, hreport⟩ := Registry.adds_of_eq_error hrule hcheck
        simp [hcheck, ruleOutcome, ruleReport, hfailures, hreport]

/-- A rule goes through exactly if it finds failures or fails with an error. -/
theorem completes_lintByRule_iff : (lintByRule registry file name options).Completes ↔
    ∀ rule, registry.find? name = some rule → rule.Handles options file := by
  refine ⟨?_, fun h => ⟨_, lintByRule_outcome_of_handles h⟩⟩
  rintro ⟨r, hr⟩ rule hrule
  rw [lintByRule_outcome hrule] at hr
  cases hcheck : rule.check options file with
  | ok failures => exact Or.inl ⟨failures, hcheck⟩
  | error fault =>
      cases fault with
      | error e => exact Or.inr ⟨e, hcheck⟩
      | abort why =>
          rw [hcheck] at hr
          cases hr

/-! ## All rules -/

/-- A table is handled if its first rule is and the others are. -/
theorem Registry.handles_cons_iff : registry.Handles file ((name, options) :: table) ↔
    (∀ rule, registry.find? name = some rule → rule.Handles options file) ∧ registry.Handles file table :=
  List.forall_mem_cons

/-- Rules that go through do so in any other order and without some of them. -/
theorem Registry.Handles.mono {table' : List (String × List Value)} (h : registry.Handles file table)
    (hsub : table' ⊆ table) : registry.Handles file table' :=
  fun entry hentry => h entry (hsub hentry)

/-- The rules of a table give what its entries add, in the order of the table. -/
theorem lintByRules_outcome_of_handles (h : registry.Handles file table) :
    (lintByRules registry file table).outcome = .ok (LintResult.gather (table.map (registry.contribution file))) := by
  induction table with
  | nil => rfl
  | cons entry rest ih =>
      obtain ⟨name, options⟩ := entry
      obtain ⟨hfirst, hrest⟩ := Registry.handles_cons_iff.mp h
      simp [lintByRules, Work.andThen_outcome, lintByRule_outcome_of_handles hfirst, ih hrest, Except.bind]

/-- The rules of a table go through exactly if each of them finds failures or fails with an error. -/
theorem completes_lintByRules_iff :
    (lintByRules registry file table).Completes ↔ registry.Handles file table := by
  refine ⟨fun h => ?_, fun h => ⟨_, lintByRules_outcome_of_handles h⟩⟩
  induction table with
  | nil => exact List.forall_mem_nil _
  | cons entry rest ih =>
      obtain ⟨name, options⟩ := entry
      rw [lintByRules, Work.bind_eq_andThen, Work.completes_andThen_iff] at h
      obtain ⟨first, hfirst, h⟩ := h
      rw [Work.bind_eq_andThen, Work.completes_andThen_iff] at h
      obtain ⟨others, hothers, -⟩ := h
      exact Registry.handles_cons_iff.mpr ⟨completes_lintByRule_iff.mp ⟨first, hfirst⟩, ih ⟨others, hothers⟩⟩

/-- What the rules of a table add is all their failures and all their errors, in the order of the table. -/
theorem Registry.gather_contribution (table : List (String × List Value)) :
    LintResult.gather (table.map (registry.contribution file)) =
      ⟨table.flatMap (registry.failuresOf file), table.filterMap (registry.reportOf? file), 0⟩ := by
  induction table with
  | nil => rfl
  | cons entry rest ih =>
      rw [List.map_cons, LintResult.gather_cons, ih]
      cases hreport : registry.reportOf? file entry <;> simp [contribution, LintResult.merge, hreport]

/-- A file that is checked by a table has one result: all failures, and one report for each rule that fails. -/
theorem lintSourceFile_outcome_of_handles {config : Config} (h : registry.Handles file config.rules) :
    (lintSourceFile registry config file).outcome = .ok ⟨config.rules.flatMap (registry.failuresOf file),
      config.rules.filterMap (registry.reportOf? file), 1⟩ := by
  simp [lintSourceFile, Work.andThen_outcome, lintByRules_outcome_of_handles h, Registry.gather_contribution,
    Except.bind, LintResult.merge, LintResult.ofChecked]

/-- The rules go through on a file exactly if each of them does. -/
theorem completes_lintSourceFile_iff_handles {config : Config} :
    (lintSourceFile registry config file).Completes ↔ registry.Handles file config.rules := by
  rw [← completes_lintByRules_iff]
  exact Work.completes_andThen_iff_of_forall fun _ => Work.completes_done _

/-- The result of a table in two parts. -/
theorem lintSourceFile_outcome_append (config : Config) (h : registry.Handles file (before ++ after)) :
    (lintSourceFile registry { config with rules := before ++ after } file).outcome =
      .ok ⟨before.flatMap (registry.failuresOf file) ++ after.flatMap (registry.failuresOf file),
        before.filterMap (registry.reportOf? file) ++ after.filterMap (registry.reportOf? file), 1⟩ := by
  rw [lintSourceFile_outcome_of_handles h, List.flatMap_append, List.filterMap_append]

end Rules

/-- **A rule that fails is felt by nobody else.** The rules of a table go through on a file exactly if each of them
finds failures or fails with an error. Then the file is checked, the failures are those of the rules that found some and
the errors are one report for each rule that failed, both in the order of the table. A name without a rule can be left
out. A rule that fails can be left out as well, or put elsewhere in the table: no failure comes or goes, and the reports
of the other rules keep their order. -/
theorem rules_are_isolated (registry : Registry) (config : Config) (file : SourceFile) :
    ((lintSourceFile registry config file).Completes ↔ registry.Handles file config.rules) ∧
    (registry.Handles file config.rules →
      ∃ r, (lintSourceFile registry config file).outcome = .ok r ∧ r.filesChecked = 1 ∧
        r.failures = config.rules.flatMap (registry.failuresOf file) ∧
        r.errors = config.rules.filterMap (registry.reportOf? file) ∧
        (∀ before name options after, config.rules = before ++ (name, options) :: after →
          registry.find? name = none →
            (lintSourceFile registry { config with rules := before ++ after } file).outcome = .ok r) ∧
        ∀ before name options after rule e, config.rules = before ++ (name, options) :: after →
          registry.find? name = some rule → rule.check options file = .error (.error e) →
            ∃ first second, r.errors = first ++ ⟨file.filename, e.message, e.typeName, some name⟩ :: second ∧
              (lintSourceFile registry { config with rules := before ++ after } file).outcome =
                .ok { r with errors := first ++ second } ∧
              ∀ before' after', before' ++ after' = before ++ after →
                ∃ first' second', first' ++ second' = first ++ second ∧
                  (lintSourceFile registry { config with rules := before' ++ (name, options) :: after' } file).outcome =
                    .ok { r with
                      errors := first' ++ ⟨file.filename, e.message, e.typeName, some name⟩ :: second' }) := by
  refine ⟨completes_lintSourceFile_iff_handles, fun h => ?_⟩
  refine ⟨_, lintSourceFile_outcome_of_handles h, rfl, rfl, rfl, ?_, ?_⟩
  · intro before name options after hrules hnone
    -- a name that is none of a rule adds nothing, so it can be left out
    obtain ⟨hfailures, hreport⟩ := Registry.adds_of_find?_eq_none file options hnone
    rw [lintSourceFile_outcome_append config (h.mono (by simp [hrules])), hrules]
    simp [hfailures, hreport]
  · intro before name options after rule e hrules hrule hcheck
    obtain ⟨hfailures, hreport⟩ := Registry.adds_of_eq_error hrule hcheck
    refine ⟨before.filterMap (registry.reportOf? file), after.filterMap (registry.reportOf? file), ?_, ?_, ?_⟩
    · simp [hrules, hreport]
    · rw [lintSourceFile_outcome_append config (h.mono (by simp [hrules])), hrules]
      simp [hfailures]
    · intro before' after' hothers
      -- wherever the rule stands, it adds one error there and no failures
      have hperm : (before' ++ (name, options) :: after').Perm config.rules := by
        rw [hrules]
        refine List.perm_middle.trans (List.Perm.trans ?_ List.perm_middle.symm)
        rw [hothers]
      have hsame : before'.flatMap (registry.failuresOf file) ++ after'.flatMap (registry.failuresOf file) =
          before.flatMap (registry.failuresOf file) ++ after.flatMap (registry.failuresOf file) := by
        rw [← List.flatMap_append, hothers, List.flatMap_append]
      refine ⟨before'.filterMap (registry.reportOf? file), after'.filterMap (registry.reportOf? file), ?_, ?_⟩
      · rw [← List.filterMap_append, hothers, List.filterMap_append]
      · rw [lintSourceFile_outcome_append config (h.mono hperm.subset), hrules]
        simp [hfailures, hreport, hsame]

/-! ## A table with a rule that fails -/

/-- The registry with a rule in front that always fails, with an error of a class of its own. -/
def registryWithFailing : Registry :=
  ("failing", ⟨fun _ _ => .error (.error (.ofClass "OwnError" "no state is possible" none)), fun _ _ => []⟩) ::
    Registry.standard

/-- A table that names the failing rule, a rule that there is not, and the rule about the length of bodies. -/
def tableWithFailing : Config :=
  { Config.usual with rules := [("failing", []), ("missing", [.int 1]), (ruleName, [.int 0])] }

/-- A file with a constructor on two lines. -/
def twoLineFile : SourceFile :=
  .ofTree "a.json" "a\nb" ⟨.constructorDeclaration, 0, 3, none, some ⟨0, 3⟩, [], none, [], -1, -1⟩

/-- The failing rule gives its report, and the constructor is found with the rule and without it. -/
theorem failingRule_is_isolated :
    registryWithFailing.Handles twoLineFile tableWithFailing.rules ∧
    ∃ r, (lintSourceFile registryWithFailing tableWithFailing twoLineFile).outcome = .ok r ∧
      r.failures.length = 1 ∧ r.errors = [⟨"a.json", "no state is possible", "OwnError", some "failing"⟩] ∧
      (lintSourceFile registryWithFailing { tableWithFailing with rules := tableWithFailing.rules.tail }
        twoLineFile).outcome = .ok { r with errors := [] } := by
  have hchecked : (twoLineFile.checkBy [.int 0]).isOk = true := by decide +kernel
  have hlength : (tableWithFailing.rules.flatMap (registryWithFailing.failuresOf twoLineFile)).length = 1 := by
    decide +kernel
  have hreport : tableWithFailing.rules.filterMap (registryWithFailing.reportOf? twoLineFile) =
      [⟨"a.json", "no state is possible", "OwnError", some "failing"⟩] := by
    decide +kernel
  have hhandles : registryWithFailing.Handles twoLineFile tableWithFailing.rules := by
    refine List.forall_mem_cons.mpr ⟨?_, List.forall_mem_cons.mpr ⟨?_, List.forall_mem_singleton.mpr ?_⟩⟩
    · intro rule hrule
      cases hrule
      exact Or.inr ⟨_, rfl⟩
    · intro rule hrule
      cases hrule
    · intro rule hrule
      cases hrule
      exact Or.inl (exists_eq_ok_iff_isOk.mpr hchecked)
  obtain ⟨-, hresult⟩ := rules_are_isolated registryWithFailing tableWithFailing twoLineFile
  obtain ⟨r, hr, -, hfailures, herrors, -, hfailing⟩ := hresult hhandles
  obtain ⟨first, second, hreports, hwithout, -⟩ := hfailing [] "failing" [] _ _ _ rfl rfl rfl
  rw [hreport] at herrors
  refine ⟨hhandles, r, hr, hfailures ▸ hlength, herrors, hwithout.trans ?_⟩
  -- there is one error in all, so none stands beside it
  have hothers : first ++ second = [] := by
    have hsize := congrArg List.length (herrors.symm.trans hreports)
    rw [← List.length_eq_zero_iff]
    simp only [List.length_append, List.length_cons, List.length_nil] at hsize ⊢
    omega
  rw [hothers]

end BodyLength
