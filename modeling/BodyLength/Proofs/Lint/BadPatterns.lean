import BodyLength.Config.Reading
import BodyLength.Proofs.Limits.Rejections
import BodyLength.Proofs.Lint.Isolation

/-!
# Rejected patterns in runs

A configuration that is read of a value gives options to one rule at most, so what becomes of a run is decided by the
options of this rule. If the first pattern among them that is rejected is rejected for its notation, every file that has
a tree is given one report about the rule, and the run goes through. If it is rejected for another reason, the first
file that has a tree ends the run.

What else may end a run has nothing to do with patterns: a limit that some failure has to show, and a document, where an
integer has too many digits.

* `Config.onlyStandard_of_ofValue`: a configuration has options for the one rule at most.
* `Config.IsHandledOn`: the two conditions on the options and a file under which checking the file ends no run.
* `rejections_are_reported_iff`: what a rejected pattern comes to, for a check of one file, for all rules on one file
  and for a run over many.
-/

namespace BodyLength

/-! ## Configurations -/

/-- The names of the rules that there are. -/
def standardNames : List String :=
  Registry.standard.map Prod.fst

/-- Do rules hold nothing but options for the one rule that there is, and these at most once? -/
def OnlyStandard (rules : List (String × List Value)) : Prop :=
  rules = [] ∨ ∃ options, rules = [(ruleName, options)]

/-- Setting the options of the one rule leaves it the only one. -/
theorem onlyStandard_setRule {rules : List (String × List Value)} (h : OnlyStandard rules) (options : List Value) :
    OnlyStandard (Config.setRule ruleName options rules) := by
  rcases h with rfl | ⟨old, rfl⟩
  · exact Or.inr ⟨options, rfl⟩
  · exact Or.inr ⟨options, by simp [Config.setRule]⟩

/-- There is one name of a rule. -/
theorem eq_ruleName_of_knownRule? {key : Value} {name : String} (h : knownRule? standardNames key = some name) :
    name = ruleName := by
  obtain ⟨-, hmem⟩ := Option.filter_eq_some_iff.mp h
  simpa [standardNames, Registry.standard] using hmem

/-- Reading the entries of rules adds the one rule at most. -/
theorem onlyStandard_addRules {entries : List (Value × Value)} {rules read : List (String × List Value)}
    (h : OnlyStandard rules) (hread : (addRules standardNames rules entries).outcome = .ok (.ok read)) :
    OnlyStandard read := by
  induction entries generalizing rules with
  | nil =>
      cases hread
      exact h
  | cons entry rest ih =>
      obtain ⟨key, value⟩ := entry
      -- an entry is passed, or sets the options of the one rule
      rw [addRules] at hread
      split at hread
      · exact ih h hread
      · rename_i name hname
        cases eq_ruleName_of_knownRule? hname
        split at hread
        · cases hread
        · cases hread
        · exact ih h hread
        · exact ih (onlyStandard_setRule h _) hread

/-- What is read of the rules of a mapping is the one rule at most. -/
theorem Config.onlyStandard_of_rulesOf {entries : List (Value × Value)} {rules : List (String × List Value)}
    (h : (rulesOf standardNames entries).outcome = .ok (.ok rules)) : OnlyStandard rules := by
  unfold rulesOf at h
  split at h
  · cases h
    exact Or.inr ⟨[], rfl⟩
  · exact onlyStandard_addRules (Or.inl rfl) h
  · cases h

/-- A configuration that is read of a value has options for the one rule at most. -/
theorem Config.onlyStandard_of_ofValue {path : Option Path} {v : Value} {config : Config}
    (h : (Config.ofValue standardNames path v).outcome = .ok (.ok config)) : OnlyStandard config.rules := by
  cases v with
  | mapping entries =>
      simp only [ofValue, Work.bind_eq_andThen, Work.andThen_outcome] at h
      obtain ⟨read, hrules, h⟩ := bind_eq_ok_iff.mp h
      cases read with
      | error e => cases h
      | ok rules =>
          -- the names to exclude have no influence on the rules
          cases hexcluded : excludedOf entries with
          | ok excluded =>
              simp only [hexcluded] at h
              cases h
              exact onlyStandard_of_rulesOf hrules
          | error fault =>
              simp only [hexcluded] at h
              cases fault <;> cases h
  | _ => cases h

/-- Can the rules of a configuration be run on a file without an end of the run? The first rejected pattern among the
options of a rule, if there is one, has to be rejected for its notation, and all failures have to be worded. -/
def Config.IsHandledOn (config : Config) (file : SourceFile) : Prop :=
  ∀ rule ∈ config.rules, RejectsByNotation rule.2 ∧ file.CanWordFailures rule.2

/-! ## Runs -/

section Runs

variable {config : Config} {options : List Value}

/-- It is the name of the rule about body lengths. -/
theorem find?_ruleName : Registry.standard.find? ruleName = some bodyLengthRule := rfl

/-- A rejection for the notation becomes a report about the rule, and leaves no failures. -/
theorem lintSourceFile_outcome_of_fault (hrules : config.rules = [(ruleName, options)]) {given : Value}
    {fault : PatternFault} (h : firstRejection? options = some (given, .fault fault)) (file : SourceFile) :
    (lintSourceFile Registry.standard config file).outcome =
      .ok ⟨[], [⟨file.filename, (RuleError.badPattern given fault).message, "ConfigurationError",
        some ruleName⟩], 1⟩ := by
  rw [lintSourceFile_outcome_of_rules_eq_singleton hrules find?_ruleName]
  simp only [bodyLengthRule, SourceFile.checkBy_of_firstRejection? file h]
  rfl

/-- What a check by the one rule comes to is a result exactly if it is reported. -/
theorem completes_lintSourceFile_iff_isReported (hrules : config.rules = [(ruleName, options)]) (file : SourceFile) :
    (lintSourceFile Registry.standard config file).Completes ↔ SourceFile.IsReported (file.checkBy options) := by
  have hrule : bodyLengthRule.check options file = file.checkBy options := rfl
  rw [Work.Completes, lintSourceFile_outcome_of_rules_eq_singleton hrules find?_ruleName, hrule]
  cases hcheck : file.checkBy options with
  | ok failures => exact iff_of_true ⟨_, rfl⟩ (Or.inl ⟨failures, rfl⟩)
  | error fault =>
      cases fault with
      | error e => exact iff_of_true ⟨_, rfl⟩ (file.isReported_of_checkBy_eq_error hcheck)
      | abort why => exact iff_of_false (by rintro ⟨_, h⟩; cases h) (SourceFile.not_isReported_abort why)

/-- The rules of a configuration go through on a file exactly if they are handled. -/
theorem completes_lintSourceFile_iff (honly : OnlyStandard config.rules) (file : SourceFile) :
    (lintSourceFile Registry.standard config file).Completes ↔ config.IsHandledOn file := by
  rcases honly with hrules | ⟨options, hrules⟩
  · refine iff_of_true ⟨_, lintSourceFile_outcome_of_rules_eq_nil hrules file⟩ ?_
    simp [Config.IsHandledOn, hrules]
  · rw [completes_lintSourceFile_iff_isReported hrules, file.isReported_checkBy_iff, Config.IsHandledOn, hrules]
    simp

end Runs

/-- Rejected patterns are reported exactly where the first of them is rejected for its notation, as far as the failures
can be worded: by a check of one file, by the rules of a configuration on one file, and by a run over many files, which
goes through exactly if its files can be listed and loaded and each of those that have a tree is handled. -/
theorem rejections_are_reported_iff (options : List Value) (file : SourceFile) :
    (SourceFile.IsReported (file.checkBy options) ↔ RejectsByNotation options ∧ file.CanWordFailures options) ∧
    ∀ path v config, (Config.ofValue standardNames path v).outcome = .ok (.ok config) →
      ((lintSourceFile Registry.standard config file).Completes ↔ config.IsHandledOn file) ∧
      (∀ given fault, (ruleName, options) ∈ config.rules →
        firstRejection? options = some (given, .fault fault) →
          (lintSourceFile Registry.standard config file).outcome =
            .ok ⟨[], [⟨file.filename, (RuleError.badPattern given fault).message, "ConfigurationError",
              some ruleName⟩], 1⟩) ∧
      (∀ tree recursive paths, (lintPaths Registry.standard config tree recursive paths).Completes ↔
        ∃ files, (config.selectFiles tree recursive paths).outcome = .ok files ∧
          ∀ p ∈ files, (∀ why, ¬ EndsLoading tree p why) ∧
            ∀ file', HasTree tree p file' → config.IsHandledOn file') := by
  refine ⟨file.isReported_checkBy_iff, fun path v config h => ?_⟩
  have honly := Config.onlyStandard_of_ofValue h
  refine ⟨completes_lintSourceFile_iff honly file, fun given fault hmem hfirst => ?_, fun tree recursive paths => ?_⟩
  · rcases honly with hrules | ⟨options', hrules⟩
    · simp [hrules] at hmem
    · rw [hrules, List.mem_singleton, Prod.mk.injEq] at hmem
      rw [hmem.2] at hfirst
      exact lintSourceFile_outcome_of_fault hrules hfirst file
  · rw [completes_lintPaths_iff]
    simp only [completes_lintFile_iff, completes_lintSourceFile_iff honly]

/-! ## One pattern of each kind -/

/-- An option with a pattern. -/
def patternOption (pattern : String) : Value :=
  .mapping [(.text exemptKey, .text pattern)]

/-- A configuration whose only option is a pattern. -/
def patternConfig (pattern : String) : Value :=
  .mapping [(.text "rules", .mapping [(.text ruleName, .list [patternOption pattern])])]

/-- The configuration that is read of it. -/
def patternRead (pattern : String) : Config :=
  { Config.usual with rules := [(ruleName, [patternOption pattern])] }

/-- Options that reject by notation and have a rejected pattern leave nothing to be worded. -/
theorem canWordFailures_of_firstRejection? {options : List Value} {rejected : Value × PatternRejection}
    (h : firstRejection? options = some rejected) (file : SourceFile) : file.CanWordFailures options := by
  intro limits hlimits
  rw [BodyLimits.ofValues, BodyLimits.foldlM_add_of_firstRejection? h] at hlimits
  cases hlimits

/-- A group that is not closed is a fault of the notation, and is reported. A run over files goes through if they can be
listed and loaded. -/
theorem openGroup_is_reported :
    (Config.ofValue standardNames none (patternConfig "(")).outcome = .ok (.ok (patternRead "(")) ∧
    ∀ file : SourceFile,
      SourceFile.IsReported (file.checkBy [patternOption "("]) ∧
      (lintSourceFile Registry.standard (patternRead "(") file).Completes ∧
      ∀ tree recursive paths files, ((patternRead "(").selectFiles tree recursive paths).outcome = .ok files →
        (∀ p ∈ files, ∀ why, ¬ EndsLoading tree p why) →
          (lintPaths Registry.standard (patternRead "(") tree recursive paths).Completes := by
  have hread : (Config.ofValue standardNames none (patternConfig "(")).outcome = .ok (.ok (patternRead "(")) := rfl
  have hfaults : RejectsByNotation [patternOption "("] := by decide +kernel
  have hrejected : (firstRejection? [patternOption "("]).isSome = true := by decide +kernel
  -- the first rejection is for the notation, and there are no limits that anything could be worded with
  have hhandled (file : SourceFile) : (patternRead "(").IsHandledOn file := by
    intro rule hrule
    cases List.mem_singleton.mp hrule
    obtain ⟨rejected, hfirst⟩ := Option.isSome_iff_exists.mp hrejected
    exact ⟨hfaults, canWordFailures_of_firstRejection? hfirst file⟩
  refine ⟨hread, fun file => ?_⟩
  obtain ⟨hcheck, hconfig⟩ := rejections_are_reported_iff [patternOption "("] file
  obtain ⟨hfile, -, hpaths⟩ := hconfig none _ _ hread
  refine ⟨hcheck.mpr (hhandled file _ List.mem_cons_self), hfile.mpr (hhandled file), ?_⟩
  intro tree recursive paths files hfiles hloads
  exact (hpaths tree recursive paths).mpr ⟨files, hfiles, fun p hp => ⟨hloads p hp, fun file' _ => hhandled file'⟩⟩

/-- A number of repetitions that is too large is rejected for another reason. The check of a file ends with something
else than failures or an error, and so does the run of a configuration with the pattern. -/
theorem hugeRepeat_ends_run :
    (∀ file : SourceFile, ¬ SourceFile.IsReported (file.checkBy [patternOption "a{99999999999}"])) ∧
    (Config.ofValue standardNames none (patternConfig "a{99999999999}")).outcome =
      .ok (.ok (patternRead "a{99999999999}")) ∧
    ∀ file, (lintSourceFile Registry.standard (patternRead "a{99999999999}") file).outcome =
      .error .repeatTooLarge := by
  have hreason : (firstRejection? [patternOption "a{99999999999}"]).map Prod.snd = some .repeatTooLarge := by
    decide +kernel
  obtain ⟨⟨given, _⟩, hfirst, rfl⟩ := Option.map_eq_some_iff.mp hreason
  refine ⟨fun file => ?_, rfl, fun file => ?_⟩
  · rw [SourceFile.checkBy_of_firstRejection? file hfirst, SourceFile.isReported_ofRejection_iff]
    decide
  · rw [lintSourceFile_outcome_of_rules_eq_singleton rfl find?_ruleName, bodyLengthRule]
    simp only [SourceFile.checkBy_of_firstRejection? file hfirst]
    rfl

end BodyLength
