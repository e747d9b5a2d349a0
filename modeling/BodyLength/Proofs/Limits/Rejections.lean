import BodyLength.Proofs.Limits.Walk
import BodyLength.Proofs.Outcome

/-!
# Rejected patterns

Reading the options of the rule can only fail at a pattern, and it fails at the first one that is rejected. How it fails
depends on the rejection. A fault of the notation becomes an error of the configuration. The other rejections, such as a
number of repetitions beyond all bounds and flags that contradict each other, are handled by nobody and end the run.
Options that are read may still end it, with a limit that a failure would have to show and that has too many digits.

* `firstRejection?` is the first rejected pattern among some options, and why it is rejected.
* `checkBy_of_firstRejection?_eq_none`, `checkBy_of_firstRejection?`: it decides what a check by the options comes to,
  on every file.
* `isReported_checkBy_iff`: a check gives failures or an error of the configuration exactly if the first rejection, if
  there is one, is for the notation, and each failure can be worded.
-/

namespace BodyLength

/-! ## Rejections -/

/-- Is a rejection for a fault of the notation? -/
def PatternRejection.isFault : PatternRejection → Bool
  | fault _ => true
  | repeatTooLarge => false
  | longRepeat _ => false
  | contradictoryFlags => false
  | unwritable => false

/-- The pattern that an option carries, if it carries one. -/
def Value.carriedPattern? : Value → Option Value
  | .mapping entries => (Value.field? entries exemptKey).filter Value.isTruthy
  | _ => none

/-- The entries of a mapping. -/
def Value.entries? : Value → Option (List (Value × Value))
  | .mapping entries => some entries
  | _ => none

/-- The pattern that an option carries, as it is read. Nothing if it is rejected, or if there is no pattern. -/
def Value.readPattern? (option : Value) : Option Pattern :=
  option.carriedPattern?.bind fun given => given.asPattern.toOption

/-- The pattern that an option carries, and why it is none. Nothing if it is one, or if there is no pattern. -/
def Value.rejection? (option : Value) : Option (Value × PatternRejection) :=
  option.carriedPattern?.bind fun given =>
    match given.asPattern with
    | .ok _ => none
    | .error rejection => some (given, rejection)

/-- The first rejected pattern among some options, and why it is rejected. -/
def firstRejection? (options : List Value) : Option (Value × PatternRejection) :=
  options.findSome? Value.rejection?

/-- Is the first rejected pattern among some options, if there is one, rejected for its notation? -/
def RejectsByNotation (options : List Value) : Prop :=
  ∀ rejected ∈ firstRejection? options, rejected.2.isFault = true

instance (options : List Value) : Decidable (RejectsByNotation options) :=
  inferInstanceAs (Decidable (∀ rejected ∈ firstRejection? options, rejected.2.isFault = true))

/-- Options without a rejection reject nothing for another reason. -/
theorem rejectsByNotation_of_eq_none {options : List Value} (h : firstRejection? options = none) :
    RejectsByNotation options := by
  simp [RejectsByNotation, h]

/-- Otherwise it is up to the first rejection. -/
theorem rejectsByNotation_iff_of_eq_some {options : List Value} {given : Value} {rejection : PatternRejection}
    (h : firstRejection? options = some (given, rejection)) :
    RejectsByNotation options ↔ rejection.isFault = true := by
  simp [RejectsByNotation, h]

/-! ## Reading options -/

namespace BodyLimits

/-- The limits with what an option says in place of what they say. What the option says nothing of is kept. -/
def overwritten (limits : BodyLimits) (option : Value) : BodyLimits :=
  ⟨option.number?.or limits.fallback, (option.entries?.map KindLimits.ofEntries).or limits.byKind,
    option.readPattern?.or limits.exempt⟩

/-- An option whose pattern is not rejected is read, and overwrites what it says something of. -/
theorem add_of_rejection?_eq_none {option : Value} (h : option.rejection? = none) (limits : BodyLimits) :
    limits.add option = .ok (limits.overwritten option) := by
  cases option with
  | mapping entries =>
      simp only [Value.rejection?, Value.carriedPattern?] at h
      simp only [add, exemptIn, overwritten, Value.number?, Value.entries?, Value.readPattern?, Value.carriedPattern?]
      -- a mapping without a pattern and one with a good pattern are both read
      cases hgiven : (Value.field? entries exemptKey).filter Value.isTruthy with
      | none => rfl
      | some given =>
          rw [hgiven, Option.bind_some] at h
          cases hpattern : given.asPattern with
          | error rejection =>
              rw [hpattern] at h
              cases h
          | ok pattern =>
              simp only [patternOf, Option.bind_some, hpattern]
              rfl
  | _ => rfl

/-- An option whose pattern is rejected is not. -/
theorem add_of_rejection?_eq_some {option given : Value} {rejection : PatternRejection}
    (h : option.rejection? = some (given, rejection)) (limits : BodyLimits) :
    limits.add option = .error (.ofRejection given rejection) := by
  obtain ⟨given', hgiven, hrejected⟩ := Option.bind_eq_some_iff.mp h
  -- only a mapping carries a pattern, and it is the one that was rejected
  cases option with
  | mapping entries =>
      cases hpattern : given'.asPattern with
      | ok pattern =>
          rw [hpattern] at hrejected
          cases hrejected
      | error rejection' =>
          rw [hpattern] at hrejected
          cases hrejected
          rw [Value.carriedPattern?] at hgiven
          simp only [add, exemptIn, patternOf, hgiven, hpattern]
          rfl
  | _ => cases hgiven

/-- Options without a rejected pattern are read, and each overwrites what those before it have said. -/
theorem foldlM_add_of_firstRejection?_eq_none {options : List Value} (h : firstRejection? options = none)
    (limits : BodyLimits) : options.foldlM add limits = .ok (options.foldl overwritten limits) := by
  rw [firstRejection?, List.findSome?_eq_none_iff] at h
  induction options generalizing limits with
  | nil => rfl
  | cons option rest ih =>
      rw [List.forall_mem_cons] at h
      rw [List.foldlM_cons, add_of_rejection?_eq_none h.1, ok_bind, ih h.2, List.foldl_cons]

/-- The first rejected pattern ends the reading, whatever stands before and behind it. -/
theorem foldlM_add_of_firstRejection? {options : List Value} {given : Value} {rejection : PatternRejection}
    (h : firstRejection? options = some (given, rejection)) (limits : BodyLimits) :
    options.foldlM add limits = .error (.ofRejection given rejection) := by
  induction options generalizing limits with
  | nil => cases h
  | cons option rest ih =>
      rw [List.foldlM_cons]
      cases hoption : option.rejection? with
      | none =>
          rw [add_of_rejection?_eq_none hoption, ok_bind]
          refine ih ?_ _
          rwa [firstRejection?, List.findSome?_cons_of_isNone (by simp [hoption])] at h
      | some rejected =>
          rw [firstRejection?, List.findSome?_cons_of_isSome (by simp [hoption])] at h
          rw [add_of_rejection?_eq_some h, error_bind]

end BodyLimits

/-! ## Checks -/

namespace SourceFile

variable (file : SourceFile) {options : List Value}

/-- Without a rejected pattern a check comes to the failures of the flagged functions. -/
theorem checkBy_of_firstRejection?_eq_none (h : firstRejection? options = none) :
    file.checkBy options =
      file.worded (options.foldl BodyLimits.overwritten .unlimited)
        (file.flagged (options.foldl BodyLimits.overwritten .unlimited)) :=
  checkBy_eq (BodyLimits.foldlM_add_of_firstRejection?_eq_none h .unlimited)

/-- With a rejected pattern a check comes to what is made of the rejection. -/
theorem checkBy_of_firstRejection? {given : Value} {rejection : PatternRejection}
    (h : firstRejection? options = some (given, rejection)) :
    file.checkBy options = .error (.ofRejection given rejection) := by
  rw [checkBy, BodyLimits.ofValues, BodyLimits.foldlM_add_of_firstRejection? h, error_bind]

/-- A check gives failures or an error of the configuration that names the rule. -/
def IsReported (outcome : Except RuleFault (List Failure)) : Prop :=
  (∃ failures, outcome = .ok failures) ∨
    ∃ e, outcome = .error (.error e) ∧ e.typeName = "ConfigurationError" ∧ e.rule? = some ruleName

/-- What ends the run is not reported. -/
theorem not_isReported_abort (why : Abort) : ¬ IsReported (.error (.abort why)) := by
  rintro (⟨failures, h⟩ | ⟨e, h, -⟩)
  · cases h
  · cases h

/-- What is made of a rejection is reported exactly if the rejection is for the notation. -/
theorem isReported_ofRejection_iff {given : Value} {rejection : PatternRejection} :
    IsReported (.error (.ofRejection given rejection)) ↔ rejection.isFault = true := by
  cases rejection with
  | fault fault => exact iff_of_true (Or.inr ⟨.badPattern given fault, rfl, rfl, rfl⟩) rfl
  | repeatTooLarge => exact iff_of_false (not_isReported_abort _) Bool.false_ne_true
  | longRepeat digits => exact iff_of_false (not_isReported_abort _) Bool.false_ne_true
  | contradictoryFlags => exact iff_of_false (not_isReported_abort _) Bool.false_ne_true
  | unwritable => exact iff_of_false (not_isReported_abort _) Bool.false_ne_true

/-- An error that is made of a rejection is reported. -/
theorem isReported_of_ofRejection_eq_error {given : Value} {rejection : PatternRejection} {e : RuleError}
    (h : Fault.ofRejection given rejection = .error e) : IsReported (.error (.error e)) := by
  rw [← h, isReported_ofRejection_iff]
  cases rejection with
  | fault fault => rfl
  | _ => cases h

/-- Has every function of a file that is flagged under some options a failure that can be worded? -/
def CanWordFailures (options : List Value) : Prop :=
  ∀ limits, BodyLimits.ofValues options = .ok limits → ∀ m ∈ file.flagged limits, file.canWord limits m.1 = true

/-- Nothing else comes of a check exactly if the first rejection, if there is one, is for the notation, and all failures
can be worded. -/
theorem isReported_checkBy_iff :
    IsReported (file.checkBy options) ↔ RejectsByNotation options ∧ file.CanWordFailures options := by
  cases h : firstRejection? options with
  | none =>
      have hlimits : BodyLimits.ofValues options = .ok _ := BodyLimits.foldlM_add_of_firstRejection?_eq_none h .unlimited
      rw [and_iff_right (rejectsByNotation_of_eq_none h), checkBy_of_firstRejection?_eq_none file h]
      -- there are limits, and all that can go wrong is the wording
      constructor
      · intro hreported limits hread
        obtain rfl := Except.ok.inj (hlimits.symm.trans hread)
        by_contra hnot
        rw [worded_of_not_all hnot] at hreported
        exact not_isReported_abort _ hreported
      · intro hwords
        rw [worded_of_all (hwords _ hlimits)]
        exact Or.inl ⟨_, rfl⟩
  | some rejected =>
      obtain ⟨given, rejection⟩ := rejected
      have hrefused : BodyLimits.ofValues options = .error _ := BodyLimits.foldlM_add_of_firstRejection? h .unlimited
      -- there are no limits, and so nothing to be worded
      have hwords : file.CanWordFailures options := by
        intro limits hlimits
        rw [hrefused] at hlimits
        cases hlimits
      rw [and_iff_left hwords, checkBy_of_firstRejection? file h, rejectsByNotation_iff_of_eq_some h,
        isReported_ofRejection_iff]

/-- Whatever error a check comes to is reported. -/
theorem isReported_of_checkBy_eq_error {e : RuleError} (h : file.checkBy options = .error (.error e)) :
    IsReported (.error (.error e)) := by
  cases hfirst : firstRejection? options with
  | none =>
      rw [checkBy_of_firstRejection?_eq_none file hfirst] at h
      by_cases hall : ∀ m ∈ file.flagged (options.foldl BodyLimits.overwritten .unlimited),
          file.canWord (options.foldl BodyLimits.overwritten .unlimited) m.1 = true
      · rw [worded_of_all hall] at h
        cases h
      · rw [worded_of_not_all hall] at h
        cases h
  | some rejected =>
      obtain ⟨given, rejection⟩ := rejected
      rw [checkBy_of_firstRejection? file hfirst] at h
      exact isReported_of_ofRejection_eq_error (Except.error.inj h)

end SourceFile

end BodyLength
