import BodyLength.Proofs.Limits.Rejections
import BodyLength.Proofs.Number.ExactValue
import BodyLength.Proofs.Number.Writable

/-!
# The last option wins

The limits have three parts, and every option says something of some of them: a number of the fallback, a mapping of the
limits of all kinds, a mapping with a pattern of the pattern as well. What an option says stands until a later one says
something else of the same part. So each part goes back to one option, the last one that says anything of it, and the
others might as well not be there. For the limits by kind this is the last mapping, whether it mentions the kind or
not.

* `BodyLimits.foldl_overwritten`: what a part is after some options.
* `BodyLimits.IsReadOf`: what the three parts are, each by the last option that speaks of it.
* `BodyLimits.lastOptions_win_iff`: options without a rejected pattern come to just that, and others to an error of the
  configuration exactly if the first rejection is for the notation.
-/

namespace BodyLength

/-! ## Parts of the limits

Every option leaves a part of the limits as it is or overwrites it, and what it overwrites it with does not depend on
what was there. This is shown once for any such part, and used for the fallback, for the limits by kind and for the
pattern. Of the patterns it is only shown where none is rejected. -/

/-- If everything in a list gives something, the last thing given is given by the last in the list. -/
theorem getLast?_filterMap_of_isSome {α β : Type} {f : α → Option β} {items : List α}
    (h : ∀ item ∈ items, (f item).isSome = true) : (items.filterMap f).getLast? = items.getLast?.bind f := by
  cases hlast : items.getLast? with
  | none =>
      rw [List.getLast?_eq_none_iff.mp hlast]
      rfl
  | some item =>
      obtain ⟨init, rfl⟩ := List.getLast?_eq_some_iff.mp hlast
      obtain ⟨b, hb⟩ := Option.isSome_iff_exists.mp (h item (by simp))
      simp [hb]

namespace BodyLimits

/-- A part that every option overwrites or leaves is, after some options, what the last of them that overwrites it
gives. -/
theorem foldl_overwritten {β : Type} (part : BodyLimits → Option β) (gives : Value → Option β)
    (hstep : ∀ limits option, part (overwritten limits option) = (gives option).or (part limits))
    (options : List Value) (limits : BodyLimits) :
    part (options.foldl overwritten limits) = (options.filterMap gives).getLast?.or (part limits) := by
  induction options generalizing limits with
  | nil => rfl
  | cons option rest ih =>
      rw [List.foldl_cons, ih, hstep]
      cases hgives : gives option with
      | none => simp [hgives]
      | some b => cases hlast : (rest.filterMap gives).getLast? <;> simp [hgives, hlast, List.getLast?_cons]

/-- The limit that is given for a kind, be it zero or not. -/
def givenLimit (limits : BodyLimits) (kind : Kind) : Option Number :=
  limits.byKind.bind fun byKind => byKind.get? kind

/-- The limit that entries give for a kind is the number under the key of the kind, if one stands there. -/
theorem get?_ofEntries {kind : Kind} {key : String} (h : limitKey kind = some key) (entries : List (Value × Value)) :
    (KindLimits.ofEntries entries).get? kind = (Value.field? entries key).bind Value.number? := by
  cases kind <;> cases h <;> simp [KindLimits.ofEntries, KindLimits.get?, limitIn, limitField, limitKey]

/-- Are limits what options say, each part by the last option that says anything of it? -/
structure IsReadOf (options : List Value) (limits : BodyLimits) : Prop where
  /-- The fallback is the last number. -/
  fallback : limits.fallback = (options.filterMap Value.number?).getLast?
  /-- The limit of a kind is the number that the last mapping has for it. -/
  givenLimit : ∀ kind key, limitKey kind = some key →
    limits.givenLimit kind = (options.filterMap Value.entries?).getLast?.bind fun entries =>
      (Value.field? entries key).bind Value.number?
  /-- The pattern is read of the last text of one that is carried. -/
  exempt : match (options.filterMap Value.carriedPattern?).getLast? with
    | none => limits.exempt = none
    | some given => ∃ pattern, given.asPattern = .ok pattern ∧ limits.exempt = some pattern

/-- Is a limit the one that holds for a kind? It is the one given for the kind, and where none is given, or zero, it is
the fallback. -/
def HoldsFor (limits : BodyLimits) (kind : Kind) (limit : Option Number) : Prop :=
  (∃ n, limits.givenLimit kind = some n ∧ n.value? ≠ some 0 ∧ limit = some n) ∨
    (∀ n, limits.givenLimit kind = some n → n.value? = some 0) ∧ limit = limits.fallback

/-- A limit for a kind that is zero counts as none. -/
theorem ownLimit_eq_filter (limits : BodyLimits) (kind : Kind) :
    limits.ownLimit kind = (limits.givenLimit kind).filter Number.isNonzero := rfl

/-- The limit that is looked up is the one that holds. -/
theorem holdsFor_maxLength (limits : BodyLimits) (kind : Kind) : limits.HoldsFor kind (limits.maxLength kind) := by
  rw [HoldsFor, maxLength, ownLimit_eq_filter]
  cases limits.givenLimit kind with
  | none => exact Or.inr ⟨by simp, rfl⟩
  | some n =>
      -- zero is given, but does not count
      by_cases hzero : n.value? = some 0
      · have hnot : ¬ n.isNonzero = true := by
          rw [Number.isNonzero_iff, not_not, hzero]
        refine Or.inr ⟨fun m hm => Option.some.inj hm ▸ hzero, ?_⟩
        rw [Option.filter, if_neg hnot, Option.none_or]
      · refine Or.inl ⟨n, rfl, hzero, ?_⟩
        rw [Option.filter, if_pos (Number.isNonzero_iff.mpr hzero), Option.some_or]

/-- A pattern that is not rejected is read. -/
theorem exists_asPattern_of_rejection?_eq_none {option given : Value} (h : option.rejection? = none)
    (hgiven : option.carriedPattern? = some given) : ∃ pattern, given.asPattern = .ok pattern := by
  rw [Value.rejection?, hgiven, Option.bind_some] at h
  cases hpattern : given.asPattern with
  | ok pattern => exact ⟨pattern, rfl⟩
  | error rejection =>
      rw [hpattern] at h
      cases h

/-- Options that overwrite each other leave what the last ones say. -/
theorem isReadOf_foldl_overwritten {options : List Value} (h : firstRejection? options = none) :
    (options.foldl overwritten unlimited).IsReadOf options := by
  rw [firstRejection?, List.findSome?_eq_none_iff] at h
  refine ⟨?_, fun kind key hkey => ?_, ?_⟩
  · rw [foldl_overwritten BodyLimits.fallback Value.number? fun _ _ => rfl]
    exact Option.or_none
  · have hbyKind := foldl_overwritten BodyLimits.byKind (fun option => option.entries?.map KindLimits.ofEntries)
      (fun _ _ => rfl) options unlimited
    rw [BodyLimits.givenLimit, hbyKind, ← List.map_filterMap, List.getLast?_map, unlimited, Option.or_none,
      Option.bind_map]
    exact Option.bind_congr fun entries _ => get?_ofEntries hkey entries
  · -- every pattern that is carried is read, so the last one is
    have hgiven : ∀ given ∈ options.filterMap Value.carriedPattern?,
        ∃ pattern, given.asPattern = .ok pattern := by
      intro given hmem
      obtain ⟨option, hoption, hgiven⟩ := List.mem_filterMap.mp hmem
      exact exists_asPattern_of_rejection?_eq_none (h option hoption) hgiven
    have hexempt : (options.foldl overwritten unlimited).exempt =
        (options.filterMap Value.carriedPattern?).getLast?.bind fun given => given.asPattern.toOption := by
      rw [foldl_overwritten BodyLimits.exempt Value.readPattern? fun _ _ => rfl]
      unfold Value.readPattern?
      rw [← List.filterMap_filterMap, getLast?_filterMap_of_isSome]
      · exact Option.or_none
      · intro given hmem
        obtain ⟨pattern, hpattern⟩ := hgiven given hmem
        rw [hpattern]
        rfl
    rw [hexempt]
    cases hlast : (options.filterMap Value.carriedPattern?).getLast? with
    | none => rfl
    | some given =>
        obtain ⟨pattern, hpattern⟩ := hgiven given (List.mem_of_getLast? hlast)
        refine ⟨pattern, hpattern, ?_⟩
        rw [Option.bind_some, hpattern]
        rfl

end BodyLimits

/-! ## Options with a rejected pattern

The first pattern that is rejected puts an end to the reading, and what comes of it is up to this pattern alone. It is
an error of the configuration if something is wrong with the notation. All other reasons end the run. -/

/-- Is an option a mapping with something for a pattern, and nothing empty, that is no pattern? -/
def Value.CarriesNonPattern (option : Value) : Prop :=
  ∃ entries given rejection, option = .mapping entries ∧ Value.field? entries exemptKey = some given ∧
    given.isTruthy = true ∧ given.asPattern = .error rejection

/-- Whether an option carries what is no pattern is what the rejection of the option says. -/
theorem Value.carriesNonPattern_iff {option : Value} :
    option.CarriesNonPattern ↔ option.rejection?.isSome = true := by
  rw [Option.isSome_iff_exists]
  constructor
  · rintro ⟨entries, given, rejection, rfl, hfield, htruthy, hpattern⟩
    have hgiven : (mapping entries).carriedPattern? = some given :=
      Option.filter_eq_some_iff.mpr ⟨hfield, htruthy⟩
    refine ⟨(given, rejection), ?_⟩
    rw [rejection?, hgiven, Option.bind_some, hpattern]
  · rintro ⟨⟨given, rejection⟩, h⟩
    obtain ⟨given', hgiven, hrejected⟩ := Option.bind_eq_some_iff.mp h
    -- only mappings carry anything
    cases option with
    | mapping entries =>
        obtain ⟨hfield, htruthy⟩ := Option.filter_eq_some_iff.mp hgiven
        cases hpattern : given'.asPattern with
        | ok pattern =>
            rw [hpattern] at hrejected
            cases hrejected
        | error rejection' => exact ⟨entries, given', rejection', rfl, hfield, htruthy, hpattern⟩
    | _ => cases hgiven

instance (option : Value) : Decidable option.CarriesNonPattern :=
  decidable_of_iff _ Value.carriesNonPattern_iff.symm

/-- There is no first rejection exactly if no option carries what is no pattern. -/
theorem firstRejection?_eq_none_iff {options : List Value} :
    firstRejection? options = none ↔ ∀ option ∈ options, ¬ option.CarriesNonPattern := by
  rw [firstRejection?, List.findSome?_eq_none_iff]
  simp [Value.carriesNonPattern_iff]

/-- And there is one exactly if some option does. -/
theorem exists_firstRejection?_iff {options : List Value} :
    (∃ rejected, firstRejection? options = some rejected) ↔ ∃ option ∈ options, option.CarriesNonPattern := by
  rw [← Option.isSome_iff_exists, ← Option.ne_none_iff_isSome, ne_eq, firstRejection?_eq_none_iff]
  simp

namespace BodyLimits

/-- What is neither a number nor a mapping changes nothing. -/
theorem add_of_neither {option : Value} (hnumber : option.number? = none) (hentries : option.entries? = none)
    (limits : BodyLimits) : limits.add option = .ok limits := by
  cases option with
  | number n => cases hnumber
  | mapping entries => cases hentries
  | _ => rfl

/-- Options with a rejection come to the fault of the first one, whatever stands behind it. -/
theorem ofValues_of_firstRejection? {options : List Value} {given : Value} {rejection : PatternRejection}
    (h : firstRejection? options = some (given, rejection)) :
    ofValues options = .error (.ofRejection given rejection) :=
  foldlM_add_of_firstRejection? h unlimited

/-- Options are refused exactly if one of them carries what is no pattern. -/
theorem exists_ofValues_eq_error_iff {options : List Value} :
    (∃ fault, ofValues options = .error fault) ↔ ∃ option ∈ options, option.CarriesNonPattern := by
  rw [← exists_firstRejection?_iff]
  constructor
  · rintro ⟨fault, hfault⟩
    cases h : firstRejection? options with
    | none =>
        rw [ofValues, foldlM_add_of_firstRejection?_eq_none h] at hfault
        cases hfault
    | some rejected => exact ⟨rejected, rfl⟩
  · rintro ⟨⟨given, rejection⟩, h⟩
    exact ⟨_, ofValues_of_firstRejection? h⟩

/-- Are options refused with an error of the configuration that names the rule? -/
def AreRefused (options : List Value) : Prop :=
  ∃ e, ofValues options = .error (.error e) ∧ e.typeName = "ConfigurationError" ∧ e.rule? = some ruleName

/-- A first rejection is what the options are refused for exactly if it is for the notation. -/
theorem areRefused_iff_of_firstRejection? {options : List Value} {given : Value} {rejection : PatternRejection}
    (h : firstRejection? options = some (given, rejection)) : AreRefused options ↔ rejection.isFault = true := by
  unfold AreRefused
  rw [ofValues_of_firstRejection? h]
  cases rejection with
  | fault fault => exact iff_of_true ⟨.badPattern given fault, rfl, rfl, rfl⟩ rfl
  | repeatTooLarge | longRepeat _ | contradictoryFlags | unwritable =>
      refine iff_of_false ?_ Bool.false_ne_true
      rintro ⟨e, he, -⟩
      cases he

/-- Options are refused for what is no pattern exactly if the first of these is rejected for its notation. -/
theorem rejectsByNotation_iff_areRefused {options : List Value} :
    RejectsByNotation options ↔ (AreRefused options ↔ ∃ option ∈ options, option.CarriesNonPattern) := by
  cases h : firstRejection? options with
  | none =>
      apply iff_of_true (rejectsByNotation_of_eq_none h)
      constructor
      · rintro ⟨e, he, -⟩
        exact exists_ofValues_eq_error_iff.mp ⟨_, he⟩
      · intro hcarries
        obtain ⟨rejected, hrejected⟩ := exists_firstRejection?_iff.mpr hcarries
        rw [h] at hrejected
        cases hrejected
  | some rejected =>
      obtain ⟨given, rejection⟩ := rejected
      rw [rejectsByNotation_iff_of_eq_some h, areRefused_iff_of_firstRejection? h,
        iff_true_right (exists_firstRejection?_iff.mp ⟨_, h⟩)]

/-- An option with a pattern and nothing else. -/
def exemptOption (given : Value) : Value :=
  .mapping [(.text exemptKey, given)]

/-- What is no pattern is rejected there. -/
theorem firstRejection?_exemptOption {given : Value} {rejection : PatternRejection} (htruthy : given.isTruthy = true)
    (hpattern : given.asPattern = .error rejection) :
    firstRejection? [exemptOption given] = some (given, rejection) := by
  have hgiven : (exemptOption given).carriedPattern? = some given := Option.filter_eq_some_iff.mpr ⟨rfl, htruthy⟩
  have hrejection : (exemptOption given).rejection? = some (given, rejection) := by
    rw [Value.rejection?, hgiven, Option.bind_some, hpattern]
  rw [firstRejection?, List.findSome?_cons_of_isSome (by rw [hrejection]; rfl), hrejection]

/-- A value that cannot be written out has no text, and so it is no pattern. -/
theorem asPattern_of_not_isWritable {given : Value} (h : given.isWritable = false) :
    given.asPattern = .error .unwritable := by
  rw [Value.asPattern, h, if_neg Bool.false_ne_true]

/-- The last mapping takes the limit of functions back, so that the last number holds for them, and sets that of arrow
functions to what is no number. Its predecessor keeps the pattern. -/
def mixedOptions : List Value :=
  [.int 5, .mapping [(.text "func-body-length", .int 3), (.text exemptKey, .text "it")], .bool true, .int 7,
    .mapping [(.text "func-body-length", .int 0), (.text "arrow-body-length", .float .nan)]]

/-- The second pattern would replace the first one. -/
def refusedOptions : List Value :=
  [exemptOption (.text "("), exemptOption (.text "it")]

end BodyLimits

end BodyLength
