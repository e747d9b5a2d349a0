import BodyLength.Proofs.Limits.LastWins
import BodyLength.Proofs.Limits.ListingAgreement
import Mathlib.Data.List.Flatten
import Mathlib.Tactic.NormNum

/-!
# Raised limits

Whoever raises a limit, or exempts the arguments of some calls, wants fewer failures and no new ones. What the walk
measures is settled before any limit is looked at: it is the functions that no exempt call holds
(`Node.measured`). The limits only decide which of them have a failure, and the pattern only which of them are
measured. So two walks of one tree need not be followed side by side.

A failure shows the limit that is in force, so that a limit with too many digits ends the run. What is flagged is said
of all runs, and what is listed of those that come to a list. A limit that is raised to a number of few digits does not
keep a run from that, and neither does a pattern.

* `SourceFile.flagged_sublist`: laxer limits flag some of the functions that stricter ones flag, in the same order.
* `BodyLimits.IsRaisedFrom.foldlM_add`: a number that is raised among the options leaves limits that are raised, however
  the options go on.
* `limits_are_monotone`: so a raised number and an added pattern only take failures away.
-/

namespace BodyLength

/-! ## Numbers in order -/

namespace Number

/-- Is a number at most another one? Both have to have a value. -/
def IsAtMost (a b : Number) : Prop :=
  ∃ v w, a.value? = some v ∧ b.value? = some w ∧ v ≤ w

/-- What is over a number is over every smaller one. -/
theorem IsAtMost.isBelow {a b : Number} (h : a.IsAtMost b) {n : Int} (hn : b.isBelow n = true) :
    a.isBelow n = true := by
  obtain ⟨v, w, hv, hw, hle⟩ := h
  obtain ⟨w', hw', hlt⟩ := isBelow_iff.mp hn
  obtain rfl : w = w' := Option.some.inj (hw.symm.trans hw')
  exact isBelow_iff.mpr ⟨v, hv, hle.trans_lt hlt⟩

end Number

/-! ## Laxer limits

Limits are compared by what they do, not by how they are made: by the calls that they exempt, and by what is over them.
Both are seen in the walk. The ranges on its stack exempt more numbers under the laxer limits, and so fewer functions
are measured; and of these, fewer are over their limits. -/

/-- Are limits nowhere stricter than others? They exempt the calls that the others exempt, and what is over one of them
is over that of the others. -/
structure BodyLimits.IsLaxerThan (lax strict : BodyLimits) : Prop where
  exempts : ∀ name, strict.exemptsName name = true → lax.exemptsName name = true
  exceeds : ∀ kind length, exceeds length (lax.maxLength kind) = true → exceeds length (strict.maxLength kind) = true

section Laxer

variable {lax strict : BodyLimits} (h : lax.IsLaxerThan strict)
include h

/-- Whatever is exempt below a node under the stricter limits is so under the laxer ones. -/
theorem BodyLimits.IsLaxerThan.exemptBelow {isExempt isExempt' : Int → Bool}
    (hexempt : ∀ index, isExempt index = true → isExempt' index = true) (n : Node) (index : Int)
    (hindex : strict.exemptBelow n isExempt index = true) : lax.exemptBelow n isExempt' index = true := by
  unfold BodyLimits.exemptBelow at hindex ⊢
  rw [Bool.or_eq_true, Bool.and_eq_true] at hindex ⊢
  rcases hindex with ⟨hnode, hholds⟩ | habove
  · refine Or.inl ⟨?_, hholds⟩
    unfold BodyLimits.exemptsNode BodyLimits.exemptsCall at hnode ⊢
    rw [Bool.and_eq_true, Bool.and_eq_true] at hnode ⊢
    exact ⟨hnode.1, h.exempts _ hnode.2.1, hnode.2.2⟩
  · exact Or.inr (hexempt index habove)

/-- The more is exempt, the fewer functions are measured. -/
theorem Node.measured_sublist (n : Node) {isExempt isExempt' : Int → Bool}
    (hexempt : ∀ index, isExempt index = true → isExempt' index = true) (className : String) :
    (n.measured lax isExempt' className).Sublist (n.measured strict isExempt className) := by
  induction n using Node.induction generalizing isExempt isExempt' className with
  | step n ih =>
      rw [measured_eq, measured_eq]
      apply List.Sublist.append
      · unfold ownMeasured
        by_cases hindex : isExempt n.index = true
        · rw [hindex, hexempt _ hindex]
        · rw [Bool.not_eq_true] at hindex
          rw [hindex]
          cases isExempt' n.index with
          | false => exact List.Sublist.refl _
          | true => exact List.nil_sublist _
      · apply List.Sublist.flatMap_right
        intro child hchild
        exact ih child hchild (h.exemptBelow hexempt n) _

/-- Whatever is over the laxer limits is over the stricter ones. -/
theorem BodyLimits.IsLaxerThan.isOverLimit (file : SourceFile) {n : Node} (hn : file.isOverLimit lax n = true) :
    file.isOverLimit strict n = true := by
  unfold SourceFile.isOverLimit at hn ⊢
  rw [Bool.and_eq_true] at hn ⊢
  exact ⟨hn.1, h.exceeds _ _ hn.2⟩

end Laxer

/-- Laxer limits flag some of the functions that stricter ones flag, in the same order. -/
theorem SourceFile.flagged_sublist (file : SourceFile) {lax strict : BodyLimits} (h : lax.IsLaxerThan strict) :
    (file.flagged lax).Sublist (file.flagged strict) := by
  have hmeasured : (file.root.measured lax (fun _ => false) "").Sublist (file.root.measured strict (fun _ => false) "") :=
    file.root.measured_sublist h (fun _ hindex => hindex) ""
  unfold flagged Node.flagged
  exact (hmeasured.filter _).trans (List.monotone_filter_right _ fun m hm => h.isOverLimit file hm)

/-! ## Numbers that are raised

Options are read one after the other, from limits that say nothing. A number among them is the fallback until another
number takes its place. So two runs over options that differ in one number have the same limits, except perhaps for the
fallback, and this is what the induction along the options behind the number keeps. -/

namespace BodyLimits

/-- Are limits the same as others but for a fallback that may be raised to a greater number? -/
structure IsRaisedFrom (raised limits : BodyLimits) (b : Number) : Prop where
  byKind : raised.byKind = limits.byKind
  exempt : raised.exempt = limits.exempt
  fallback : raised.fallback = limits.fallback ∨
    ∃ a, limits.fallback = some a ∧ raised.fallback = some b ∧ a.IsAtMost b

namespace IsRaisedFrom

variable {raised limits : BodyLimits} {b : Number}

/-- One more option leaves raised limits raised, and if it is read in the one case it is in the other. -/
theorem add (h : raised.IsRaisedFrom limits b) {option : Value} {after : BodyLimits}
    (hadd : limits.add option = .ok after) :
    ∃ raisedAfter, raised.add option = .ok raisedAfter ∧ raisedAfter.IsRaisedFrom after b := by
  cases option with
  | number n =>
      -- the option is the fallback from here on, whatever it was before
      obtain rfl := Except.ok.inj hadd
      exact ⟨_, rfl, h.byKind, h.exempt, Or.inl rfl⟩
  | mapping entries =>
      obtain ⟨exempt, hexempt, hafter⟩ := bind_eq_ok_iff.mp hadd
      obtain rfl := Except.ok.inj hafter
      refine ⟨⟨raised.fallback, some (.ofEntries entries), exempt.or raised.exempt⟩, ?_, rfl, ?_, h.fallback⟩
      · exact bind_eq_ok_iff.mpr ⟨exempt, hexempt, rfl⟩
      · show exempt.or raised.exempt = exempt.or limits.exempt
        rw [h.exempt]
  | _ =>
      obtain rfl := Except.ok.inj hadd
      exact ⟨raised, rfl, h⟩

/-- So do any more options. -/
theorem foldlM_add (h : raised.IsRaisedFrom limits b) {options : List Value} {after : BodyLimits}
    (hadd : options.foldlM BodyLimits.add limits = .ok after) :
    ∃ raisedAfter, options.foldlM BodyLimits.add raised = .ok raisedAfter ∧ raisedAfter.IsRaisedFrom after b := by
  induction options generalizing raised limits with
  | nil =>
      obtain rfl := Except.ok.inj hadd
      exact ⟨raised, rfl, h⟩
  | cons option rest ih =>
      rw [List.foldlM_cons, bind_eq_ok_iff] at hadd
      obtain ⟨next, hnext, hrest⟩ := hadd
      obtain ⟨raisedNext, hraised, hstep⟩ := h.add hnext
      obtain ⟨raisedAfter, hafter, hrun⟩ := ih hstep hrest
      refine ⟨raisedAfter, ?_, hrun⟩
      rw [List.foldlM_cons, hraised, ok_bind, hafter]

/-- Raising the numbers changes no limit that a kind has of its own. -/
theorem ownLimit (h : raised.IsRaisedFrom limits b) (kind : Kind) : raised.ownLimit kind = limits.ownLimit kind := by
  unfold BodyLimits.ownLimit
  rw [h.byKind]

/-- Raised limits are laxer: the kinds with a limit of their own keep it, and for the others a greater number is in
force. -/
theorem isLaxerThan (h : raised.IsRaisedFrom limits b) : raised.IsLaxerThan limits := by
  constructor
  · intro name hname
    unfold exemptsName at hname ⊢
    rwa [h.exempt]
  · intro kind length hlength
    unfold maxLength at hlength ⊢
    rw [h.ownLimit] at hlength
    -- a limit that the kind has of its own stays; otherwise the fallback holds, and that was raised or left
    cases howned : limits.ownLimit kind with
    | some limit =>
        rw [howned, Option.some_or] at hlength
        exact hlength
    | none =>
        rw [howned, Option.none_or] at hlength
        rcases h.fallback with hsame | ⟨a, ha, hb, hle⟩
        · rwa [hsame] at hlength
        · rw [hb] at hlength
          rw [Option.none_or, ha]
          exact hle.isBelow hlength

/-- A failure that could be worded still can, if the number that is shown in it instead of another one is written out.
-/
theorem canWord (h : raised.IsRaisedFrom limits b) (hb : b.isWritable = true) {file : SourceFile} {n : Node}
    (hwords : file.canWord limits n = true) : file.canWord raised n = true := by
  unfold SourceFile.canWord areWritable at hwords ⊢
  rw [Bool.and_eq_true] at hwords ⊢
  refine ⟨?_, hwords.2⟩
  have hlimit := hwords.1
  unfold maxLength at hlimit ⊢
  rw [h.ownLimit]
  -- a limit of the kind was written before, and a fallback that was raised is the number that can be written
  cases howned : limits.ownLimit n.kind with
  | some limit => rwa [howned] at hlimit
  | none =>
      rw [Option.none_or]
      rcases h.fallback with hsame | ⟨a, -, hraised, -⟩
      · rw [hsame]
        rwa [howned, Option.none_or] at hlimit
      · rw [hraised]
        exact hb

end IsRaisedFrom

/-- A number that is raised among options leaves options that are read, and limits that are raised. -/
theorem ofValues_set {options : List Value} {limits : BodyLimits} (h : ofValues options = .ok limits) {i : Nat}
    {a b : Number} (hi : options[i]? = some (.number a)) (hle : a.IsAtMost b) :
    ∃ raised, ofValues (options.set i (.number b)) = .ok raised ∧ raised.IsRaisedFrom limits b := by
  obtain ⟨hlt, hget⟩ := List.getElem?_eq_some_iff.mp hi
  have hsplit : options = options.take i ++ .number a :: options.drop (i + 1) := by
    rw [← hget, ← List.drop_eq_getElem_cons hlt, List.take_append_drop]
  unfold ofValues at h ⊢
  rw [hsplit, List.foldlM_append, bind_eq_ok_iff] at h
  obtain ⟨before, hbefore, h⟩ := h
  rw [List.foldlM_cons] at h
  have hraised : BodyLimits.IsRaisedFrom { before with fallback := some b } { before with fallback := some a } b :=
    ⟨rfl, rfl, Or.inr ⟨a, rfl, rfl, hle⟩⟩
  obtain ⟨raised, hrun, hfrom⟩ := hraised.foldlM_add h
  refine ⟨raised, ?_, hfrom⟩
  rw [List.set_eq_take_append_cons_drop, if_pos hlt, List.foldlM_append, hbefore, ok_bind, List.foldlM_cons]
  exact hrun

/-! ## A pattern that is added

A mapping replaces the limits of all kinds. One that is added for its pattern has to repeat them, or else limits by
kind would be lost. It may repeat the limit that was given for a kind, or the one that is in force for it: falling back
twice is falling back once. -/

/-- Does a mapping repeat the limits by kind? Be it the limit that was given for the kind, if any, or the one that is in
force for it. -/
def IsRepeatedBy (limits : BodyLimits) (entries : List (Value × Value)) : Prop :=
  ∀ kind, kind.isFunctionLike = true →
    limitIn entries kind = limits.givenLimit kind ∨ limitIn entries kind = limits.maxLength kind

/-- The limit that is given for a kind is the one in the entries, once they are the last. -/
theorem givenLimit_ofEntries (fallback : Option Number) (entries : List (Value × Value)) (exempt : Option Pattern)
    (kind : Kind) :
    BodyLimits.givenLimit ⟨fallback, some (.ofEntries entries), exempt⟩ kind = limitIn entries kind := by
  cases kind <;> rfl

/-- Limits by kind have nothing for the kinds without a body. -/
theorem givenLimit_of_not_isFunctionLike (limits : BodyLimits) {kind : Kind} (h : ¬kind.isFunctionLike = true) :
    limits.givenLimit kind = none := by
  unfold givenLimit
  rw [Option.bind_eq_none_iff]
  intro byKind _
  cases kind with
  | functionDeclaration | arrowFunction | methodDeclaration | constructorDeclaration => exact absurd rfl h
  | _ => rfl

/-- Entries that repeat limits give every kind the limit that it was given, or the one that held for it. -/
theorem IsRepeatedBy.limitIn_eq {limits : BodyLimits} {entries : List (Value × Value)} (h : limits.IsRepeatedBy entries)
    (kind : Kind) :
    limitIn entries kind = limits.givenLimit kind ∨ limitIn entries kind = limits.maxLength kind := by
  by_cases hkind : kind.isFunctionLike = true
  · exact h kind hkind
  · left
    rw [← givenLimit_ofEntries none entries none, givenLimit_of_not_isFunctionLike _ hkind,
      givenLimit_of_not_isFunctionLike _ hkind]

/-- Asking again for what was found with a fallback finds it again. -/
theorem filter_or_filter_or {α : Type} (p : α → Bool) (own fallback : Option α) :
    (((own.filter p).or fallback).filter p).or fallback = (own.filter p).or fallback := by
  cases hown : own.filter p with
  | some a =>
      have hp := (Option.filter_eq_some_iff.mp hown).2
      rw [Option.some_or, Option.filter, if_pos hp, Option.some_or]
  | none =>
      rw [Option.none_or]
      cases fallback with
      | none => rfl
      | some a =>
          rw [Option.filter]
          split <;> rfl

/-- A mapping that repeats the limits by kind leaves every limit in force. -/
theorem maxLength_of_isRepeatedBy {limits : BodyLimits} {entries : List (Value × Value)} (h : limits.IsRepeatedBy entries)
    (exempt : Option Pattern) (kind : Kind) :
    BodyLimits.maxLength ⟨limits.fallback, some (.ofEntries entries), exempt⟩ kind = limits.maxLength kind := by
  unfold maxLength
  rw [ownLimit_eq_filter, ownLimit_eq_filter, givenLimit_ofEntries]
  rcases h.limitIn_eq kind with hgiven | hforce
  · rw [hgiven]
  · rw [hforce]
    exact filter_or_filter_or Number.isNonzero (limits.givenLimit kind) limits.fallback

/-- A mapping with a pattern that is read behind options for which none is in force. -/
theorem ofValues_append_mapping {options : List Value} {limits : BodyLimits} (h : ofValues options = .ok limits)
    {entries : List (Value × Value)} {given : Value} {pattern : Pattern}
    (hfield : Value.field? entries exemptKey = some given) (htruthy : given.isTruthy = true)
    (hpattern : given.asPattern = .ok pattern) :
    ofValues (options ++ [.mapping entries]) =
      .ok ⟨limits.fallback, some (.ofEntries entries), some pattern⟩ := by
  unfold ofValues at h ⊢
  rw [List.foldlM_append, h, ok_bind, List.foldlM_cons]
  have hexempt : exemptIn entries = .ok (some pattern) := by
    unfold exemptIn
    rw [hfield, Option.filter, if_pos htruthy]
    simp only [patternOf, hpattern]
    rfl
  simp only [add, hexempt, ok_bind, List.foldlM_nil]
  rfl

end BodyLimits

/-! ## Fewer failures

A list of failures is the list of what is flagged, each put into words. That some of it is left is shown before
anything is put into words, and whether there is a list at all is a matter of the numbers that are written. -/

/-- A failure without its wording. -/
def Failure.unworded (f : Failure) : Failure :=
  { f with message := "" }

open BodyLimits

/-- **Raising a limit and exempting calls take failures away, and do nothing else.** Let options come to limits, and
flag functions of a file; a check that comes to a list gives their failures. With a greater number in the place of any
number among the options, some of these functions are flagged, in the same order, and their failures differ at most in
the wording. There is a list as before if the greater number has not too many digits. With one more mapping that repeats
the limits by kind, and has a pattern where there was none, there is a list as before, and some of the failures are
left, in the same order and word for word. -/
theorem limits_are_monotone (file : SourceFile) {options : List Value} {limits : BodyLimits}
    (h : ofValues options = .ok limits) :
    ((file.flagged limits).map Prod.fst).Sublist file.walk ∧
    (∀ failures, file.checkBy options = .ok failures →
      failures = (file.flagged limits).map fun m => file.failureAtNode limits m.2 m.1) ∧
    (∀ (i : Nat) (a b : Number), options[i]? = some (.number a) → a.IsAtMost b →
      ∃ raised, ofValues (options.set i (.number b)) = .ok raised ∧
        (file.flagged raised).Sublist (file.flagged limits) ∧
        ∀ failures, file.checkBy options = .ok failures →
          (b.isWritable = true → ∃ fewer, file.checkBy (options.set i (.number b)) = .ok fewer) ∧
          ∀ fewer, file.checkBy (options.set i (.number b)) = .ok fewer →
            fewer = ((file.flagged raised).map fun m => file.failureAtNode raised m.2 m.1) ∧
            (fewer.map Failure.unworded).Sublist (failures.map Failure.unworded)) ∧
    ∀ (entries : List (Value × Value)) (given : Value) (pattern : Pattern),
      limits.exempt = none → limits.IsRepeatedBy entries → Value.field? entries exemptKey = some given →
      given.isTruthy = true → given.asPattern = .ok pattern →
      ∀ failures, file.checkBy options = .ok failures →
        ∃ fewer, file.checkBy (options ++ [.mapping entries]) = .ok fewer ∧ fewer.Sublist failures := by
  have hwalk : ((file.flagged limits).map Prod.fst).Sublist file.walk :=
    SourceFile.flagged_sublist_walk.trans List.filter_sublist
  refine ⟨hwalk, ?_, ?_, ?_⟩
  · intro failures hfailures
    rw [SourceFile.checkBy_eq h] at hfailures
    exact (SourceFile.worded_eq_ok_iff.mp hfailures).2
  · intro i a b hi hle
    -- a raised number makes the limits laxer, so fewer functions are flagged
    obtain ⟨raised, hraised, hfrom⟩ := ofValues_set h hi hle
    have hflagged := file.flagged_sublist hfrom.isLaxerThan
    refine ⟨raised, hraised, hflagged, fun failures hfailures => ?_⟩
    rw [SourceFile.checkBy_eq h] at hfailures
    obtain ⟨hwords, rfl⟩ := SourceFile.worded_eq_ok_iff.mp hfailures
    rw [SourceFile.checkBy_eq hraised]
    constructor
    · intro hb
      exact ⟨_, SourceFile.worded_of_all fun m hm => hfrom.canWord hb (hwords m (hflagged.mem hm))⟩
    · intro fewer hfewer
      obtain ⟨-, rfl⟩ := SourceFile.worded_eq_ok_iff.mp hfewer
      refine ⟨rfl, ?_⟩
      rw [List.map_map, List.map_map]
      exact hflagged.map _
  · intro entries given pattern hnone hrepeated hfield htruthy hpattern failures hfailures
    rw [SourceFile.checkBy_eq h] at hfailures
    obtain ⟨hwords, rfl⟩ := SourceFile.worded_eq_ok_iff.mp hfailures
    have hread := ofValues_append_mapping h hfield htruthy hpattern
    have hmax := maxLength_of_isRepeatedBy hrepeated (some pattern)
    -- the pattern exempts more, and the limits that the mapping repeats are the same
    have hlaxer : BodyLimits.IsLaxerThan ⟨limits.fallback, some (.ofEntries entries), some pattern⟩ limits := by
      constructor
      · intro name hname
        simp [exemptsName, hnone] at hname
      · intro kind length hlength
        rwa [hmax] at hlength
    have hflagged := file.flagged_sublist hlaxer
    -- the limits in force are those of before, and so are the failures and whether they can be worded
    have hsame : ∀ className n, file.failureAtNode ⟨limits.fallback, some (.ofEntries entries), some pattern⟩ className n =
        file.failureAtNode limits className n := by
      intro className n
      unfold SourceFile.failureAtNode
      rw [hmax]
    rw [SourceFile.checkBy_eq hread]
    refine ⟨_, SourceFile.worded_of_all fun m hm => ?_, ?_⟩
    · rw [SourceFile.canWord, hmax]
      exact hwords m (hflagged.mem hm)
    · simp only [hsame]
      exact hflagged.map _

/-! ## Two bodies -/

/-- A file with a function whose body has two line endings, and an arrow function with three that is passed to `it`. -/
def twoBodies : SourceFile :=
  .ofTree "two.ts" "\n\n\n"
    ⟨.sourceFile, 0, 3, none, none,
      [⟨.functionDeclaration, 0, 2, some "f", some ⟨0, 2⟩, [], none, [], -1, -1⟩,
        ⟨.callExpression, 0, 3, none, none,
          [⟨.identifier, 0, 0, some "it", none, [], none, [], -1, -1⟩,
            ⟨.arrowFunction, 0, 3, none, some ⟨0, 3⟩, [], none, [], -1, -1⟩],
          some (.child 0), [.child 1], -1, -1⟩],
      none, [], -1, -1⟩

/-- The arrow functions are handed back to the fallback. -/
def handedBackOptions : List Value :=
  [.int 1, .mapping [(.text "arrow-body-length", .int 0)]]

/-- What they come to. -/
def handedBackLimits : BodyLimits :=
  ⟨some (.whole 1), some ⟨none, some (.whole 0), none, none⟩, none⟩

/-- Two and a half. -/
def twoAndHalf : Number :=
  .fraction (.finite false 5 (-1))

/-- The limits by kind once more, and a pattern. -/
def addedEntries : List (Value × Value) :=
  [(.text "arrow-body-length", .int 0), (.text exemptKey, .text "it")]

/-- The failure of the function. -/
def functionFailure : Failure :=
  ⟨ruleName, "two.ts", 0, 2, 0, 0, "Max function body length exceeded in function f() - max: 1, actual: 2", 2⟩

/-- The failure of the arrow function under a limit. -/
def arrowFailure (limit : String) : Failure :=
  ⟨ruleName, "two.ts", 0, 3, 0, 0, "Max arrow function body length exceeded - max: " ++ limit ++ ", actual: 3", 3⟩

/-- Two and a half in the place of one spares the function, and the pattern spares the arrow function. -/
theorem twoBodies_lose_failures :
    ofValues handedBackOptions = .ok handedBackLimits ∧
    twoBodies.checkBy handedBackOptions = .ok [functionFailure, arrowFailure "1"] ∧
    (Number.whole 1).IsAtMost twoAndHalf ∧ handedBackLimits.IsRepeatedBy addedEntries ∧
    twoBodies.checkBy (handedBackOptions.set 0 (.number twoAndHalf)) = .ok [arrowFailure "2.5"] ∧
    ([arrowFailure "2.5"].map Failure.unworded).Sublist ([functionFailure, arrowFailure "1"].map Failure.unworded) ∧
    twoBodies.checkBy (handedBackOptions ++ [.mapping addedEntries]) = .ok [functionFailure] ∧
    [functionFailure].Sublist [functionFailure, arrowFailure "1"] := by
  have hread : ofValues handedBackOptions = .ok handedBackLimits := rfl
  have hcheck : twoBodies.checkBy handedBackOptions = .ok [functionFailure, arrowFailure "1"] :=
    toOption_eq_some_iff.mp (by decide +kernel)
  have hraised : twoBodies.checkBy (handedBackOptions.set 0 (.number twoAndHalf)) = .ok [arrowFailure "2.5"] :=
    toOption_eq_some_iff.mp (by decide +kernel)
  have hadded : twoBodies.checkBy (handedBackOptions ++ [.mapping addedEntries]) = .ok [functionFailure] :=
    toOption_eq_some_iff.mp (by decide +kernel)
  have hle : (Number.whole 1).IsAtMost twoAndHalf := by
    refine ⟨_, _, rfl, rfl, ?_⟩
    rw [WithBotTop.coe_le_coe, Binary64.finiteValue]
    norm_num
  have hrepeated : handedBackLimits.IsRepeatedBy addedEntries := by
    intro kind _
    cases kind <;> exact Or.inl rfl
  obtain ⟨pattern, hpattern⟩ : ∃ pattern, (Value.text "it").asPattern = .ok pattern :=
    exists_eq_ok_iff_isOk.mpr (by decide +kernel)
  -- what the general statement gives for the two ways to loosen the limits
  obtain ⟨-, -, hraise, hadd⟩ := limits_are_monotone twoBodies hread
  obtain ⟨_, -, -, hlists⟩ := hraise 0 _ _ rfl hle
  obtain ⟨-, hunworded⟩ := (hlists _ hcheck).2 _ hraised
  obtain ⟨left, hleft, hsublist⟩ := hadd addedEntries (.text "it") pattern rfl hrepeated rfl rfl hpattern _ hcheck
  obtain rfl := Except.ok.inj (hadded.symm.trans hleft)
  exact ⟨hread, hcheck, hle, hrepeated, hraised, hunworded, hadded, hsublist⟩

end BodyLength
