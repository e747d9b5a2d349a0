import BodyLength.Proofs.Limits.ListingAgreement
import BodyLength.Proofs.Limits.Rejections
import BodyLength.Proofs.Tree.BodyLengths
import BodyLength.Source.Lowering

/-!
# Bodies on one line

A function without a body, or with one that starts and ends on the same line, has the length zero. That no such function
is ever too long does not follow, since nothing keeps a limit from being negative. It holds for a kind exactly if the
limit that is in force for the kind is not below zero.

* `visit_eq_visitAll_iff`: a function on one line adds nothing of its own exactly if zero is not over its limit.
* `oneLine_bodies_pass_iff`: so no file has a failure for a function of a kind on one line exactly if zero is not over
  the limit of the kind, or if that limit has too many digits to be shown in a failure.
-/

namespace BodyLength

/-! ## Nodes with one failure between them -/

/-- Two functions with one failure between them are of the same kind. -/
theorem SourceFile.IsFailureOf.kind_eq {file : SourceFile} {limits : BodyLimits} {m n : Node} {f : Failure}
    (h : file.IsFailureOf limits m f) (h' : file.IsFailureOf limits n f) (hm : m.kind.isFunctionLike = true)
    (hn : n.kind.isFunctionLike = true) : m.kind = n.kind := by
  obtain ⟨className, rfl⟩ := h
  obtain ⟨className', h'⟩ := h'
  have hnames : (file.failureAtNode limits className m).NamesKind m.kind :=
    ((matches_failureAtNode hm className).kind m.kind).mpr rfl
  rw [h'] at hnames
  exact ((matches_failureAtNode hn className').kind m.kind).mp hnames

/-! ## Functions on one line -/

/-- Has a node no body, or one that starts and ends on the same line? -/
def SourceFile.IsOnOneLine (file : SourceFile) (n : Node) : Prop :=
  ∀ body, n.body = some body → file.lineMap.lineOf body.start = file.lineMap.lineOf body.stop

/-- A body on one line has the length zero, and so has none. -/
theorem SourceFile.IsOnOneLine.bodyLength_eq_zero {file : SourceFile} {n : Node} (h : file.IsOnOneLine n) :
    file.bodyLength n = 0 := by
  unfold bodyLength
  cases hbody : n.body with
  | none => rfl
  | some body => simp [h body hbody]

/-- Is zero not over the limit that is in force for a kind? It is over none, and over none that is no number. -/
def BodyLimits.AdmitsZero (limits : BodyLimits) (kind : Kind) : Prop :=
  ∀ limit, limits.maxLengthFor kind = .ok (some limit) → ¬limit.IsExceededBy 0

/-- The limits admit zero for a kind exactly if zero does not exceed the limit that holds for it. -/
theorem BodyLimits.admitsZero_iff {limits : BodyLimits} {kind : Kind} (hkind : kind.isFunctionLike = true) :
    limits.AdmitsZero kind ↔ exceeds 0 (limits.maxLength kind) = false := by
  rw [AdmitsZero, maxLengthFor_eq_ok hkind]
  cases hlimit : limits.maxLength kind with
  | none => simp [exceeds]
  | some limit => simp [exceeds, ← Number.isBelow_iff]

variable {limits : BodyLimits} {kind : Kind}

/-- A function that is over its limit has a positive length, if zero is not over the limit. -/
theorem SourceFile.bodyLength_pos_of_isOverLimit {file : SourceFile} {n : Node} (h : limits.AdmitsZero n.kind)
    (hover : file.isOverLimit limits n = true) : 0 < file.bodyLength n := by
  obtain ⟨hkind, hexceeds⟩ := Bool.and_eq_true_iff.mp hover
  rw [BodyLimits.admitsZero_iff hkind] at h
  refine lt_of_le_of_ne (file.bodyLength_nonneg n) fun hzero => ?_
  rw [← hzero, h] at hexceeds
  exact Bool.false_ne_true hexceeds

/-- A function without a body is on one line. -/
theorem isOnOneLine_bodilessFile (kind : Kind) : (bodilessFile kind).IsOnOneLine (bodilessFile kind).root := by
  intro body hbody
  cases hbody

/-- It is the only node of its file. -/
theorem root_mem_walk_bodilessFile (kind : Kind) : (bodilessFile kind).root ∈ (bodilessFile kind).walk := by
  rw [SourceFile.walk, Node.walk_eq_preorder]
  exact Node.self_mem_preorder _

/-- Wherever a function on one line is met, it adds nothing of its own, exactly if zero is not over its limit. -/
theorem visit_eq_visitAll_iff (hkind : kind.isFunctionLike = true) :
    (∀ (file : SourceFile) (n : Node) (s : Surroundings), n.kind = kind → file.IsOnOneLine n →
      visit limits file n s = visitAll limits file n.children s) ↔ limits.AdmitsZero kind := by
  rw [BodyLimits.admitsZero_iff hkind]
  constructor
  · intro h
    by_contra hzero
    rw [Bool.not_eq_false] at hzero
    -- if zero is over the limit then a function without a body is the one to look at
    have hvisit := h (bodilessFile kind) (bodilessFile kind).root .atRoot rfl (isOnOneLine_bodilessFile kind)
    have hflagged : (bodilessFile kind).root.flagged limits (bodilessFile kind) Surroundings.atRoot.isExempt
        Surroundings.atRoot.className = _ := flagged_bodilessFile hkind hzero
    rw [visit_eq, hflagged] at hvisit
    -- one failure or the end of the run, and the children add neither
    by_cases hwords : ∀ m ∈ [((bodilessFile kind).root, "")], (bodilessFile kind).canWord limits m.1 = true
    · rw [SourceFile.worded_of_all hwords] at hvisit
      cases hvisit
    · rw [SourceFile.worded_of_not_all hwords] at hvisit
      cases hvisit
  · rintro h file n s rfl hone
    have hown : ∀ isExempt className, n.ownFlagged limits file className isExempt = [] := by
      intro isExempt className
      rw [Node.ownFlagged_eq, SourceFile.isOverLimit, hone.bodyLength_eq_zero, h]
      simp
    rw [visit_of_functionLike limits file s hkind, Surroundings.measure_eq limits file s hkind, hown,
      SourceFile.worded_nil]
    show visitAll limits file n.children (s.addFailures []) = _
    rw [Surroundings.addFailures_nil]

/-- A failure of a check is the failure of a flagged function, which is over its limit, and the limit is written out. -/
theorem exists_isFailureOf_of_checkBy {options : List Value} (h : BodyLimits.ofValues options = .ok limits)
    {file : SourceFile} {failures : List Failure} (hfailures : file.checkBy options = .ok failures) {f : Failure}
    (hf : f ∈ failures) :
    ∃ m, file.IsFailureOf limits m f ∧ file.isOverLimit limits m = true ∧ limits.WritesLimit m.kind := by
  rw [SourceFile.checkBy_eq h] at hfailures
  obtain ⟨hwords, rfl⟩ := SourceFile.worded_eq_ok_iff.mp hfailures
  obtain ⟨m, hm, rfl⟩ := List.mem_map.mp hf
  have hover := (List.mem_filter.mp (SourceFile.flagged_sublist_walk.mem (List.mem_map_of_mem hm))).2
  have hlimit := (Bool.and_eq_true_iff.mp (hwords m hm)).1
  exact ⟨m.1, ⟨m.2, rfl⟩, hover, (BodyLimits.writesLimit_iff (Bool.and_eq_true_iff.mp hover).1).mpr hlimit⟩

/-- A function by itself has its failure if zero is over its limit and the limit is written out. -/
theorem checkBy_bodilessFile {options : List Value} (h : BodyLimits.ofValues options = .ok limits)
    (hkind : kind.isFunctionLike = true) (hzero : ¬limits.AdmitsZero kind) (hwrites : limits.WritesLimit kind) :
    (bodilessFile kind).checkBy options =
      .ok [(bodilessFile kind).failureAtNode limits "" (bodilessFile kind).root] := by
  rw [BodyLimits.admitsZero_iff hkind, Bool.not_eq_false] at hzero
  rw [SourceFile.checkBy_eq h, flagged_bodilessFile hkind hzero]
  apply SourceFile.worded_of_all
  rw [List.forall_mem_singleton, SourceFile.canWord, (isOnOneLine_bodilessFile kind).bodyLength_eq_zero]
  exact Bool.and_eq_true_iff.mpr ⟨(BodyLimits.writesLimit_iff hkind).mp hwrites, by decide⟩

/-- **A function on one line is never too long, as long as its limit is not below zero.** Let options come to limits,
and take any kind of function. Its functions without a body, or with one that starts and ends on the same line, add
nothing of their own wherever they are met exactly if zero is not over the limit in force for the kind. None of them has
a failure in any file with a check that comes to failures exactly if this is so, or if the limit has too many digits,
for then there are no such checks of files in which zero is over the limit. -/
theorem oneLine_bodies_pass_iff {options : List Value} (h : BodyLimits.ofValues options = .ok limits)
    (hkind : kind.isFunctionLike = true) :
    ((∀ (file : SourceFile) (n : Node) (s : Surroundings), n.kind = kind → file.IsOnOneLine n →
      visit limits file n s = visitAll limits file n.children s) ↔ limits.AdmitsZero kind) ∧
    ((∀ filename text root file failures, file = SourceFile.ofTree filename text root →
      file.checkBy options = .ok failures →
        ∀ n ∈ file.walk, n.kind = kind → file.IsOnOneLine n → ∀ f ∈ failures, ¬file.IsFailureOf limits n f) ↔
      limits.AdmitsZero kind ∨ ¬limits.WritesLimit kind) := by
  refine ⟨visit_eq_visitAll_iff hkind, ⟨fun hall => ?_, ?_⟩⟩
  · by_contra hneither
    rw [not_or, not_not] at hneither
    -- a function without a body has a failure, if that can be worded
    have hcheck := checkBy_bodilessFile h hkind hneither.1 hneither.2
    have hpass := hall "" "" { (default : Node) with kind := kind } (bodilessFile kind) _ rfl hcheck
    exact hpass _ (root_mem_walk_bodilessFile kind) rfl (isOnOneLine_bodilessFile kind) _ (List.mem_singleton_self _)
      ⟨"", rfl⟩
  · rintro heither filename text root file failures rfl hfailures n - rfl hone f hf hn
    -- the failure is the one of some node over its limit, which is of the same kind and has the same length
    obtain ⟨m, hm, hover, hwrites⟩ := exists_isFailureOf_of_checkBy h hfailures hf
    have hsame := hm.kind_eq hn (Bool.and_eq_true_iff.mp hover).1 hkind
    rcases heither with hzero | hlong
    · have hpos := SourceFile.bodyLength_pos_of_isOverLimit (hsame ▸ hzero) hover
      rw [← hm.length_eq, hn.length_eq, hone.bodyLength_eq_zero] at hpos
      exact Int.lt_irrefl 0 hpos
    · exact hlong (hsame ▸ hwrites)

/-! ## Negative limits -/

/-- Zero is the limit of all kinds but that of arrow functions, which is below it. -/
def negativeArrowOptions : List Value :=
  [.int 0, .mapping [(.text "arrow-body-length", .int (-1))]]

/-- What the options come to. -/
def negativeArrowLimits : BodyLimits :=
  ⟨some (.whole 0), some ⟨none, some (.whole (-1)), none, none⟩, none⟩

/-- Functions on one line pass under these options, and arrow functions on one line do not. -/
theorem negativeArrowLimit_spares_functions :
    BodyLimits.ofValues negativeArrowOptions = .ok negativeArrowLimits ∧
    (∀ filename text root file failures, file = SourceFile.ofTree filename text root →
      file.checkBy negativeArrowOptions = .ok failures →
        ∀ n ∈ file.walk, n.kind = .functionDeclaration → file.IsOnOneLine n →
          ∀ f ∈ failures, ¬file.IsFailureOf negativeArrowLimits n f) ∧
    ¬∀ filename text root file failures, file = SourceFile.ofTree filename text root →
      file.checkBy negativeArrowOptions = .ok failures →
        ∀ n ∈ file.walk, n.kind = .arrowFunction → file.IsOnOneLine n →
          ∀ f ∈ failures, ¬file.IsFailureOf negativeArrowLimits n f := by
  have hread : BodyLimits.ofValues negativeArrowOptions = .ok negativeArrowLimits := rfl
  obtain ⟨-, hfunction⟩ := @oneLine_bodies_pass_iff negativeArrowLimits .functionDeclaration _ hread rfl
  obtain ⟨-, harrow⟩ := @oneLine_bodies_pass_iff negativeArrowLimits .arrowFunction _ hread rfl
  refine ⟨hread, hfunction.mpr (Or.inl ?_), fun h => ?_⟩
  · rw [BodyLimits.admitsZero_iff rfl]
    decide
  · rcases harrow.mp h with hzero | hlong
    · exact absurd ((BodyLimits.admitsZero_iff rfl).mp hzero) (by decide)
    · exact hlong ((BodyLimits.writesLimit_iff rfl).mpr (by decide +kernel))

/-- A function on one line. -/
def shortSource : String :=
  "def f():\n  pass\n"

/-- Under a limit of minus one it has a failure. -/
theorem negativeLimit_reports_oneLine :
    ∃ file n f, SourceFile.ofSource "m.py" shortSource = .ok file ∧ n ∈ file.walk ∧ n.isFunctionLike ∧
      file.IsOnOneLine n ∧ file.checkBy [.int (-1)] = .ok [f] ∧ file.IsFailureOf (.uniform (.whole (-1))) n f := by
  have hrun : ((SourceFile.ofSource "m.py" shortSource).toOption.bind fun file =>
      (file.walk.find? Node.isFunctionLike).map fun n =>
        (n.body.map fun body => (file.lineMap.lineOf body.start, file.lineMap.lineOf body.stop),
          (file.checkBy [.int (-1)]).toOption == some [file.failureAtNode (.uniform (.whole (-1))) "" n])) =
      some (some (1, 1), true) := by
    decide +kernel
  obtain ⟨file, hfile, hn⟩ := Option.bind_eq_some_iff.mp hrun
  obtain ⟨n, hfind, heq⟩ := Option.map_eq_some_iff.mp hn
  obtain ⟨hlines, hfailures⟩ := Prod.mk.inj heq
  refine ⟨file, n, _, toOption_eq_some_iff.mp hfile, List.mem_of_find?_eq_some hfind, List.find?_some hfind,
    fun body hbody => ?_, toOption_eq_some_iff.mp (eq_of_beq hfailures), "", rfl⟩
  rw [hbody, Option.map_some, Option.some.injEq, Prod.mk.injEq] at hlines
  rw [hlines.1, hlines.2]

end BodyLength
