import BodyLength.Proofs.Lint.Isolation
import Mathlib.Data.Int.Order.Basic
import Mathlib.Data.List.Nodup
import Mathlib.Data.List.Perm.Basic
import Mathlib.Data.Prod.Lex
import Mathlib.Data.Set.List
import Mathlib.Data.String.Basic

/-!
# What a run gathers

A run takes the files one after the other and puts together what comes of each of them. Nothing that is found in a file
depends on the other files, nothing is lost on the way, and in the end the failures are put in the order of their
places: by file, then by position. Each file is accounted for once. It was checked, or a report without a rule says why
it could not be, or it has no frontend.

All this is said of files that a run has listed and that can all be checked. What is read in the order of the files is
then read in any other order as well, since no file is the reason that another one is not come to.

* `IsSortedForm`: what the order of failures in a result is. `Failure.isSortedForm_mergeSort` says that sorting gives
  it, and `IsSortedForm.eq_of_perm` that failures at different places have one order only.
* `lintFile_accounts`: one file is one file checked, one file unread, or one file without a frontend.
* `lintPaths_gathers_files`: what a run over many files comes to.
-/

namespace BodyLength

/-! ## The order of failures

Failures are compared by their file and their position. Sorting keeps those in order that compare alike, so the order
of a list with one failure at each place is known by what is in it. -/

namespace Failure

/-- Where a failure is: its file, and the position in the file. Places are compared by file first. -/
def place (f : Failure) : String ×ₗ Int :=
  toLex (f.file, f.start)

/-- The order that failures are sorted by is that of their files, and within a file that of their starts. -/
theorem comesFirst_iff {f g : Failure} : f.comesFirst g = true ↔ f.place ≤ g.place := by
  rw [place, place, Prod.Lex.toLex_le_toLex]
  simp [comesFirst]

end Failure

/-- Are failures the given ones put in the order of their places, those at one place in the order that they had? -/
structure IsSortedForm (given sorted : List Failure) : Prop where
  /-- Nothing is lost and nothing is added. -/
  perm : sorted.Perm given
  /-- The places come in order. -/
  inOrder : sorted.Pairwise fun f g => f.place ≤ g.place
  /-- At one place the order is the given one. -/
  stable : ∀ place, (sorted.filter fun f => f.place = place) = given.filter fun f => f.place = place

/-- Sorting gives a sorted form. Failures of one place keep their order, since the sort is stable. -/
theorem Failure.isSortedForm_mergeSort (failures : List Failure) :
    IsSortedForm failures (failures.mergeSort Failure.comesFirst) := by
  have htrans : ∀ f g h : Failure, f.comesFirst g = true → g.comesFirst h = true → f.comesFirst h = true := by
    intro f g h hfg hgh
    rw [comesFirst_iff] at hfg hgh ⊢
    exact hfg.trans hgh
  have htotal : ∀ f g : Failure, (f.comesFirst g || g.comesFirst f) = true := by
    intro f g
    rw [Bool.or_eq_true, comesFirst_iff, comesFirst_iff]
    exact le_total f.place g.place
  have hperm : (failures.mergeSort comesFirst).Perm failures := List.mergeSort_perm failures comesFirst
  refine ⟨hperm, ?_, fun place => ?_⟩
  · exact (List.pairwise_mergeSort htrans htotal failures).imp comesFirst_iff.mp
  · -- the failures at one place are in order as they stand, and sorting leaves what is in order where it is
    have hpart : ((failures.filter fun f => f.place = place)).Pairwise fun f g => f.comesFirst g = true := by
      refine List.pairwise_of_forall_mem_list fun f hf g hg => ?_
      rw [List.mem_filter, decide_eq_true_eq] at hf hg
      rw [comesFirst_iff, hf.2, hg.2]
    have hsublist := (List.sublist_mergeSort htrans htotal hpart List.filter_sublist).filter fun f => f.place = place
    rw [List.filter_filter] at hsublist
    simp only [Bool.and_self] at hsublist
    exact (hsublist.eq_of_length (hperm.filter _).length_eq.symm).symm

/-- Failures at different places have one order only. -/
theorem IsSortedForm.eq_of_perm {given given' sorted sorted' : List Failure} (h : IsSortedForm given sorted)
    (h' : IsSortedForm given' sorted') (hperm : sorted'.Perm sorted) (hplaces : (sorted.map Failure.place).Nodup) :
    sorted' = sorted := by
  refine hperm.eq_of_pairwise (fun f g hf hg hfg hgf => ?_) h'.inOrder h.inOrder
  exact List.inj_on_of_nodup_map hplaces (hperm.mem_iff.mp hf) hg (le_antisymm hfg hgf)

/-! ## Results together

Results are put together in the order of the files. Failures and errors go one behind the other, and the numbers of
files are added up. -/

namespace LintResult

/-- How many files the errors say could not be read. -/
def unread (r : LintResult) : Nat :=
  r.errors.countP fun e => e.rule.isNone

/-- Several results together, in order. -/
def gather (results : List LintResult) : LintResult :=
  results.foldr merge empty

@[simp] theorem gather_nil : gather [] = empty := rfl

@[simp] theorem gather_cons (r : LintResult) (rest : List LintResult) :
    gather (r :: rest) = r.merge (gather rest) := rfl

/-- The failures of results together are those of each, one result behind the other. -/
theorem gather_failures (results : List LintResult) : (gather results).failures = results.flatMap failures := by
  induction results with
  | nil => rfl
  | cons r rest ih => simp [merge, ih]

/-- So are the errors. -/
theorem gather_errors (results : List LintResult) : (gather results).errors = results.flatMap errors := by
  induction results with
  | nil => rfl
  | cons r rest ih => simp [merge, ih]

/-- Results may be put together in two steps. -/
theorem gather_append (first second : List LintResult) :
    gather (first ++ second) = (gather first).merge (gather second) := by
  induction first with
  | nil => simp
  | cons r rest ih => simp [ih, merge_assoc]

@[simp] theorem unread_empty : empty.unread = 0 := rfl

/-- The files that could not be read are counted together. -/
@[simp] theorem unread_merge (r s : LintResult) : (r.merge s).unread = r.unread + s.unread := by
  simp [unread, merge]

/-- So are the files that were checked. -/
@[simp] theorem filesChecked_merge (r s : LintResult) : (r.merge s).filesChecked = r.filesChecked + s.filesChecked :=
  rfl

end LintResult

/-! ## One file

What a file adds up to is followed from the rules over the file to the run: rules add failures and errors of their own,
and the file is counted by whoever reads it. There are three outcomes, and each file has exactly one of them. -/

section Files

variable {registry : Registry} {config : Config} {tree : Entry}

/-- What a rule adds to a result is no file checked and no file unread. -/
theorem lintByRule_accounts {file : SourceFile} {name : String} {options : List Value} {r : LintResult}
    (h : (lintByRule registry file name options).outcome = .ok r) : r.filesChecked = 0 ∧ r.unread = 0 := by
  cases hrule : registry.find? name with
  | none =>
      simp only [lintByRule, hrule] at h
      cases h
      exact ⟨rfl, rfl⟩
  | some rule =>
      rw [lintByRule_outcome hrule] at h
      cases hcheck : rule.check options file with
      | ok failures =>
          rw [hcheck] at h
          cases h
          exact ⟨rfl, rfl⟩
      | error fault =>
          rw [hcheck] at h
          cases fault with
          | error e =>
              cases h
              exact ⟨rfl, rfl⟩
          | abort why => cases h

/-- The rules by themselves count no file, whether as checked or as unread: this is for the file as a whole. -/
theorem lintByRules_accounts {file : SourceFile} {rules : List (String × List Value)} {r : LintResult}
    (h : (lintByRules registry file rules).outcome = .ok r) : r.filesChecked = 0 ∧ r.unread = 0 := by
  induction rules generalizing r with
  | nil =>
      cases h
      exact ⟨rfl, rfl⟩
  | cons rule rest ih =>
      obtain ⟨name, options⟩ := rule
      simp only [lintByRules, Work.bind_eq_andThen, Work.pure_eq_done, Work.andThen_outcome, Work.done_outcome] at h
      obtain ⟨first, hfirst, h⟩ := bind_eq_ok_iff.mp h
      obtain ⟨others, hothers, h⟩ := bind_eq_ok_iff.mp h
      cases h
      obtain ⟨hchecked, hunread⟩ := lintByRule_accounts hfirst
      obtain ⟨hchecked', hunread'⟩ := ih hothers
      simp [hchecked, hchecked', hunread, hunread']

/-- A file that has a tree is one file checked. -/
theorem lintSourceFile_accounts {file : SourceFile} {r : LintResult}
    (h : (lintSourceFile registry config file).outcome = .ok r) : r.filesChecked = 1 ∧ r.unread = 0 := by
  simp only [lintSourceFile, Work.bind_eq_andThen, Work.pure_eq_done, Work.andThen_outcome, Work.done_outcome] at h
  obtain ⟨result, hresult, h⟩ := bind_eq_ok_iff.mp h
  cases h
  obtain ⟨hchecked, hunread⟩ := lintByRules_accounts hresult
  rw [LintResult.filesChecked_merge, LintResult.unread_merge, hchecked, hunread]
  exact ⟨rfl, rfl⟩

/-- A file is checked, or unread, or has no frontend. -/
theorem lintFile_accounts {p : Path} {r : LintResult} (h : (lintFile registry config tree p).outcome = .ok r) :
    r.filesChecked + r.unread + (if p.lacksFrontend = true then 1 else 0 : Nat) = 1 := by
  rcases lacksFrontend_or_loads tree p with hlacks | ⟨file, htree⟩ | ⟨e, hfails⟩ | ⟨why, hends⟩
  · rw [lintFile_outcome_of_lacksFrontend hlacks] at h
    cases h
    simp [hlacks, LintResult.empty, LintResult.unread]
  · rw [lintFile_outcome_of_hasTree htree] at h
    obtain ⟨hchecked, hunread⟩ := lintSourceFile_accounts h
    simp [htree.not_lacksFrontend, hchecked, hunread]
  · rw [lintFile_outcome_of_failsToLoad hfails] at h
    cases h
    simp [hfails.not_lacksFrontend, LintResult.ofUnread, LintResult.unread, loadReport]
  · rw [lintFile_outcome_of_endsLoading hends] at h
    cases h

/-! ## Many files

Each file gives its result whatever the others are. So the results of several files are known once those of each are,
in whatever order they come, and the result of the run is what these results are put together to. -/

variable (registry config tree) in
/-- Are results what checking some files gives, file by file? -/
def Gives (files : List Path) (results : List LintResult) : Prop :=
  files.map (fun p => (lintFile registry config tree p).outcome) = results.map .ok

/-- Files that all come to a result come to results. -/
theorem exists_gives {files : List Path} (h : ∀ p ∈ files, (lintFile registry config tree p).Completes) :
    ∃ results, Gives registry config tree files results := by
  have hrange : files.map (fun p => (lintFile registry config tree p).outcome) ∈
      Set.range (List.map (Except.ok : LintResult → Except Abort LintResult)) := by
    rw [Set.range_list_map]
    intro outcome houtcome
    obtain ⟨p, hp, rfl⟩ := List.mem_map.mp houtcome
    obtain ⟨r, hr⟩ := h p hp
    exact ⟨r, hr.symm⟩
  obtain ⟨results, hresults⟩ := hrange
  exact ⟨results, hresults.symm⟩

/-- The results of files are that of the first and those of the others. -/
theorem gives_cons_iff {p : Path} {files : List Path} {results : List LintResult} :
    Gives registry config tree (p :: files) results ↔ ∃ first rest, results = first :: rest ∧
      (lintFile registry config tree p).outcome = .ok first ∧ Gives registry config tree files rest := by
  unfold Gives
  rw [List.map_cons, eq_comm, List.map_eq_cons_iff]
  constructor
  · rintro ⟨first, rest, rfl, hfirst, hrest⟩
    exact ⟨first, rest, rfl, hfirst.symm, hrest.symm⟩
  · rintro ⟨first, rest, rfl, hfirst, hrest⟩
    exact ⟨first, rest, rfl, hfirst.symm, hrest.symm⟩

/-- The results of two lists of files are those of the first and those of the second. -/
theorem gives_append_iff {files files' : List Path} {results : List LintResult} :
    Gives registry config tree (files ++ files') results ↔ ∃ first second, results = first ++ second ∧
      Gives registry config tree files first ∧ Gives registry config tree files' second := by
  unfold Gives
  rw [List.map_append, eq_comm, List.map_eq_append_iff]
  constructor
  · rintro ⟨first, second, rfl, hfirst, hsecond⟩
    exact ⟨first, second, rfl, hfirst.symm, hsecond.symm⟩
  · rintro ⟨first, second, rfl, hfirst, hsecond⟩
    exact ⟨first, second, rfl, hfirst.symm, hsecond.symm⟩

/-- Files in another order give their results in another order. -/
theorem Gives.perm {files files' : List Path} {results results' : List LintResult}
    (h : Gives registry config tree files results) (h' : Gives registry config tree files' results')
    (hfiles : files'.Perm files) : results'.Perm results := by
  have houtcomes := hfiles.map fun p => (lintFile registry config tree p).outcome
  rw [h, h'] at houtcomes
  exact (List.map_perm_map_iff fun _ _ => Except.ok.inj).mp houtcomes

/-- Every file is accounted for once. -/
theorem Gives.accounts {files : List Path} {results : List LintResult} (h : Gives registry config tree files results) :
    (LintResult.gather results).filesChecked + (LintResult.gather results).unread +
      files.countP Path.lacksFrontend = files.length := by
  induction files generalizing results with
  | nil =>
      cases List.map_eq_nil_iff.mp h.symm
      rfl
  | cons p files ih =>
      obtain ⟨first, rest, rfl, hfirst, hrest⟩ := gives_cons_iff.mp h
      have hone := lintFile_accounts hfirst
      have hmany := ih hrest
      simp only [LintResult.gather_cons, LintResult.unread_merge, LintResult.filesChecked_merge, List.countP_cons,
        List.length_cons]
      omega

/-- What is met gives the results of the files that it lists. -/
theorem lintFindings_outcome {found : List Finding} {files : List Path} {results : List LintResult}
    (hfiles : Finding.Lists found files) (h : Gives registry config tree files results) :
    (lintFindings registry config tree found).outcome = .ok (LintResult.gather results) := by
  induction found generalizing files results with
  | nil =>
      obtain rfl := Finding.lists_nil_iff.mp hfiles
      cases List.map_eq_nil_iff.mp h.symm
      rfl
  | cons finding rest ih =>
      cases finding with
      | path p =>
          obtain ⟨others, rfl, hrest⟩ := Finding.lists_path_iff.mp hfiles
          obtain ⟨first, more, rfl, hfirst, hothers⟩ := gives_cons_iff.mp h
          simp [lintFindings, Work.andThen_outcome, hfirst, ih hrest hothers, Except.bind]
      | remark n => simp [lintFindings, ih (Finding.lists_remark_iff.mp hfiles) h]
      | abort why => exact absurd hfiles Finding.not_lists_abort

/-- A run gives the results of its files together, the failures in order. -/
theorem lintPaths_outcome {recursive : Bool} {paths files : List Path} {results : List LintResult}
    (hfiles : (config.selectFiles tree recursive paths).outcome = .ok files)
    (h : Gives registry config tree files results) :
    (lintPaths registry config tree recursive paths).outcome = .ok (LintResult.gather results).sorted := by
  simp [lintPaths, Work.andThen_outcome, lintFindings_outcome hfiles h, Except.bind]

/-- If the files that paths stand for can be listed, so can those of the paths in another order: they are the same, in
another order. -/
theorem Config.exists_selectFiles_perm {recursive : Bool} {paths paths' files : List Path}
    (hfiles : (config.selectFiles tree recursive paths).outcome = .ok files) (h : paths'.Perm paths) :
    ∃ files', (config.selectFiles tree recursive paths').outcome = .ok files' ∧ files'.Perm files := by
  have hfound : (config.findingsAll tree recursive paths').Perm (config.findingsAll tree recursive paths) :=
    h.flatMap_right _
  obtain ⟨hgoes, rfl⟩ := Finding.lists_iff.mp hfiles
  refine ⟨_, Finding.lists_iff.mpr ⟨fun why hmem => ?_, rfl⟩, hfound.filterMap _⟩
  exact hgoes why (hfound.mem_iff.mp hmem)

/-- The failures of a run are those of its files in the order of their places. -/
theorem LintResult.isSortedForm_sorted (results : List LintResult) :
    IsSortedForm (results.flatMap LintResult.failures) (LintResult.gather results).sorted.failures := by
  rw [← LintResult.gather_failures]
  exact Failure.isSortedForm_mergeSort _

end Files

/-- A run that lists files each of which can be checked gathers what comes of them: their failures in order of their
places, their errors in the order of the files, and an account of every file. A file without a tree adds its report
and nothing else. In another order, the paths give the same failures; and the same list of them, if these are at
different places. -/
theorem lintPaths_gathers_files (registry : Registry) (config : Config) (tree : Entry) (recursive : Bool)
    (paths files : List Path) (hfiles : (config.selectFiles tree recursive paths).outcome = .ok files)
    (h : ∀ p ∈ files, (lintFile registry config tree p).Completes) :
    ∃ results r, Gives registry config tree files results ∧
      (lintPaths registry config tree recursive paths).outcome = .ok r ∧
      IsSortedForm (results.flatMap LintResult.failures) r.failures ∧
      r.errors = results.flatMap LintResult.errors ∧
      r.filesChecked + r.errors.countP (fun e => e.rule.isNone) + files.countP Path.lacksFrontend = files.length ∧
      (∀ before p after e, files = before ++ p :: after → FailsToLoad tree p e →
        ∃ first second, Gives registry config tree before first ∧ Gives registry config tree after second ∧
          IsSortedForm ((first ++ second).flatMap LintResult.failures) r.failures ∧
          r.errors = first.flatMap LintResult.errors ++ loadReport p.text e :: second.flatMap LintResult.errors ∧
          r.filesChecked = (LintResult.gather (first ++ second)).filesChecked) ∧
      ∀ paths' : List Path, paths'.Perm paths →
        ∃ r', (lintPaths registry config tree recursive paths').outcome = .ok r' ∧
          r'.failures.Perm r.failures ∧ ((r.failures.map Failure.place).Nodup → r'.failures = r.failures) := by
  obtain ⟨results, hresults⟩ := exists_gives h
  have hsorted := LintResult.isSortedForm_sorted results
  refine ⟨results, (LintResult.gather results).sorted, hresults, lintPaths_outcome hfiles hresults, hsorted,
    LintResult.gather_errors results, hresults.accounts, ?_, ?_⟩
  · intro before p after e hsplit hfails
    rw [hsplit] at hresults
    -- the results before and behind the file that could not be read are those without it
    obtain ⟨first, others, rfl, hfirst, hothers⟩ := gives_append_iff.mp hresults
    obtain ⟨one, second, rfl, hone, hsecond⟩ := gives_cons_iff.mp hothers
    rw [lintFile_outcome_of_failsToLoad hfails] at hone
    cases hone
    refine ⟨first, second, hfirst, hsecond, ?_, ?_, ?_⟩
    · simpa [LintResult.ofUnread] using hsorted
    · simp [LintResult.sorted, LintResult.gather_errors, LintResult.ofUnread]
    · simp [LintResult.sorted, LintResult.gather_append, LintResult.ofUnread]
  · intro paths' hpaths
    obtain ⟨files', hfiles', hperm⟩ := Config.exists_selectFiles_perm hfiles hpaths
    obtain ⟨results', hresults'⟩ := exists_gives fun p hp => h p (hperm.mem_iff.mp hp)
    have hsorted' := LintResult.isSortedForm_sorted results'
    have hfailures : (results'.flatMap LintResult.failures).Perm (results.flatMap LintResult.failures) :=
      (hresults.perm hresults' hperm).flatMap_right _
    -- other paths in another order give the same failures, and sorting brings them into one order if no two have one
    -- place
    have hsame := hsorted'.perm.trans (hfailures.trans hsorted.perm.symm)
    exact ⟨_, lintPaths_outcome hfiles' hresults', hsame, hsorted.eq_of_perm hsorted' hsame⟩

/-! ## A folder with files of every kind -/

/-- A program with a function, a file without a frontend, a program with a null character, a program that cannot be
opened, and a tree document. -/
def mixedFolder : Entry :=
  .folder [("d.py", .file (Utf8.encode "def f():\n  a\n  b\n".toList)), ("c.txt", .file (some [])),
    ("a.py", .file (some [0])), ("e.py", .file none),
    ("b.json", .file (Utf8.encode ("\x7b\"_type\": \"source_file\", \"text\": \"a\\nb\", \"root\": ".toList ++
      "\x7b\"kind\": \"constructor\", \"start\": 0, \"end\": 3, \"body\": \x7b\"start\": 0, \"end\": 3\x7d\x7d\x7d".toList)))]

/-- The paths to its files, in no order. -/
def mixedPaths : List Path :=
  ["d.py", "c.txt", "a.py", "e.py", "b.json"].map Path.ofText

/-- The configuration that lets no body have a second line. -/
def oneLineConfig : Config :=
  { Config.usual with rules := [(ruleName, [.int 0])] }

/-- Two of the files are checked, two are unread and one has no frontend. An unread one leaves its report only, and
the paths in the reverse order give the same failures. -/
theorem mixedFolder_gathered :
    (oneLineConfig.selectFiles mixedFolder false mixedPaths).outcome = .ok mixedPaths ∧
    (∀ p ∈ mixedPaths, (lintFile Registry.standard oneLineConfig mixedFolder p).Completes) ∧
    FailsToLoad mixedFolder (Path.ofText "a.py") (.parse ⟨"a.py", .nullCharacter⟩) ∧
    ∃ r r', (lintPaths Registry.standard oneLineConfig mixedFolder false mixedPaths).outcome = .ok r ∧
      r.filesChecked + r.errors.countP (fun e => e.rule.isNone) + 1 = 5 ∧
      loadReport "a.py" (.parse ⟨"a.py", .nullCharacter⟩) ∈ r.errors ∧
      (lintPaths Registry.standard oneLineConfig mixedFolder false mixedPaths.reverse).outcome = .ok r' ∧
      r'.failures.Perm r.failures := by
  have hfiles : (oneLineConfig.selectFiles mixedFolder false mixedPaths).outcome = .ok mixedPaths :=
    toOption_eq_some_iff.mp (by decide +kernel)
  have hcompletes : ∀ p ∈ mixedPaths, (lintFile Registry.standard oneLineConfig mixedFolder p).Completes := by
    decide +kernel
  have hsplit : mixedPaths = ["d.py", "c.txt"].map Path.ofText ++ Path.ofText "a.py" ::
      ["e.py", "b.json"].map Path.ofText := by decide +kernel
  have hcount : mixedPaths.countP Path.lacksFrontend = 1 := by decide +kernel
  have hfails : FailsToLoad mixedFolder (Path.ofText "a.py") (.parse ⟨"a.py", .nullCharacter⟩) :=
    ⟨.sourceCode, rfl, rfl⟩
  -- what the general statement says of these files, of the one that is no program, and of the other order
  obtain ⟨results, r, -, hrun, -, -, haccounts, hunread, horder⟩ :=
    lintPaths_gathers_files Registry.standard oneLineConfig mixedFolder false mixedPaths mixedPaths hfiles hcompletes
  obtain ⟨first, second, -, -, -, herrors, -⟩ := hunread _ _ _ _ hsplit hfails
  obtain ⟨r', hrun', hperm, -⟩ := horder _ mixedPaths.reverse_perm
  rw [hcount] at haccounts
  refine ⟨hfiles, hcompletes, hfails, r, r', hrun, haccounts, ?_, hrun', hperm⟩
  rw [herrors]
  exact List.mem_append_right _ List.mem_cons_self

end BodyLength
