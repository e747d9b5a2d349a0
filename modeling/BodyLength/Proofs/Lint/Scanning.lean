import BodyLength.Proofs.Files.Folders
import BodyLength.Proofs.Lint.Gathering
import BodyLength.Proofs.Tree.Acceptance
import Mathlib.Data.List.Sort

/-!
# Scanning a folder

The path of a folder stands for files in it. Which these are is said by the configuration, with one exception: of the
files that look like tree documents those that are not marked as one are passed over, although naming such a file would
give an error. Nothing else is lost by scanning, for all that the mark is looked for by one function and the document
read by another.

A document that ends the run does so in both ways, while it is told from others and while it is read. One that cannot be
opened counts as marked, so that both ways report it.

* `IsEligible`: which files of a folder a configuration asks for. `AreEligible` says in which order as well, so that
  there is one list of them, `Config.eligibleFiles`.
* `Path.IsUnmarkedDocument`, `Path.EndsScan`: the two kinds of eligible files that a scan does not select.
* `holdsTreeDocument_of_ofDocumentBytes`: what is read as a tree document is marked as one.
* `Config.selectFiles_folder_iff`: a scan selects the eligible files except for unmarked documents.
* `scan_agrees_with_files`: the results of a scan and of a run over the eligible files.
-/

namespace BodyLength

/-! ## Marked documents

The mark of a document is looked for in a value that is read of the whole file, and the document is read of the same
value. So a document that is read is marked, and where one of the two ends the run the other one does so too. There are
three kinds of files with the suffix of tree documents, then: those that pass a scan, those that are no marked
documents, and those that end it. -/

/-- What is read as a tree document is marked as one. -/
theorem holdsTreeDocument_of_ofDocumentBytes {filename : String} {bytes : List UInt8} {f : SourceFile}
    (h : SourceFile.ofDocumentBytes filename bytes = .ok f) : holdsTreeDocument bytes = .ok true := by
  obtain ⟨text, htext, h⟩ := bind_eq_ok_iff.mp h
  obtain ⟨j, hj, h⟩ := bind_eq_ok_iff.mp h
  rw [mapError_eq_ok_iff] at htext hj h
  simp only [holdsTreeDocument, htext, hj]
  unfold SourceFile.ofJson at h
  split at h
  · split at h
    · rename_i hmark
      rw [hmark]
    · cases h
  · cases h

/-- Reading a document ends the run exactly if looking for its mark does, and for the same reason. -/
theorem ofDocumentBytes_eq_abort_iff {filename : String} {bytes : List UInt8} {why : Abort} :
    SourceFile.ofDocumentBytes filename bytes = .error (.abort why) ↔ holdsTreeDocument bytes = .error why := by
  unfold SourceFile.ofDocumentBytes holdsTreeDocument
  cases hdecode : Utf8.decode bytes with
  | error e => simp [Except.mapError]
  | ok text =>
      simp only [Except.mapError, ok_bind]
      rw [SourceFile.ofDocument_eq_abort_iff]
      cases hread : Json.ofChars text with
      | error fault => cases fault <;> simp
      | ok j => simp

/-- Does a path have the suffix of tree documents, and lead to a file that is not marked as one? A file that cannot be
opened counts as marked. -/
def Path.IsUnmarkedDocument (tree : Entry) (p : Path) : Prop :=
  p.suffix = ".json" ∧ tree.countsAsTree p.text = .ok false

/-- Does a path have the suffix of tree documents, and lead to a file that ends the run when its mark is looked for? -/
def Path.EndsScan (tree : Entry) (p : Path) (why : Abort) : Prop :=
  p.suffix = ".json" ∧ tree.countsAsTree p.text = .error why

/-- If a path has the suffix of tree documents, does it lead to a file that counts as one? -/
def Path.PassesScan (tree : Entry) (p : Path) : Prop :=
  p.suffix = ".json" → tree.countsAsTree p.text = .ok true

/-- Does an error say that an unmarked document could not be read? -/
def ErrorReport.IsOfUnmarkedDocument (tree : Entry) (e : ErrorReport) : Prop :=
  e.rule = none ∧ (Path.ofText e.file).IsUnmarkedDocument tree

section Marks

variable {tree : Entry} {p : Path}

instance : DecidablePred (Path.IsUnmarkedDocument tree) := fun p =>
  decidable_of_iff (p.suffix = ".json" ∧ (tree.countsAsTree p.text).toOption = some false)
    (and_congr_right' toOption_eq_some_iff)

instance : DecidablePred (Path.PassesScan tree) := fun p =>
  decidable_of_iff (p.suffix = ".json" → (tree.countsAsTree p.text).toOption = some true)
    (imp_congr_right fun _ => toOption_eq_some_iff)

instance : DecidablePred (ErrorReport.IsOfUnmarkedDocument tree) :=
  fun _ => inferInstanceAs (Decidable (_ ∧ _))

/-- The suffix of tree documents is the one whose frontend reads them. -/
theorem ofSuffix?_eq_treeDocument_iff {suffix : String} :
    Frontend.ofSuffix? suffix = some .treeDocument ↔ suffix = ".json" := by
  unfold Frontend.ofSuffix?
  split
  · rename_i hsource
    simp [hsource]
  · split <;> simp [*]

/-- A file passes a scan, or it is an unmarked document, or it ends the scan. -/
theorem Path.passesScan_iff :
    p.PassesScan tree ↔ ¬ p.IsUnmarkedDocument tree ∧ ∀ why, ¬ p.EndsScan tree why := by
  unfold PassesScan IsUnmarkedDocument EndsScan
  cases tree.countsAsTree p.text with
  | error why => simp
  | ok counts => cases counts <;> simp

/-- What ends a scan can be opened. -/
theorem Path.EndsScan.exists_read {why : Abort} (h : p.EndsScan tree why) :
    ∃ bytes, tree.read p.text = .ok bytes ∧ holdsTreeDocument bytes = .error why := by
  obtain ⟨-, hcounts⟩ := h
  unfold Entry.countsAsTree countsAsTree at hcounts
  cases hread : tree.read p.text with
  | error e =>
      rw [hread] at hcounts
      cases hcounts
  | ok bytes =>
      rw [hread] at hcounts
      exact ⟨bytes, rfl, hcounts⟩

/-- So can an unmarked document. -/
theorem Path.IsUnmarkedDocument.exists_read (h : p.IsUnmarkedDocument tree) :
    ∃ bytes, tree.read p.text = .ok bytes ∧ holdsTreeDocument bytes = .ok false := by
  obtain ⟨-, hcounts⟩ := h
  unfold Entry.countsAsTree countsAsTree at hcounts
  cases hread : tree.read p.text with
  | error e =>
      rw [hread] at hcounts
      cases hcounts
  | ok bytes =>
      rw [hread] at hcounts
      exact ⟨bytes, rfl, hcounts⟩

/-- What ends a scan ends its own loading as well, when it is named. -/
theorem Path.EndsScan.endsLoading {why : Abort} (h : p.EndsScan tree why) : EndsLoading tree p why := by
  obtain ⟨bytes, hread, hmark⟩ := h.exists_read
  have hparse : SourceFile.ofDocumentBytes p.text bytes = .error (.abort why) :=
    ofDocumentBytes_eq_abort_iff.mpr hmark
  refine ⟨.treeDocument, ofSuffix?_eq_treeDocument_iff.mpr h.1, ?_⟩
  simp [Frontend.load, Frontend.parse, hread, hparse, Except.mapError, Fault.map]

/-- An unmarked document has no tree, because of what is in it. -/
theorem Path.IsUnmarkedDocument.exists_failsToLoad (h : p.IsUnmarkedDocument tree) :
    ∃ e, FailsToLoad tree p (.parse e) := by
  obtain ⟨bytes, hread, hmark⟩ := h.exists_read
  cases hparse : SourceFile.ofDocumentBytes p.text bytes with
  | ok f => cases hmark.symm.trans (holdsTreeDocument_of_ofDocumentBytes hparse)
  | error fault =>
      cases fault with
      | abort why => cases hmark.symm.trans (ofDocumentBytes_eq_abort_iff.mp hparse)
      | error e =>
          refine ⟨e, .treeDocument, ofSuffix?_eq_treeDocument_iff.mpr h.1, ?_⟩
          simp [Frontend.load, Frontend.parse, hread, hparse, Except.mapError, Fault.map]

end Marks

/-! ## Eligible files

Which files are eligible is said by the names that lead to them, with no regard to what is in the files. A folder that
is tidy has one list of them, each once and in the order of the names. -/

/-- Is a path that of a file in a folder, or right in it unless `recursive`, with one of the suffixes of a configuration
and none of its excluded names below the folder? -/
def IsEligible (config : Config) (folder : Path) (entries : List (String × Entry)) (recursive : Bool) (p : Path) :
    Prop :=
  ∃ names content, (Entry.folder entries).HoldsFile names content ∧ p = folder.along names ∧
    (recursive = true ∨ names.length = 1) ∧ p.suffix ∈ config.extensions ∧ ∀ name ∈ names, name ∉ config.excluded

/-- Are paths those of all files of a folder that a configuration asks for? And are they in the order of their names? -/
structure AreEligible (config : Config) (folder : Path) (entries : List (String × Entry)) (recursive : Bool)
    (files : List Path) : Prop where
  mem_iff : ∀ p, p ∈ files ↔ IsEligible config folder entries recursive p
  inOrder : files.Pairwise fun p q => p.names < q.names

/-- Is a file of a folder, which some names lead to, one that a configuration asks for? -/
def Config.isEligible (config : Config) (names : List String) : Bool :=
  config.extensions.contains (suffixOf (names.getLastD "")) && !config.excludes names

/-- The files of a folder that a configuration asks for. -/
def Config.eligibleFiles (config : Config) (folder : Path) (entries : List (String × Entry)) (recursive : Bool) :
    List Path :=
  ((Entry.listing entries recursive).filter fun f => config.isEligible f.1).map fun f => folder.along f.1

section Eligible

variable {config : Config} {folder : Path} {entries : List (String × Entry)} {recursive : Bool} {names : List String}

/-- The suffix of a path is that of its last name. -/
theorem Path.suffix_along (folder : Path) (hne : names ≠ []) :
    (folder.along names).suffix = suffixOf (names.getLastD "") := by
  simp [Path.suffix, Path.name, Path.along, List.getLastD_eq_getLast?, List.getLast?_append_of_ne_nil _ hne]

/-- A file is eligible exactly if it has one of the suffixes and none of its names within the folder is excluded. -/
theorem Config.isEligible_iff (hne : names ≠ []) : config.isEligible names = true ↔
    (folder.along names).suffix ∈ config.extensions ∧ ∀ name ∈ names, name ∉ config.excluded := by
  rw [Path.suffix_along folder hne]
  simp only [Config.isEligible, Config.excludes, Bool.and_eq_true, List.contains_iff_mem, Bool.not_eq_true',
    List.any_eq_false]
  exact and_congr_right' ⟨fun h name hmem hexcluded => h name hexcluded hmem, fun h name hexcluded hmem =>
    h name hmem hexcluded⟩

/-- The eligible files of a tidy folder, each once and in order. -/
theorem areEligible_eligibleFiles (config : Config) (folder : Path) (recursive : Bool)
    (htidy : (Entry.folder entries).IsTidy) :
    AreEligible config folder entries recursive (config.eligibleFiles folder entries recursive) := by
  constructor
  · intro p
    simp only [Config.eligibleFiles, List.mem_map, List.mem_filter, Prod.exists, Entry.mem_listing_iff, IsEligible]
    constructor
    · rintro ⟨names, content, ⟨⟨hholds, hdepth⟩, heligible⟩, rfl⟩
      exact ⟨names, content, hholds, rfl, hdepth, (Config.isEligible_iff hholds.ne_nil).mp heligible⟩
    · rintro ⟨names, content, hholds, rfl, hdepth, heligible⟩
      exact ⟨names, content, ⟨⟨hholds, hdepth⟩, (Config.isEligible_iff hholds.ne_nil).mpr heligible⟩, rfl⟩
  · rw [Config.eligibleFiles, List.pairwise_map]
    exact ((Entry.pairwise_listing htidy recursive).filter _).imp fun hlt => List.append_left_lt hlt

/-- An eligible file is found behind the path of the folder. -/
theorem AreEligible.exists_find {tree : Entry} {files : List Path}
    (h : AreEligible config folder entries recursive files) (hplain : folder.IsPlain)
    (hfolder : tree.find folder.text = .ok (.folder entries)) (htidy : (Entry.folder entries).IsTidy) :
    ∀ p ∈ files, p.IsPlain ∧ ∃ content, tree.find p.text = .ok (.file content) := by
  intro p hp
  obtain ⟨names, content, hholds, rfl, -⟩ := (h.mem_iff p).mp hp
  exact ⟨hplain.along (hholds.isName htidy), content, hholds.find_along hplain hfolder htidy⟩

/-- There is one list of the eligible files. -/
theorem AreEligible.eq_eligibleFiles {files : List Path} (h : AreEligible config folder entries recursive files)
    (htidy : (Entry.folder entries).IsTidy) : files = config.eligibleFiles folder entries recursive := by
  have h' := areEligible_eligibleFiles config folder recursive htidy
  have : Std.Irrefl fun p q : Path => p.names < q.names := ⟨fun p => lt_irrefl p.names⟩
  have : Std.Antisymm fun p q : Path => p.names < q.names := ⟨fun p q hpq hqp => absurd hqp (lt_asymm hpq)⟩
  exact List.Pairwise.eq_of_mem_iff h.inOrder h'.inOrder fun p => by rw [h.mem_iff, h'.mem_iff]

end Eligible

/-! ## What is selected

A scan goes through the listing of a folder and tells for each file whether it is eligible, and for each eligible file
what it is met as. The mark is looked for by the path of the file, which leads to the file because the folder is tidy.
Nothing that is selected depends on anything but the eligible files, so the two ways to select files can be compared.
-/

section Selecting

variable {config : Config} {tree : Entry} {folder p : Path} {entries : List (String × Entry)} {recursive : Bool}
  {files : List Path}

variable (config) in
/-- The files that are named stand for themselves. -/
theorem Config.selectFiles_files (h : ∀ p ∈ files, ∃ content, tree.find p.text = .ok (.file content))
    (recursive : Bool) : (config.selectFiles tree recursive files).outcome = .ok files := by
  show Finding.Lists (config.findingsAll tree recursive files) files
  induction files with
  | nil => exact Finding.lists_nil_iff.mpr rfl
  | cons p rest ih =>
      obtain ⟨⟨content, hfind⟩, hrest⟩ := List.forall_mem_cons.mp h
      have hfirst : config.findings tree recursive p = [.path p] := by rw [Config.findings, hfind]
      rw [Config.findingsAll, List.flatMap_cons, hfirst, List.singleton_append]
      exact Finding.lists_path_iff.mpr ⟨rest, rfl, ih hrest⟩

/-- The mark of a file is looked for where its path leads. -/
theorem Entry.countsAsTree_of_find {text : String} {content : Option (List UInt8)}
    (h : tree.find text = .ok (.file content)) :
    tree.countsAsTree text = BodyLength.countsAsTree (readContent content) := by
  rw [countsAsTree, read, h, ok_bind]

variable (tree) in
/-- What is met at an eligible file of a folder. -/
def Finding.ofEligible (p : Path) : Finding :=
  if p.suffix = ".json" then
    match tree.countsAsTree p.text with
    | .ok true => .path p
    | .ok false => .remark (.notTreeDocument p.text)
    | .error why => .abort why
  else .path p

namespace Finding

variable {q : Path}

/-- An eligible file is met itself if it passes the scan. -/
theorem ofEligible_eq_path_iff : ofEligible tree q = path p ↔ q = p ∧ q.PassesScan tree := by
  unfold ofEligible Path.PassesScan
  split
  · cases tree.countsAsTree q.text with
    | error why => simp [*]
    | ok counts => cases counts <;> simp [*]
  · simp [*]

/-- There is a remark instead if it is an unmarked document. -/
theorem ofEligible_eq_remark_iff {n : Notice} :
    ofEligible tree q = remark n ↔ .notTreeDocument q.text = n ∧ q.IsUnmarkedDocument tree := by
  unfold ofEligible Path.IsUnmarkedDocument
  split
  · cases tree.countsAsTree q.text with
    | error why => simp [*]
    | ok counts => cases counts <;> simp [*]
  · simp [*]

/-- And the run ends there if the mark cannot be looked for. -/
theorem ofEligible_eq_abort_iff {why : Abort} : ofEligible tree q = abort why ↔ q.EndsScan tree why := by
  unfold ofEligible Path.EndsScan
  split
  · cases tree.countsAsTree q.text with
    | error why => simp [*]
    | ok counts => cases counts <;> simp [*]
  · simp [*]

/-- The paths that are met at eligible files are those of the files that pass the scan. -/
theorem filterMap_path?_ofEligible (files : List Path) :
    (files.map (ofEligible tree)).filterMap path? = files.filter fun p => p.PassesScan tree := by
  rw [List.filterMap_map, ← List.filterMap_eq_filter]
  refine List.filterMap_congr fun p _ => ?_
  rw [Function.comp_apply]
  by_cases hpasses : p.PassesScan tree
  · rw [ofEligible_eq_path_iff.mpr ⟨rfl, hpasses⟩]
    simp [path?, Option.guard, hpasses]
  · have hpath : ∀ q, ofEligible tree p ≠ path q := fun q heq => hpasses (ofEligible_eq_path_iff.mp heq).2
    cases hfound : ofEligible tree p with
    | path q => exact absurd hfound (hpath q)
    | remark n => simp [path?, Option.guard, hpasses]
    | abort why => simp [path?, Option.guard, hpasses]

end Finding

/-- What is met at a file of a folder is told by its path: nothing unless it is eligible. -/
theorem Config.finding_eq {names : List String} {content : Option (List UInt8)} (hne : names ≠ [])
    (h : tree.find (folder.along names).text = .ok (.file content)) :
    config.finding folder names content =
      if config.isEligible names = true then some (Finding.ofEligible tree (folder.along names)) else none := by
  have hdocument : (Frontend.ofSuffix? (suffixOf (names.getLastD "")) == some .treeDocument) =
      decide ((folder.along names).suffix = ".json") := by
    rw [Bool.eq_iff_iff, decide_eq_true_iff, beq_iff_eq, ofSuffix?_eq_treeDocument_iff, Path.suffix_along folder hne]
  simp only [Config.finding, Config.select, Config.isEligible, Finding.ofEligible, hdocument,
    Entry.countsAsTree_of_find h]
  -- the three questions in the order in which they are asked: the suffix, the excluded names, the mark of a document
  cases hlisted : config.extensions.contains (suffixOf (names.getLastD "")) with
  | false => simp
  | true =>
      cases hexcluded : config.excludes names with
      | true => simp
      | false =>
          by_cases hsuffix : (folder.along names).suffix = ".json"
          · cases countsAsTree (Entry.readContent content) with
            | error why => simp [hsuffix, Except.map]
            | ok counts => cases counts <;> simp [hsuffix, Except.map]
          · simp [hsuffix]

variable (config) in
/-- At the path of a folder its eligible files are met, each as what it is. -/
theorem Config.findings_folder (hplain : folder.IsPlain) (hfolder : tree.find folder.text = .ok (.folder entries))
    (htidy : (Entry.folder entries).IsTidy) (recursive : Bool) :
    config.findings tree recursive folder =
      (config.eligibleFiles folder entries recursive).map (Finding.ofEligible tree) := by
  have hfile (f : List String × Option (List UInt8)) (hf : f ∈ Entry.listing entries recursive) :
      config.finding folder f.1 f.2 =
        if config.isEligible f.1 = true then some (Finding.ofEligible tree (folder.along f.1)) else none := by
    have hholds := (Entry.mem_listing_iff.mp hf).1
    exact config.finding_eq hholds.ne_nil (hholds.find_along hplain hfolder htidy)
  simp only [Config.findings, hfolder]
  rw [List.filterMap_congr hfile, Config.eligibleFiles, List.map_map, ← List.filterMap_eq_filter, List.map_filterMap]
  refine List.filterMap_congr fun f _ => ?_
  by_cases heligible : config.isEligible f.1 = true <;> simp [Option.guard, heligible]

variable (config) in
/-- A scan of a folder selects the eligible files except for unmarked documents, unless one of them ends it. -/
theorem Config.selectFiles_folder_iff (hplain : folder.IsPlain) (hfolder : tree.find folder.text = .ok (.folder entries))
    (htidy : (Entry.folder entries).IsTidy) :
    (config.selectFiles tree recursive [folder]).outcome = .ok files ↔
      (∀ p ∈ config.eligibleFiles folder entries recursive, ∀ why, ¬ p.EndsScan tree why) ∧
        (config.eligibleFiles folder entries recursive).filter (fun p => ¬ p.IsUnmarkedDocument tree) = files := by
  have hfound : config.findingsAll tree recursive [folder] =
      (config.eligibleFiles folder entries recursive).map (Finding.ofEligible tree) := by
    rw [Config.findingsAll, List.flatMap_singleton, config.findings_folder hplain hfolder htidy]
  -- the scan ends early exactly if one of the eligible files ends it
  have hends : (∀ why, Finding.abort why ∉ config.findingsAll tree recursive [folder]) ↔
      ∀ p ∈ config.eligibleFiles folder entries recursive, ∀ why, ¬ p.EndsScan tree why := by
    simp only [hfound, List.mem_map, Finding.ofEligible_eq_abort_iff, not_exists, not_and]
    exact ⟨fun h p hp why => h why p hp, fun h why p hp => h p hp why⟩
  refine Finding.lists_iff.trans ?_
  rw [hends]
  refine and_congr_right fun hgoes => ?_
  rw [hfound, Finding.filterMap_path?_ofEligible]
  -- where nothing ends the scan, a file that does not pass it is an unmarked document
  have hsame : (config.eligibleFiles folder entries recursive).filter (fun p => p.PassesScan tree) =
      (config.eligibleFiles folder entries recursive).filter fun p => ¬ p.IsUnmarkedDocument tree := by
    refine List.filter_congr fun p hp => ?_
    rw [decide_eq_decide, Path.passesScan_iff]
    exact and_iff_left (hgoes p hp)
  rw [hsame]

end Selecting

/-! ## What the results are

A run over the eligible files meets the unmarked documents, too. Each of them adds one error and nothing else, and no
other file adds such an error. So leaving these documents out takes just these errors away, and it makes no difference
to whether the run goes through. -/

section Results

variable {registry : Registry} {config : Config} {tree : Entry} {p : Path}

/-- An unmarked document adds no more than an error that says so. -/
theorem lintFile_outcome_of_isUnmarkedDocument (hplain : p.IsPlain) (h : p.IsUnmarkedDocument tree) :
    ∃ e, (lintFile registry config tree p).outcome = .ok (.ofUnread e) ∧ e.IsOfUnmarkedDocument tree := by
  obtain ⟨e, hfails⟩ := h.exists_failsToLoad
  refine ⟨_, lintFile_outcome_of_failsToLoad hfails, rfl, ?_⟩
  show (Path.ofText p.text).IsUnmarkedDocument tree
  rwa [hplain.ofText_text]

/-- No other file adds such an error. -/
theorem not_isOfUnmarkedDocument_of_mem (hplain : p.IsPlain) (h : ¬ p.IsUnmarkedDocument tree) {r : LintResult}
    (hr : (lintFile registry config tree p).outcome = .ok r) : ∀ e ∈ r.errors, ¬ e.IsOfUnmarkedDocument tree := by
  rintro e he ⟨hrule, hfile⟩
  rcases lacksFrontend_or_loads tree p with hlacks | ⟨file, htree⟩ | ⟨cause, hfails⟩ | ⟨why, hends⟩
  · rw [lintFile_outcome_of_lacksFrontend hlacks] at hr
    cases hr
    cases he
  · -- errors of rules name their rule
    rw [lintFile_outcome_of_hasTree htree] at hr
    have hunread := (lintSourceFile_accounts hr).2
    rw [LintResult.unread, List.countP_eq_zero] at hunread
    exact hunread e he (by simp [hrule])
  · -- the one error is about the file itself, which is no unmarked document
    rw [lintFile_outcome_of_failsToLoad hfails] at hr
    cases hr
    cases List.mem_singleton.mp he
    apply h
    rw [← hplain.ofText_text]
    exact hfile
  · rw [lintFile_outcome_of_endsLoading hends] at hr
    cases hr

/-- What ends a scan cannot be checked, and unmarked documents can. So files can all be checked exactly if none of them
ends a scan and those that are no unmarked documents can be checked. -/
theorem forall_completes_iff {files : List Path} (hplain : ∀ p ∈ files, p.IsPlain) :
    (∀ p ∈ files, (lintFile registry config tree p).Completes) ↔
      (∀ p ∈ files, ∀ why, ¬ p.EndsScan tree why) ∧
        ∀ p ∈ files.filter (fun p => ¬ p.IsUnmarkedDocument tree), (lintFile registry config tree p).Completes := by
  constructor
  · intro hall
    refine ⟨fun p hp why hends => ?_, fun p hp => hall p (List.mem_of_mem_filter hp)⟩
    exact (completes_lintFile_iff.mp (hall p hp)).1 why hends.endsLoading
  · rintro ⟨-, hall⟩ p hp
    by_cases hunmarked : p.IsUnmarkedDocument tree
    · obtain ⟨e, houtcome, -⟩ := lintFile_outcome_of_isUnmarkedDocument (hplain p hp) hunmarked
      exact ⟨_, houtcome⟩
    · apply hall p
      exact List.mem_filter.mpr ⟨hp, decide_eq_true hunmarked⟩

/-- Without the unmarked documents, files give the same results except for the errors about these. -/
theorem Gives.filter_not_isUnmarkedDocument {files : List Path} (hplain : ∀ p ∈ files, p.IsPlain)
    {results : List LintResult} (h : Gives registry config tree files results) :
    ∃ results', Gives registry config tree (files.filter fun p => ¬ p.IsUnmarkedDocument tree) results' ∧
      (LintResult.gather results').failures = (LintResult.gather results).failures ∧
      (LintResult.gather results').filesChecked = (LintResult.gather results).filesChecked ∧
      (LintResult.gather results').errors =
        (LintResult.gather results).errors.filter fun e => ¬ e.IsOfUnmarkedDocument tree := by
  induction files generalizing results with
  | nil =>
      cases List.map_eq_nil_iff.mp h.symm
      exact ⟨[], rfl, rfl, rfl, rfl⟩
  | cons p files ih =>
      obtain ⟨first, rest, rfl, hfirst, hrest⟩ := gives_cons_iff.mp h
      obtain ⟨hp, hfiles⟩ := List.forall_mem_cons.mp hplain
      obtain ⟨results', hresults', hfailures, hchecked, herrors⟩ := ih hfiles hrest
      by_cases hunmarked : p.IsUnmarkedDocument tree
      · -- an unmarked document gives one error of its kind and nothing else, so leaving it out leaves this error out
        obtain ⟨e, houtcome, he⟩ := lintFile_outcome_of_isUnmarkedDocument hp hunmarked
        rw [hfirst] at houtcome
        cases houtcome
        refine ⟨results', ?_, ?_, ?_, ?_⟩
        · rwa [List.filter_cons_of_neg (by simpa using hunmarked)]
        · simp [hfailures, LintResult.merge, LintResult.ofUnread]
        · simp [hchecked, LintResult.ofUnread]
        · simp [herrors, LintResult.merge, LintResult.ofUnread, he]
      · -- every other file has no error of that kind, so all its errors stay
        have hkept : (first.errors.filter fun e => ¬ e.IsOfUnmarkedDocument tree) = first.errors := by
          rw [List.filter_eq_self]
          intro e he
          simpa using not_isOfUnmarkedDocument_of_mem hp hunmarked hfirst e he
        refine ⟨first :: results', ?_, ?_, ?_, ?_⟩
        · rw [List.filter_cons_of_pos (by simpa using hunmarked)]
          exact gives_cons_iff.mpr ⟨first, results', rfl, hfirst, hresults'⟩
        · simp [hfailures, LintResult.merge]
        · simp [hchecked]
        · simp only [LintResult.gather_cons, LintResult.merge, List.filter_append, hkept, herrors]

end Results

/-- Scanning a folder loses nothing against naming its files. A run over the folder and a run over its eligible files,
of which there is one list, both go through or neither does. If they do, they give the same failures and the same number
of files checked, and the same errors but for those that say that an unmarked document could not be read. And no
document that could be read is unmarked. -/
theorem scan_agrees_with_files (registry : Registry) (config : Config) (tree : Entry) (recursive : Bool)
    (folder : String) (entries : List (String × Entry))
    (hfolder : tree.find (Path.ofText folder).text = .ok (.folder entries))
    (htidy : (Entry.folder entries).IsTidy) :
    (∃! files, AreEligible config (Path.ofText folder) entries recursive files) ∧
    (∀ files, AreEligible config (Path.ofText folder) entries recursive files → ∀ recursive' : Bool,
      ((lintPaths registry config tree recursive [Path.ofText folder]).Completes ↔
        (lintPaths registry config tree recursive' files).Completes) ∧
      ∀ r r', (lintPaths registry config tree recursive [Path.ofText folder]).outcome = .ok r →
        (lintPaths registry config tree recursive' files).outcome = .ok r' →
          r.failures = r'.failures ∧ r.filesChecked = r'.filesChecked ∧
          r.errors = r'.errors.filter fun e => ¬ e.IsOfUnmarkedDocument tree) ∧
    ∀ filename bytes f, SourceFile.ofDocumentBytes filename bytes = .ok f → holdsTreeDocument bytes = .ok true := by
  have hplain := Path.isPlain_ofText folder
  have heligible := areEligible_eligibleFiles config (Path.ofText folder) recursive htidy
  refine ⟨⟨_, heligible, fun files hfiles => hfiles.eq_eligibleFiles htidy⟩, ?_,
    fun _ _ _ => holdsTreeDocument_of_ofDocumentBytes⟩
  intro files hfiles recursive'
  have hscan (selected : List Path) :
      (config.selectFiles tree recursive [Path.ofText folder]).outcome = .ok selected ↔ _ :=
    config.selectFiles_folder_iff hplain hfolder htidy
  rw [← hfiles.eq_eligibleFiles htidy] at hscan
  have hfound := hfiles.exists_find hplain hfolder htidy
  have hplainFiles : ∀ p ∈ files, p.IsPlain := fun p hp => (hfound p hp).1
  have hnamed := config.selectFiles_files (fun p hp => (hfound p hp).2) recursive'
  -- a run over the files goes through if they can all be checked
  have hfilesRun : (lintPaths registry config tree recursive' files).Completes ↔
      ∀ p ∈ files, (lintFile registry config tree p).Completes := by
    rw [completes_lintPaths_iff, hnamed]
    exact ⟨fun ⟨_, heq, hall⟩ => Except.ok.inj heq ▸ hall, fun hall => ⟨files, rfl, hall⟩⟩
  constructor
  · rw [hfilesRun, completes_lintPaths_iff, forall_completes_iff hplainFiles]
    constructor
    · rintro ⟨selected, hselected, hall⟩
      obtain ⟨hgoes, rfl⟩ := (hscan selected).mp hselected
      exact ⟨hgoes, hall⟩
    · rintro ⟨hgoes, hall⟩
      exact ⟨_, (hscan _).mpr ⟨hgoes, rfl⟩, hall⟩
  · intro r r' hr hr'
    have hcompletes := hfilesRun.mp ⟨r', hr'⟩
    obtain ⟨results, hresults⟩ := exists_gives hcompletes
    obtain ⟨results', hresults', hfailures, hchecked, herrors⟩ :=
      hresults.filter_not_isUnmarkedDocument hplainFiles
    have hselected := (hscan _).mpr ⟨((forall_completes_iff hplainFiles).mp hcompletes).1, rfl⟩
    -- both runs give the results of what they select
    rw [lintPaths_outcome hnamed hresults] at hr'
    rw [lintPaths_outcome hselected hresults'] at hr
    cases hr
    cases hr'
    simp only [LintResult.sorted, hfailures, hchecked, herrors, true_and]

/-! ## A folder with documents of both kinds -/

/-- A program in a folder that is usually excluded, a program with a null character, a program in a folder below, a
document that cannot be opened, a file without a frontend, a document that is not marked, and a document with a
function. -/
def scannedEntries : List (String × Entry) :=
  [("build", .folder [("e.py", .file (some [0]))]), ("c.py", .file (some [0])),
    ("lib", .folder [("d.py", .file (Utf8.encode "def f():\n  a\n  b\n".toList))]), ("locked.json", .file none),
    ("notes.txt", .file (some [])), ("package.json", .file (Utf8.encode "\x7b\x7d".toList)),
    ("z.json", .file (Utf8.encode ("\x7b\"_type\": \"source_file\", \"text\": \"a\\nb\", \"root\": ".toList ++
      "\x7b\"kind\": \"constructor\", \"start\": 0, \"end\": 3, ".toList ++
      "\"body\": \x7b\"start\": 0, \"end\": 3\x7d\x7d\x7d".toList)))]

/-- The paths of those that are eligible. -/
def scannedPaths : List Path :=
  ["src/c.py", "src/lib/d.py", "src/locked.json", "src/package.json", "src/z.json"].map Path.ofText

/-- Five files of the folder are eligible, and one of them is an unmarked document. -/
theorem scannedEntries_agree :
    (Entry.folder [("src", .folder scannedEntries)]).find (Path.ofText "src").text = .ok (.folder scannedEntries) ∧
    (Entry.folder scannedEntries).IsTidy ∧
    AreEligible oneLineConfig (Path.ofText "src") scannedEntries true scannedPaths ∧
    (Path.ofText "src/package.json").IsUnmarkedDocument (.folder [("src", .folder scannedEntries)]) ∧
    ¬ (Path.ofText "src/locked.json").IsUnmarkedDocument (.folder [("src", .folder scannedEntries)]) ∧
    ¬ (Path.ofText "src/z.json").IsUnmarkedDocument (.folder [("src", .folder scannedEntries)]) ∧
    ∃ r r', (lintPaths Registry.standard oneLineConfig (.folder [("src", .folder scannedEntries)]) true
        [Path.ofText "src"]).outcome = .ok r ∧
      (lintPaths Registry.standard oneLineConfig (.folder [("src", .folder scannedEntries)]) true
        scannedPaths).outcome = .ok r' ∧
      r.failures = r'.failures ∧ r.filesChecked = r'.filesChecked ∧
      r.errors = r'.errors.filter fun e =>
        ¬ e.IsOfUnmarkedDocument (.folder [("src", .folder scannedEntries)]) := by
  have hfolder : (Entry.folder [("src", .folder scannedEntries)]).find (Path.ofText "src").text =
      .ok (.folder scannedEntries) := rfl
  have htidy : (Entry.folder scannedEntries).IsTidy := by
    simp [scannedEntries, Entry.IsTidy, Entry.AreTidy, Path.IsName]
  -- the entries are given in their order, so that sorting them does nothing
  have hlisting : Entry.listing scannedEntries true = Entry.filesBelowAll scannedEntries :=
    List.mergeSort_of_pairwise (by decide +kernel)
  have hfiles : oneLineConfig.eligibleFiles (Path.ofText "src") scannedEntries true = scannedPaths := by
    rw [Config.eligibleFiles, hlisting]
    decide +kernel
  have heligible := areEligible_eligibleFiles oneLineConfig (Path.ofText "src") true htidy
  rw [hfiles] at heligible
  have hcompletes : (lintPaths Registry.standard oneLineConfig (.folder [("src", .folder scannedEntries)]) true
      scannedPaths).Completes := by decide +kernel
  obtain ⟨-, hagree, -⟩ := scan_agrees_with_files Registry.standard oneLineConfig
    (.folder [("src", .folder scannedEntries)]) true "src" scannedEntries hfolder htidy
  obtain ⟨hboth, hsame⟩ := hagree _ heligible true
  obtain ⟨r, hr⟩ := hboth.mpr hcompletes
  obtain ⟨r', hr'⟩ := hcompletes
  obtain ⟨hfailures, hchecked, herrors⟩ := hsame r r' hr hr'
  exact ⟨hfolder, htidy, heligible, by decide +kernel, by decide +kernel, by decide +kernel, r, r', hr, hr', hfailures,
    hchecked, herrors⟩

end BodyLength
