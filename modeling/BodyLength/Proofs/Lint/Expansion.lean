import BodyLength.Proofs.Lint.Scanning

/-!
# What paths stand for

A run is given paths and checks files. Each path stands for files of its own, whatever the others are: the path of a
file for this file, and the path of a folder for the files in it that the configuration asks for and that are no
unmarked documents. Excluded are names below the folder, so that a folder of which the own name is excluded can be
scanned all the same. A path to neither stands for nothing and is remarked on.

There is one thing that keeps a folder from being scanned to its end. The mark of a document is looked for by reading
all of it, and a document with too many digits in a row may end the run, whether it is a tree document or not.

* `IsScanOf`: which files a folder stands for, and in which order.
* `IsExpansion`: what is met at a path, in each of the three cases.
* `Config.isExpansion_findings_iff`: what is met at a path is that, unless a document of a folder ends the scan.
* `paths_are_expanded_iff`: what is met at paths is what is met at each of them, one after the other.
-/

namespace BodyLength

/-! ## What paths should stand for

What is met at a path is a list of files and remarks, and perhaps something that ends the run. It is said here without
the program: for a folder by its files, with their order, and for the other two cases in full. So what is met at a path
is known but for the remarks about unmarked documents, which may be anywhere between the files. -/

/-- Is what is met at the path of a folder the files in it that a configuration asks for and that pass the scan? And are
they met in the order of their names, with no remarks but about unmarked documents, and nothing that ends the run? -/
structure IsScanOf (config : Config) (tree : Entry) (folder : Path) (entries : List (String × Entry))
    (recursive : Bool) (found : List Finding) : Prop where
  mem_iff : ∀ p, .path p ∈ found ↔ IsEligible config folder entries recursive p ∧ p.PassesScan tree
  inOrder : (found.filterMap Finding.path?).Pairwise fun p q => p.parts < q.parts
  isFile : ∀ p, .path p ∈ found → ∃ content, tree.find p.text = .ok (.file content)
  remarks : ∀ n, .remark n ∈ found → ∃ p : Path, p.IsUnmarkedDocument tree ∧ n = .notTreeDocument p.text
  goesOn : ∀ why, .abort why ∉ found

/-- Is something what is met at a path? -/
inductive IsExpansion (config : Config) (tree : Entry) (recursive : Bool) (p : Path) : List Finding → Prop where
  /-- A file is met as it is, whatever it is called, wherever it is and whatever is in it. -/
  | file {content : Option (List UInt8)} : tree.find p.text = .ok (.file content) →
      IsExpansion config tree recursive p [.path p]
  | folder {entries : List (String × Entry)} {found : List Finding} :
      tree.find p.text = .ok (.folder entries) → IsScanOf config tree p entries recursive found →
      IsExpansion config tree recursive p found
  /-- Where there is neither, a warning is all. -/
  | neither {e : FileError} {n : Notice} : tree.find p.text = .error e → n = .pathNotFound p.text →
      n.severity = .warning → IsExpansion config tree recursive p [.remark n]

/-- If a path is that of a folder, is there no file that a scan of it has to look at and that ends the run? -/
def Path.IsScannable (config : Config) (tree : Entry) (recursive : Bool) (p : Path) : Prop :=
  ∀ entries, tree.find p.text = .ok (.folder entries) → ∀ q, IsEligible config p entries recursive q →
    ∀ why, ¬ q.EndsScan tree why

/-! ## What is met

The program lists a folder, and the files of the listing that it asks for are the eligible ones. Each of them is met as
what it is. What may go wrong is one thing, a file whose mark cannot be looked for, and this can happen in a folder
only. -/

section Expanding

variable {config : Config} {tree : Entry} {folder p : Path} {entries : List (String × Entry)} {recursive : Bool}
  {found : List Finding}

/-- A path is met exactly if it is among the paths of what is met. -/
theorem Finding.mem_filterMap_path?_iff : p ∈ found.filterMap path? ↔ path p ∈ found := by
  rw [List.mem_filterMap]
  constructor
  · rintro ⟨finding, hmem, heq⟩
    cases finding with
    | path q =>
        cases heq
        exact hmem
    | remark n => cases heq
    | abort why => cases heq
  · exact fun h => ⟨path p, h, rfl⟩

/-- Paths with the same root are in the order of their names. -/
theorem Path.parts_lt_parts_iff {q : Path} (hroot : p.root = q.root) : p.parts < q.parts ↔ p.names < q.names := by
  by_cases hempty : q.root.isEmpty = true
  · simp [parts, hroot, hempty]
  · simp [parts, hroot, hempty]

/-- Eligible files, each met as what it is, are a scan if none of them ends it. -/
theorem AreEligible.isScanOf {files : List Path} (h : AreEligible config folder entries recursive files)
    (hplain : folder.IsPlain) (hfolder : tree.find folder.text = .ok (.folder entries))
    (htidy : (Entry.folder entries).IsTidy) (hgoes : ∀ p ∈ files, ∀ why, ¬ p.EndsScan tree why) :
    IsScanOf config tree folder entries recursive (files.map (Finding.ofEligible tree)) := by
  -- a path is found exactly if it is eligible and passes
  have hmem (p : Path) : .path p ∈ files.map (Finding.ofEligible tree) ↔ p ∈ files ∧ p.PassesScan tree := by
    simp only [List.mem_map, Finding.ofEligible_eq_path_iff]
    constructor
    · rintro ⟨q, hq, rfl, hpasses⟩
      exact ⟨hq, hpasses⟩
    · rintro ⟨hp, hpasses⟩
      exact ⟨p, hp, rfl, hpasses⟩
  constructor
  · intro p
    rw [hmem, h.mem_iff]
  · -- all eligible files are below the folder, so their parts are in the order of their names
    have hroot : ∀ p ∈ files, p.root = folder.root := by
      intro p hp
      obtain ⟨names, -, -, rfl, -⟩ := (h.mem_iff p).mp hp
      rfl
    rw [Finding.filterMap_path?_ofEligible]
    refine (h.inOrder.imp_of_mem fun hp hq hlt => ?_).filter _
    exact (Path.parts_lt_parts_iff ((hroot _ hp).trans (hroot _ hq).symm)).mpr hlt
  · intro p hp
    exact (h.exists_find hplain hfolder htidy p ((hmem p).mp hp).1).2
  · intro n hn
    obtain ⟨p, -, hp⟩ := List.mem_map.mp hn
    obtain ⟨rfl, hmark⟩ := Finding.ofEligible_eq_remark_iff.mp hp
    exact ⟨p, hmark, rfl⟩
  · intro why hwhy
    obtain ⟨p, hp, hends⟩ := List.mem_map.mp hwhy
    exact hgoes p hp why (Finding.ofEligible_eq_abort_iff.mp hends)

/-- There is one list of the files of a scan. -/
theorem IsScanOf.eq_of_isScanOf {found' : List Finding} (h : IsScanOf config tree folder entries recursive found)
    (h' : IsScanOf config tree folder entries recursive found') :
    found.filterMap Finding.path? = found'.filterMap Finding.path? := by
  have : Std.Irrefl fun p q : Path => p.parts < q.parts := ⟨fun p => lt_irrefl p.parts⟩
  have : Std.Antisymm fun p q : Path => p.parts < q.parts := ⟨fun p q hpq hqp => absurd hqp (lt_asymm hpq)⟩
  refine List.Pairwise.eq_of_mem_iff h.inOrder h'.inOrder fun p => ?_
  rw [Finding.mem_filterMap_path?_iff, Finding.mem_filterMap_path?_iff, h.mem_iff, h'.mem_iff]

/-- Nothing that is met as it should be ends the run. -/
theorem IsExpansion.abort_not_mem (h : IsExpansion config tree recursive p found) (why : Abort) :
    .abort why ∉ found := by
  cases h with
  | file _ => simp
  | folder _ hscan => exact hscan.goesOn why
  | neither _ _ _ => simp

/-- What ends the run at a path is a file of a folder that cannot be told from tree documents. -/
theorem Config.abort_mem_findings_iff (config : Config) (hplain : p.IsPlain) (recursive : Bool)
    (htidy : ∀ entries, tree.find p.text = .ok (.folder entries) → (Entry.folder entries).IsTidy) {why : Abort} :
    .abort why ∈ config.findings tree recursive p ↔ ∃ entries, tree.find p.text = .ok (.folder entries) ∧
      ∃ q, IsEligible config p entries recursive q ∧ q.EndsScan tree why := by
  cases hfind : tree.find p.text with
  | error e => simp [findings, hfind]
  | ok e =>
      cases e with
      | file content => simp [findings, hfind]
      | folder entries =>
          have heligible := areEligible_eligibleFiles config p recursive (htidy entries hfind)
          rw [config.findings_folder hplain hfind (htidy entries hfind)]
          simp [Finding.ofEligible_eq_abort_iff, heligible.mem_iff]

/-- Nothing that is met at a path ends the run exactly if the path can be scanned. -/
theorem Config.abort_not_mem_findings_iff (config : Config) (hplain : p.IsPlain) (recursive : Bool)
    (htidy : ∀ entries, tree.find p.text = .ok (.folder entries) → (Entry.folder entries).IsTidy) :
    (∀ why, .abort why ∉ config.findings tree recursive p) ↔ p.IsScannable config tree recursive := by
  constructor
  · intro h entries hfind q heligible why hends
    exact h why ((config.abort_mem_findings_iff hplain recursive htidy).mpr ⟨entries, hfind, q, heligible, hends⟩)
  · intro h why hmem
    obtain ⟨entries, hfind, q, heligible, hends⟩ := (config.abort_mem_findings_iff hplain recursive htidy).mp hmem
    exact h entries hfind q heligible why hends

/-- What is met at a path is the file, a scan of the folder, or a warning, exactly if the path can be scanned. -/
theorem Config.isExpansion_findings_iff (config : Config) (hplain : p.IsPlain) (recursive : Bool)
    (htidy : ∀ entries, tree.find p.text = .ok (.folder entries) → (Entry.folder entries).IsTidy) :
    IsExpansion config tree recursive p (config.findings tree recursive p) ↔ p.IsScannable config tree recursive := by
  constructor
  · intro h
    exact (config.abort_not_mem_findings_iff hplain recursive htidy).mp h.abort_not_mem
  intro hscannable
  -- nothing is there, or a file, or a folder; only the last is scanned
  cases hfind : tree.find p.text with
  | error e =>
      have hfound : config.findings tree recursive p = [.remark (.pathNotFound p.text)] := by rw [findings, hfind]
      rw [hfound]
      exact .neither hfind rfl rfl
  | ok e =>
      cases e with
      | file content =>
          have hfound : config.findings tree recursive p = [.path p] := by rw [findings, hfind]
          rw [hfound]
          exact .file hfind
      | folder entries =>
          have heligible := areEligible_eligibleFiles config p recursive (htidy entries hfind)
          rw [config.findings_folder hplain hfind (htidy entries hfind)]
          refine .folder hfind (heligible.isScanOf hplain hfind (htidy entries hfind) fun q hq => ?_)
          exact hscannable entries hfind q ((heligible.mem_iff q).mp hq)

section Cases

variable (h : IsExpansion config tree recursive p found)
include h

/-- A file stands for itself. -/
theorem IsExpansion.eq_of_file {content : Option (List UInt8)} (hfind : tree.find p.text = .ok (.file content)) :
    found = [.path p] := by
  cases h with
  | file => rfl
  | folder hfolder => cases hfind.symm.trans hfolder
  | neither herror => cases hfind.symm.trans herror

/-- A folder stands for what a scan of it finds. -/
theorem IsExpansion.isScanOf (hfind : tree.find p.text = .ok (.folder entries)) :
    IsScanOf config tree p entries recursive found := by
  cases h with
  | file hfile => cases hfind.symm.trans hfile
  | folder hfolder hscan =>
      cases hfind.symm.trans hfolder
      exact hscan
  | neither herror => cases hfind.symm.trans herror

/-- What is not there stands for a remark. -/
theorem IsExpansion.eq_of_error {e : FileError} (hfind : tree.find p.text = .error e) :
    found = [.remark (.pathNotFound p.text)] := by
  cases h with
  | file hfile => cases hfind.symm.trans hfile
  | folder hfolder => cases hfind.symm.trans hfolder
  | neither _ hnotice => rw [hnotice]

end Cases

/-- What ends a scan is a document with too many digits in a row. -/
theorem Path.EndsScan.exists_digits {why : Abort} (h : p.EndsScan tree why) :
    ∃ text, tree.read p.text = .ok (Utf8.encode text) ∧ Json.EndsForDigits text why := by
  obtain ⟨bytes, hread, hmark⟩ := h.exists_read
  unfold holdsTreeDocument at hmark
  cases hdecode : Utf8.decode bytes with
  | error e =>
      rw [hdecode] at hmark
      cases hmark
  | ok text =>
      obtain rfl := Utf8.decode_eq_ok_iff.mp hdecode
      refine ⟨text, hread, Json.exists_digits_of_ofChars ?_⟩
      -- bytes that are no text, and a text that is no value, are no document; only reading that ends the run is left
      cases hjson : Json.ofChars text with
      | ok j => simp [hdecode, hjson] at hmark
      | error fault =>
          cases fault with
          | error e => simp [hdecode, hjson] at hmark
          | abort why' =>
              simp only [hdecode, hjson] at hmark
              cases hmark
              rfl

end Expanding

/-- A tree with a folder whose own name is one of those that are usually excluded. -/
def excludedFolder : Entry :=
  .folder [("build", .folder scannedEntries)]

/-- The paths of the folder, of a file without a frontend in it, and of nothing. -/
def expandedTexts : List String :=
  ["build", "build/notes.txt", "missing"]

/-- The text of a document that is one integer with too many digits. -/
def longDocument : List Char :=
  Json.ones (maxIntegerDigits + 1)

/-- A folder with that document and a program behind it. -/
def longEntries : List (String × Entry) :=
  [("big.json", .file (Utf8.encode longDocument)), ("z.py", .file (some []))]

/-- A tree with the folder. -/
def longFolder : Entry :=
  .folder [("d", .folder longEntries)]

end BodyLength
