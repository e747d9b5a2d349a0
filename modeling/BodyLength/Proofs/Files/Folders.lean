import BodyLength.Files.FileTree
import BodyLength.Proofs.Files.Paths
import BodyLength.Proofs.Outcome
import Mathlib.Data.List.Lex
import Mathlib.Data.List.Nodup
import Mathlib.Data.String.Basic

/-!
# Folders and the files in them

`Entry.HoldsFile` says which names lead from a folder to a file. The names by which a folder is listed are these, and
the path that leads on along them from the path of the folder finds the file. For this the folders have to be tidy, as
folders are: the names in a folder are all different, and none of them is one of the two that stand for the folder
itself and for the one above it.

* `Entry.find_eq_ok`, `Entry.find_text`: a path is found by following its root and its names.
* `Entry.isTidy_ofFiles`, `Entry.IsTidy.of_find_eq_ok`: a tree that is made of files is tidy, and so is every folder
  that is found in it.
* `Entry.HoldsFile.find_along`: the files of a folder are found behind the path of the folder.
* `Entry.mem_listing_iff`, `Entry.pairwise_listing`: a folder is listed with its files, in the order of their names.
-/

namespace BodyLength.Entry

open BodyLength.Path (leadsOn leadsOn_iff)

/-! ## Following names

A path is followed name by name, together with the folders that were come through, since one name leads up again. The
names that lead nowhere can be left out of a way that comes to its end. In front of a last name that leads on they can
be left out in any case: what they stand behind has to be a folder for them as well as for the last name. -/

/-- What one name leads to, and the folders that were come through by then. -/
def followName (name : String) (e : Entry) (above : List Entry) : Except FileError (Entry × List Entry) :=
  match e with
  | file _ => .error .notFolder
  | folder entries =>
    if name = "" || name = "." then .ok (folder entries, above)
    else if name = ".." && !above.isEmpty then .ok (above.headD (folder entries), above.tail)
    else
      match child? name entries with
      | some inner => .ok (inner, folder entries :: above)
      | none => .error .notFound

section Following

variable {e e' inner : Entry} {name : String} {steps : List String} {above above' : List Entry}

/-- Names are followed one by one. -/
theorem follow_cons (name : String) (rest : List String) (e : Entry) (above : List Entry) :
    follow (name :: rest) e above = followName name e above >>= fun after => follow rest after.1 after.2 := by
  cases e with
  | file content => rfl
  | folder entries =>
      rw [follow, followName]
      split
      · rfl
      · split
        · rfl
        · cases child? name entries <;> rfl

/-- Several names are followed by following the first and then the others, from wherever the first leads. -/
theorem follow_cons_eq_ok_iff {rest : List String} : follow (name :: rest) e above = .ok e' ↔
    ∃ inner above', followName name e above = .ok (inner, above') ∧ follow rest inner above' = .ok e' := by
  rw [follow_cons, bind_eq_ok_iff, Prod.exists]

/-- A name that leads nowhere stays in its folder. -/
theorem followName_folder_of_not_leadsOn (h : leadsOn name = false) (entries : List (String × Entry)) :
    followName name (folder entries) above = .ok (folder entries, above) := by
  have hname : name = "" ∨ name = "." := by
    rw [← not_ne_iff, ← not_ne_iff, ← not_and_or, ← leadsOn_iff, h]
    simp
  rw [followName, if_pos (by simpa using hname)]

/-- What is followed behind some names starts where they lead to. -/
theorem exists_follow_append (h : follow steps e above = .ok e') :
    ∃ above', ∀ more, follow (steps ++ more) e above = follow more e' above' := by
  induction steps generalizing e above with
  | nil =>
      cases h
      exact ⟨above, fun _ => rfl⟩
  | cons name rest ih =>
      obtain ⟨inner, above', hname, hrest⟩ := follow_cons_eq_ok_iff.mp h
      obtain ⟨above'', hmore⟩ := ih hrest
      exact ⟨above'', fun more => by rw [List.cons_append, follow_cons, hname, ok_bind, hmore]⟩

/-- Names that lead nowhere can be left out. -/
theorem follow_filter_leadsOn (h : follow steps e above = .ok e') :
    follow (steps.filter leadsOn) e above = .ok e' := by
  induction steps generalizing e above with
  | nil => exact h
  | cons name rest ih =>
      obtain ⟨inner, above', hname, hrest⟩ := follow_cons_eq_ok_iff.mp h
      cases hleads : leadsOn name with
      | true =>
          rw [List.filter_cons_of_pos hleads]
          exact follow_cons_eq_ok_iff.mpr ⟨inner, above', hname, ih hrest⟩
      | false =>
          -- a name that leads nowhere stays in the folder, and in a file it would be a mistake
          rw [List.filter_cons_of_neg (by simp [hleads])]
          cases e with
          | file content => cases hname
          | folder entries =>
              rw [followName_folder_of_not_leadsOn hleads] at hname
              cases hname
              exact ih hrest

/-- Before a name that leads on, names that lead nowhere make no difference, whether what they stand behind is a folder
or not. -/
theorem follow_concat (steps : List String) {last : String} (hlast : leadsOn last = true) :
    follow (steps ++ [last]) e above = follow ((steps ++ [last]).filter leadsOn) e above := by
  rw [List.filter_append, List.filter_cons_of_pos hlast, List.filter_nil]
  induction steps generalizing e above with
  | nil => rfl
  | cons name rest ih =>
      cases hleads : leadsOn name with
      | true =>
          rw [List.filter_cons_of_pos hleads, List.cons_append, List.cons_append, follow_cons, follow_cons]
          simp only [ih]
      | false =>
          rw [List.filter_cons_of_neg (by simp [hleads]), ← ih, List.cons_append]
          cases e with
          | file content => cases rest <;> rfl
          | folder entries => rw [follow_cons, followName_folder_of_not_leadsOn hleads, ok_bind]

end Following

/-! ## Finding paths

A text may have more names than the path that is made of it, since the path keeps only those that lead on. So a path is
found again by its own text, which is what a run asks for, and what is found there is found by the names of the path.
-/

section Finding

variable {tree e : Entry} {p : Path}

/-- A root, where a path has one, is a name like any other when it is followed. -/
theorem leadsOn_root (hp : p.IsPlain) (hroot : ¬ p.root.isEmpty = true) : leadsOn p.root = true := by
  rcases hp.root_cases with hempty | hone | htwo
  · rw [hempty] at hroot
    exact absurd rfl hroot
  · rw [hone]
    decide
  · rw [htwo]
    decide

/-- What a text leads to is what the root and the names of its path lead to. -/
theorem find_eq_ok {text : String} (h : tree.find text = .ok e) :
    follow (Path.ofText text).parts tree [] = .ok e := by
  have hparts : (Path.ofText text).parts = if (rootOf text).isEmpty = true then (slashPieces text).filter leadsOn
      else rootOf text :: (slashPieces text).filter leadsOn := rfl
  unfold find at h
  split at h
  · cases h
  · rw [hparts]
    split at h <;> rename_i hempty
    · rw [if_pos hempty]
      exact follow_filter_leadsOn h
    · have hleads : leadsOn (rootOf text) = true := leadsOn_root (Path.isPlain_ofText text) hempty
      rw [if_neg hempty, ← List.filter_cons_of_pos hleads]
      exact follow_filter_leadsOn h

/-- A path with a name is found by following its root and its names. -/
theorem find_text (hp : p.IsPlain) (hne : p.names ≠ []) : tree.find p.text = follow p.parts tree [] := by
  have hempty : ¬ p.text.isEmpty = true := by
    intro htext
    have hnone := hp.ofText_text
    rw [String.isEmpty_iff.mp htext] at hnone
    exact hne (hnone ▸ rfl)
  have hnames := hp.filter_names
  -- the pieces that lead nowhere are those of the root, and the last name stands behind them
  have hfollow (root : List String) (hroot : root.filter leadsOn = root) :
      follow (root ++ (List.replicate p.root.length "" ++ p.names)) tree [] = follow (root ++ p.names) tree [] := by
    obtain ⟨before, last, hlast⟩ : ∃ before last, p.names = before ++ [last] :=
      ⟨_, _, (List.dropLast_append_getLast hne).symm⟩
    have hleads : leadsOn last = true :=
      List.of_mem_filter (hnames ▸ hlast ▸ List.mem_append_right _ List.mem_cons_self)
    calc follow (root ++ (List.replicate p.root.length "" ++ p.names)) tree []
        = follow ((root ++ (List.replicate p.root.length "" ++ before)) ++ [last]) tree [] := by simp [hlast]
      _ = follow ((root ++ (List.replicate p.root.length "" ++ before) ++ [last]).filter leadsOn) tree [] :=
          follow_concat _ hleads
      _ = follow ((root ++ (List.replicate p.root.length "" ++ p.names)).filter leadsOn) tree [] := by simp [hlast]
      _ = follow (root ++ p.names) tree [] := by
          simp only [List.filter_append, hroot, hnames]
          simp [leadsOn]
  rw [find, if_neg hempty, hp.rootOf_text, hp.slashPieces_text hne, Path.parts]
  split
  · exact hfollow [] rfl
  · rename_i hroot
    exact hfollow [p.root] (by rw [List.filter_cons_of_pos (leadsOn_root hp hroot), List.filter_nil])

/-- Behind a path that leads to a folder, names are followed from the folder. -/
theorem exists_find_along (hp : p.IsPlain) {entries : List (String × Entry)}
    (hfolder : tree.find p.text = .ok (folder entries)) {names : List String} (hne : names ≠ [])
    (hnames : ∀ name ∈ names, Path.IsName name) :
    ∃ above, tree.find (p.along names).text = follow names (folder entries) above := by
  have hstart := find_eq_ok hfolder
  rw [hp.ofText_text] at hstart
  obtain ⟨above, hmore⟩ := exists_follow_append hstart
  have halong : (p.along names).names ≠ [] := by simp [Path.along, hne]
  exact ⟨above, by rw [find_text (hp.along hnames) halong, Path.parts_along, hmore]⟩

end Finding

/-! ## The files of a folder

Which files a folder holds is said without a path and without a listing, by one rule for a file and one for what is in
a folder. Both of the others are compared with it. That the names of a file lead to it takes a tidy folder: among two
entries with one name, only the first one is ever found. -/

/-- Do some names lead from an entry to a file with some content, be it one that can be read or not? -/
inductive HoldsFile : Entry → List String → Option (List UInt8) → Prop where
  | self (content : Option (List UInt8)) : HoldsFile (file content) [] content
  | inside {entries : List (String × Entry)} {name : String} {e : Entry} {names : List String}
      {content : Option (List UInt8)} :
      (name, e) ∈ entries → HoldsFile e names content → HoldsFile (folder entries) (name :: names) content

mutual

/-- Have the entries of every folder in a tree different names, each of which leads to the entry that has it? -/
def IsTidy : Entry → Prop
  | file _ => True
  | folder entries => AreTidy entries

/-- Have entries different names, each of which leads to the entry that has it, and so on in the folders below? -/
def AreTidy : List (String × Entry) → Prop
  | [] => True
  | (name, e) :: rest =>
      (Path.IsName name ∧ name ≠ "..") ∧ name ∉ rest.map Prod.fst ∧ e.IsTidy ∧ AreTidy rest

end

section Files

variable {e : Entry} {entries : List (String × Entry)} {names : List String} {content : Option (List UInt8)}

/-- An entry of a tidy folder has a proper name, is tidy itself, and is the one that is found by its name. -/
theorem isTidy_of_mem (h : AreTidy entries) {name : String} (hmem : (name, e) ∈ entries) :
    (Path.IsName name ∧ name ≠ "..") ∧ e.IsTidy ∧ child? name entries = some e := by
  induction entries with
  | nil => cases hmem
  | cons first rest ih =>
      obtain ⟨firstName, firstEntry⟩ := first
      obtain ⟨hname, hnew, htidy, hrest⟩ := h
      rcases List.mem_cons.mp hmem with heq | hmem
      · obtain ⟨rfl, rfl⟩ := Prod.mk.inj heq
        exact ⟨hname, htidy, by rw [child?, if_pos rfl]⟩
      · obtain ⟨hname', htidy', hchild⟩ := ih hrest hmem
        have hne : firstName ≠ name := by
          rintro rfl
          exact hnew (List.mem_map_of_mem hmem)
        exact ⟨hname', htidy', by rw [child?, if_neg hne, hchild]⟩

/-- A folder is no file, so the files in it have a name. -/
theorem HoldsFile.ne_nil (h : (folder entries).HoldsFile names content) : names ≠ [] := by
  cases h
  exact List.cons_ne_nil _ _

/-- The names that lead to a file of a tidy tree are names of entries. -/
theorem HoldsFile.isName (h : e.HoldsFile names content) (htidy : e.IsTidy) : ∀ name ∈ names, Path.IsName name := by
  induction h with
  | self content => exact List.forall_mem_nil _
  | inside hmem _ ih =>
      obtain ⟨⟨hname, -⟩, hbelow, -⟩ := isTidy_of_mem htidy hmem
      exact List.forall_mem_cons.mpr ⟨hname, ih hbelow⟩

/-- The names that lead to a file are followed to it. -/
theorem HoldsFile.follow_eq_ok (h : e.HoldsFile names content) (htidy : e.IsTidy) (above : List Entry) :
    follow names e above = .ok (file content) := by
  induction h generalizing above with
  | self content => rfl
  | inside hmem _ ih =>
      obtain ⟨⟨⟨hempty, hpoint, -⟩, hup⟩, hbelow, hchild⟩ := isTidy_of_mem htidy hmem
      simp [follow, hempty, hpoint, hup, hchild, ih hbelow]

/-- The files of a folder are found behind the path of the folder. -/
theorem HoldsFile.find_along {tree : Entry} {p : Path} (hp : p.IsPlain)
    (hfolder : tree.find p.text = .ok (folder entries)) (htidy : (folder entries).IsTidy)
    (h : (folder entries).HoldsFile names content) : tree.find (p.along names).text = .ok (file content) := by
  obtain ⟨above, hfind⟩ := exists_find_along hp hfolder h.ne_nil (h.isName htidy)
  rw [hfind, h.follow_eq_ok htidy]

/-! ## Tidy trees

A tree of files is built by putting in one file after the other. Each of them is put at the end of the names of its
path, and the folders on the way are made if they are not there. None of this makes two entries with one name, so such
a tree is tidy. And since going up only leads to a folder that was come through, everything that is found in a tidy
tree is tidy, too. -/

/-- Entries are tidy exactly if no two have one name and each has a proper name and is tidy. -/
theorem areTidy_iff : AreTidy entries ↔ (entries.map Prod.fst).Nodup ∧
    ∀ m ∈ entries, (Path.IsName m.1 ∧ m.1 ≠ "..") ∧ m.2.IsTidy := by
  induction entries with
  | nil => simp [AreTidy]
  | cons first rest ih =>
      obtain ⟨name, e⟩ := first
      rw [AreTidy, ih, List.map_cons, List.nodup_cons, List.forall_mem_cons]
      constructor
      · rintro ⟨hname, hnew, htidy, hnodup, hall⟩
        exact ⟨⟨hnew, hnodup⟩, ⟨hname, htidy⟩, hall⟩
      · rintro ⟨⟨hnew, hnodup⟩, ⟨hname, htidy⟩, hall⟩
        exact ⟨hname, hnew, htidy, hnodup, hall⟩

/-- The entry that is found by a name is one of the entries. -/
theorem mem_of_child?_eq_some {name : String} (h : child? name entries = some e) : (name, e) ∈ entries := by
  induction entries with
  | nil => cases h
  | cons first rest ih =>
      obtain ⟨firstName, firstEntry⟩ := first
      rw [child?] at h
      split at h
      · rename_i heq
        cases h
        exact heq ▸ List.mem_cons_self
      · exact List.mem_cons_of_mem _ (ih h)

/-- What is among the entries after one is set is that one, or was there before. -/
theorem eq_or_mem_of_mem_setChild {name : String} {m : String × Entry} (h : m ∈ setChild name e entries) :
    m = (name, e) ∨ m ∈ entries := by
  induction entries with
  | nil => exact Or.inl (List.mem_singleton.mp h)
  | cons first rest ih =>
      rw [setChild] at h
      split at h <;> rename_i hname
      · rcases List.mem_cons.mp h with hfirst | hrest
        · exact Or.inl (hname ▸ hfirst)
        · exact Or.inr (List.mem_cons_of_mem _ hrest)
      · rcases List.mem_cons.mp h with hfirst | hrest
        · exact Or.inr (hfirst ▸ List.mem_cons_self)
        · exact (ih hrest).imp_right (List.mem_cons_of_mem _)

/-- Setting an entry leaves the names as they are, or adds a new one at the end. -/
theorem map_fst_setChild (name : String) (e : Entry) (entries : List (String × Entry)) :
    (setChild name e entries).map Prod.fst = if name ∈ entries.map Prod.fst then entries.map Prod.fst
      else entries.map Prod.fst ++ [name] := by
  induction entries with
  | nil => rfl
  | cons first rest ih =>
      rw [setChild]
      by_cases hname : first.1 = name
      · simp [hname]
      · have hother : name ≠ first.1 := fun heq => hname heq.symm
        simp only [if_neg hname, List.map_cons, ih, List.mem_cons, hother, false_or]
        split <;> rfl

/-- Setting a tidy entry leaves the entries tidy. -/
theorem areTidy_setChild {name : String} (hname : Path.IsName name ∧ name ≠ "..") (he : e.IsTidy)
    (h : AreTidy entries) : AreTidy (setChild name e entries) := by
  obtain ⟨hnodup, hall⟩ := areTidy_iff.mp h
  refine areTidy_iff.mpr ⟨?_, fun m hm => ?_⟩
  · rw [map_fst_setChild]
    split
    · exact hnodup
    · rename_i hnew
      exact List.nodup_append.mpr ⟨hnodup, List.nodup_singleton name, by grind⟩
  · rcases eq_or_mem_of_mem_setChild hm with rfl | hold
    · exact ⟨hname, he⟩
    · exact hall m hold

/-- Putting a tidy entry at the end of names of entries leaves a tree tidy. -/
theorem IsTidy.put {leaf : Entry} (hleaf : leaf.IsTidy) (hnames : ∀ name ∈ names, Path.IsName name ∧ name ≠ "..")
    (h : e.IsTidy) : (put leaf names e).IsTidy := by
  induction names generalizing e with
  | nil =>
      rw [Entry.put]
      split
      · exact h
      · exact hleaf
  | cons name rest ih =>
      -- on the way down whatever is not there yet is an empty folder, and that is tidy
      obtain ⟨hname, hrest⟩ := List.forall_mem_cons.mp hnames
      have hchildren : AreTidy e.children := by
        cases e with
        | file content => exact trivial
        | folder entries => exact h
      have hinner : ((child? name e.children).getD emptyFolder).IsTidy := by
        cases hchild : child? name e.children with
        | none => exact trivial
        | some inner => exact ((areTidy_iff.mp hchildren).2 _ (mem_of_child?_eq_some hchild)).2
      exact areTidy_setChild hname (ih hrest hinner) hchildren

/-- A tree of files is tidy, unless a path leads to a file from a root or up from a folder. -/
theorem isTidy_ofContents {files : List (String × Option (List UInt8))}
    (h : ∀ f ∈ files, (Path.ofText f.1).root = "" ∧ ".." ∉ (Path.ofText f.1).names) : (ofContents files).IsTidy := by
  have hfold (tree : Entry) (htree : tree.IsTidy) : (files.foldl (fun tree f =>
      let leaf := if f.1.endsWith "/" then emptyFolder else file f.2
      Entry.put leaf (Path.ofText f.1).parts tree) tree).IsTidy := by
    induction files generalizing tree with
    | nil => exact htree
    | cons f rest ih =>
        obtain ⟨⟨hroot, hup⟩, hrest⟩ := List.forall_mem_cons.mp h
        refine ih hrest _ (IsTidy.put ?_ ?_ htree)
        · split <;> exact trivial
        · have hparts : (Path.ofText f.1).parts = (Path.ofText f.1).names := by simp [Path.parts, hroot]
          rw [hparts]
          exact fun name hname => ⟨(Path.isPlain_ofText f.1).isName name hname, fun heq => hup (heq ▸ hname)⟩
  exact hfold emptyFolder trivial

/-- Files that are given by plain paths make up a tidy tree. -/
theorem isTidy_ofFiles {files : List (String × List UInt8)}
    (h : ∀ f ∈ files, (Path.ofText f.1).root = "" ∧ ".." ∉ (Path.ofText f.1).names) : (ofFiles files).IsTidy := by
  apply isTidy_ofContents
  rw [List.forall_mem_map]
  exact h

/-- A name leads from tidy entries to tidy entries, down to one of a folder or up again. -/
theorem IsTidy.of_followName_eq_ok {name : String} {above above' : List Entry} {inner : Entry}
    (htidy : ∀ outer ∈ e :: above, outer.IsTidy) (h : followName name e above = .ok (inner, above')) :
    ∀ outer ∈ inner :: above', outer.IsTidy := by
  cases e with
  | file content => cases h
  | folder entries =>
      -- a name leads nowhere, to the folder above, or to an entry
      rw [followName] at h
      split at h
      · cases h
        exact htidy
      · split at h
        · cases h
          cases above with
          | nil => exact htidy
          | cons outer further => exact (List.forall_mem_cons.mp htidy).2
        · split at h
          · rename_i hchild
            cases h
            have hentries := (areTidy_iff.mp (htidy _ List.mem_cons_self)).2
            exact List.forall_mem_cons.mpr ⟨(hentries _ (mem_of_child?_eq_some hchild)).2, htidy⟩
          · cases h

/-- What is reached in tidy folders is tidy, however far up it was gone on the way. -/
theorem IsTidy.of_follow_eq_ok {steps : List String} {above : List Entry} {e' : Entry}
    (htidy : ∀ outer ∈ e :: above, outer.IsTidy) (h : follow steps e above = .ok e') : e'.IsTidy := by
  induction steps generalizing e above with
  | nil =>
      cases h
      exact htidy _ List.mem_cons_self
  | cons name rest ih =>
      obtain ⟨inner, above', hname, hrest⟩ := follow_cons_eq_ok_iff.mp h
      exact ih (of_followName_eq_ok htidy hname) hrest

/-- What is found in a tidy tree is tidy. -/
theorem IsTidy.of_find_eq_ok {tree : Entry} {text : String} (htidy : tree.IsTidy) (h : tree.find text = .ok e) :
    e.IsTidy :=
  of_follow_eq_ok (List.forall_mem_singleton.mpr htidy) (find_eq_ok h)

/-! ## Listing

A folder is listed at any depth or right in it. Either way the listing is collected along the entries, and it has the
names that lead to files and no others. -/

/-- The files below several entries are those below each, with the name of the entry in front. -/
theorem mem_filesBelowAll_iff {f : List String × Option (List UInt8)} :
    f ∈ filesBelowAll entries ↔ ∃ name e, (name, e) ∈ entries ∧ ∃ g ∈ e.filesBelow, (name :: g.1, g.2) = f := by
  induction entries with
  | nil => simp [filesBelowAll]
  | cons first rest ih =>
      obtain ⟨name, e⟩ := first
      rw [filesBelowAll, List.mem_append, List.mem_map, ih]
      constructor
      · rintro (hfirst | ⟨name', e', hmem, hbelow⟩)
        · exact ⟨name, e, List.mem_cons_self, hfirst⟩
        · exact ⟨name', e', List.mem_cons_of_mem _ hmem, hbelow⟩
      · rintro ⟨name', e', hmem, hbelow⟩
        rcases List.mem_cons.mp hmem with heq | hmem
        · obtain ⟨rfl, rfl⟩ := Prod.mk.inj heq
          exact Or.inl hbelow
        · exact Or.inr ⟨name', e', hmem, hbelow⟩

/-- The files of a tree are listed with the names that lead to them. -/
theorem mem_filesBelow_iff : (names, content) ∈ e.filesBelow ↔ e.HoldsFile names content := by
  -- a file has no names below it and a folder has nothing else, so the names decide which of the two it can be
  induction names generalizing e with
  | nil =>
      cases e with
      | file own =>
          rw [filesBelow, List.mem_singleton, Prod.mk.injEq]
          constructor
          · rintro ⟨-, rfl⟩
            exact .self _
          · intro h
            cases h
            exact ⟨rfl, rfl⟩
      | folder entries =>
          rw [filesBelow, mem_filesBelowAll_iff]
          constructor
          · rintro ⟨name, e, -, g, -, heq⟩
            cases heq
          · intro h
            cases h
  | cons name rest ih =>
      cases e with
      | file own =>
          rw [filesBelow, List.mem_singleton]
          constructor
          · intro h
            cases h
          · intro h
            cases h
      | folder entries =>
          rw [filesBelow, mem_filesBelowAll_iff]
          constructor
          · rintro ⟨name', e, hmem, g, hg, heq⟩
            obtain ⟨hnames, hcontent⟩ := Prod.mk.inj heq
            obtain ⟨rfl, rfl⟩ := List.cons_eq_cons.mp hnames
            subst hcontent
            exact .inside hmem (ih.mp hg)
          · intro h
            cases h with
            | inside hmem hbelow => exact ⟨name, _, hmem, (rest, content), ih.mpr hbelow, rfl⟩

/-- The files among the entries of a folder are those that it holds at depth one. -/
theorem mem_filesAmong_iff :
    (names, content) ∈ filesAmong entries ↔ (folder entries).HoldsFile names content ∧ names.length = 1 := by
  rw [filesAmong, List.mem_filterMap]
  constructor
  · rintro ⟨⟨name, e⟩, hmem, heq⟩
    cases e with
    | file own =>
        cases heq
        exact ⟨.inside hmem (.self _), rfl⟩
    | folder inner => cases heq
  · rintro ⟨h, hone⟩
    cases h with
    | inside hmem hbelow =>
        -- what is further inside has two names at least
        cases hbelow with
        | self own => exact ⟨_, hmem, rfl⟩
        | inside hinner hdeep => simp at hone

/-- A listing has the files that a folder holds, at any depth or at depth one, as it was asked for. -/
theorem mem_listing_iff {all : Bool} : (names, content) ∈ listing entries all ↔
    (folder entries).HoldsFile names content ∧ (all = true ∨ names.length = 1) := by
  rw [listing, List.mem_mergeSort]
  cases all with
  | false => simpa using mem_filesAmong_iff
  | true =>
      have hbelow : (names, content) ∈ (folder entries).filesBelow ↔ _ := mem_filesBelow_iff
      rw [filesBelow] at hbelow
      simpa using hbelow

/-! ## The order of a listing

The files are sorted by their names. In a tidy folder no two of them have the same ones, so the order is strict, and
there is one list of the files in this order. -/

/-- Names come in order as lists of texts do. -/
theorem namesInOrder_iff {first second : List String} : namesInOrder first second = true ↔ first ≤ second := by
  induction first generalizing second with
  | nil =>
      rw [le_iff_lt_or_eq]
      cases second <;> simp [namesInOrder]
  | cons a rest ih =>
      cases second with
      | nil => simp [namesInOrder, le_iff_lt_or_eq]
      | cons b others =>
          rw [le_iff_lt_or_eq, List.cons_lt_cons_iff, List.cons_eq_cons, or_assoc, ← and_or_left, ← le_iff_lt_or_eq,
            ← ih]
          simp [namesInOrder]

/-- No names lead to two files of a tidy tree. -/
theorem nodup_filesBelow : (e : Entry) → e.IsTidy → (e.filesBelow.map Prod.fst).Nodup
  | file own, _ => by simp [filesBelow]
  | folder [], _ => by simp [filesBelow, filesBelowAll]
  | folder ((name, inner) :: rest), ⟨_, hnew, hinner, hrest⟩ => by
      have hfirst : ((inner.filesBelow.map fun f => (name :: f.1, f.2)).map Prod.fst).Nodup := by
        have hnodup := (nodup_filesBelow inner hinner).map (List.cons_injective (a := name))
        rw [List.map_map] at hnodup ⊢
        exact hnodup
      have hothers : ((filesBelowAll rest).map Prod.fst).Nodup := nodup_filesBelow (folder rest) hrest
      rw [filesBelow, filesBelowAll, List.map_append, List.nodup_append]
      refine ⟨hfirst, hothers, ?_⟩
      rintro names hnames names' hnames' rfl
      -- the names of the others start with other names
      obtain ⟨f, hf, rfl⟩ := List.mem_map.mp hnames
      obtain ⟨g, -, rfl⟩ := List.mem_map.mp hf
      obtain ⟨f', hf', heq⟩ := List.mem_map.mp hnames'
      obtain ⟨name', e', hmem, g', -, rfl⟩ := mem_filesBelowAll_iff.mp hf'
      obtain ⟨rfl, -⟩ := List.cons_eq_cons.mp heq
      exact hnew (List.mem_map_of_mem hmem)

/-- No file is twice among the entries of a tidy folder. -/
theorem nodup_filesAmong (htidy : AreTidy entries) : ((filesAmong entries).map Prod.fst).Nodup := by
  have hsublist : ((filesAmong entries).map Prod.fst).Sublist ((filesBelowAll entries).map Prod.fst) := by
    clear htidy
    induction entries with
    | nil => exact List.Sublist.refl _
    | cons first rest ih =>
        obtain ⟨name, e⟩ := first
        cases e with
        | file own => exact ih.cons_cons [name]
        | folder inner =>
            rw [filesBelowAll, List.map_append]
            exact ih.trans (List.sublist_append_right _ _)
  exact hsublist.nodup (nodup_filesBelow (folder entries) htidy)

/-- A tidy folder is listed in the order of the names. -/
theorem pairwise_listing (htidy : AreTidy entries) (all : Bool) :
    (listing entries all).Pairwise fun f g => f.1 < g.1 := by
  have hnodup : ((if all then filesBelowAll entries else filesAmong entries).map Prod.fst).Nodup := by
    cases all with
    | false => exact nodup_filesAmong htidy
    | true => exact nodup_filesBelow (folder entries) htidy
  -- the sort keeps the files, so that no two have the same names, and puts them in order
  have hperm := (List.mergeSort_perm (if all then filesBelowAll entries else filesAmong entries)
    fun f g => namesInOrder f.1 g.1).map Prod.fst
  have hdiffer : (listing entries all).Pairwise fun f g => f.1 ≠ g.1 :=
    List.pairwise_map.mp (hperm.nodup_iff.mpr hnodup)
  have hordered : (listing entries all).Pairwise fun f g => namesInOrder f.1 g.1 = true := by
    refine List.pairwise_mergeSort (fun f g h => ?_) (fun f g => ?_) _
    · simp only [namesInOrder_iff]
      exact le_trans
    · rw [Bool.or_eq_true, namesInOrder_iff, namesInOrder_iff]
      exact le_total _ _
  exact hordered.imp₂ (fun f g hle hne => lt_of_le_of_ne (namesInOrder_iff.mp hle) hne) hdiffer

end Files

end BodyLength.Entry
