import BodyLength.Files.Path
import Mathlib.Data.List.Basic

/-!
# Paths and their texts

A path is written down with one slash between its names, and the text denotes that path again, since none of the names
that a path keeps is empty, is the point that stays where it is, or holds a slash. `Path.IsPlain` says so of a path; it
is true of every path that a text denotes, and of every path that leads on from such a path.

* `slashPieces_intercalate`: the pieces of names with slashes between them are the names.
* `Path.IsPlain.slashPieces_text`: the pieces of the text of a path are its names behind the empty pieces of its root.
* `Path.IsPlain.ofText_text`: the text of a path denotes the path.
-/

namespace BodyLength

/-! ## Pieces of a text -/

/-- The text is cut as lists are cut, so that what is known of these can be used. -/
theorem splitAtChar_eq_splitOn (sep : Char) (cs : List Char) : splitAtChar sep cs = cs.splitOn sep := by
  induction cs with
  | nil => rfl
  | cons c rest ih =>
      rw [splitAtChar, ih, List.splitOn_cons_eq_if_modifyHead]
      obtain ⟨part, parts, hparts⟩ := List.exists_cons_of_ne_nil (List.splitOn_ne_nil sep rest)
      simp [hparts]

/-- No piece of a text has the character at which the text is split. -/
theorem notMem_of_mem_splitAtChar {sep : Char} {cs part : List Char} (h : part ∈ splitAtChar sep cs) : sep ∉ part := by
  induction cs generalizing part with
  | nil =>
      rw [splitAtChar, List.mem_singleton] at h
      simp [h]
  | cons c rest ih =>
      rw [splitAtChar] at h
      by_cases hc : c = sep
      · rw [if_pos (by simpa using hc)] at h
        rcases List.mem_cons.mp h with rfl | hmem
        · exact List.not_mem_nil
        · exact ih hmem
      · rw [if_neg (by simpa using hc)] at h
        -- the character joins the first of the parts behind it, of which there is one at least
        cases hparts : splitAtChar sep rest with
        | nil =>
            rw [splitAtChar_eq_splitOn] at hparts
            exact absurd hparts (List.splitOn_ne_nil sep rest)
        | cons first others =>
            simp only [hparts, List.mem_cons] at h ih
            rcases h with rfl | hmem
            · rw [List.mem_cons, not_or]
              exact ⟨fun heq => hc heq.symm, ih (Or.inl rfl)⟩
            · exact ih (Or.inr hmem)

/-- The pieces of names with slashes between them are the names. -/
theorem slashPieces_intercalate {names : List String} (hne : names ≠ []) (h : ∀ name ∈ names, '/' ∉ name.toList) :
    slashPieces ("/".intercalate names) = names := by
  have hsplit : (['/'].intercalate (names.map String.toList)).splitOn '/' = names.map String.toList :=
    List.splitOn_intercalate '/' (by simpa using h) (by simpa using hne)
  have hslash : "/".toList = ['/'] := rfl
  rw [slashPieces, splitAtChar_eq_splitOn, String.toList_intercalate, hslash, hsplit, List.map_map]
  simp

/-- A slash in front of a text adds an empty piece. -/
theorem slashPieces_slash_append (text : String) : slashPieces ("/" ++ text) = "" :: slashPieces text := by
  simp [slashPieces, splitAtChar]

/-! ## Paths that are written plainly -/

namespace Path

/-- Is a piece of a text one that a path keeps? The others lead nowhere. -/
def leadsOn (name : String) : Bool :=
  name != "" && name != "."

/-- The names that lead somewhere are all but the empty one and the single dot. -/
theorem leadsOn_iff {name : String} : leadsOn name = true ↔ name ≠ "" ∧ name ≠ "." := by
  simp [leadsOn]

/-- The names of a path are the pieces of its text that lead somewhere. -/
theorem names_ofText (text : String) : (ofText text).names = (slashPieces text).filter leadsOn := rfl

/-- Can a path keep a text as one of its names? -/
def IsName (name : String) : Prop :=
  name ≠ "" ∧ name ≠ "." ∧ '/' ∉ name.toList

/-- Has a path one of the roots, and nothing but names behind it? -/
structure IsPlain (p : Path) : Prop where
  root_mem : p.root ∈ ["", "/", "//"]
  isName : ∀ name ∈ p.names, IsName name

/-- Whatever text a path is given by, the path is plain. -/
theorem isPlain_ofText (text : String) : (ofText text).IsPlain := by
  constructor
  · change rootOf text ∈ _
    unfold rootOf
    split <;> simp
  · intro name hname
    rw [names_ofText] at hname
    obtain ⟨hpiece, hleads⟩ := List.mem_filter.mp hname
    obtain ⟨part, hpart, rfl⟩ := List.mem_map.mp hpiece
    obtain ⟨hempty, hpoint⟩ := leadsOn_iff.mp hleads
    refine ⟨hempty, hpoint, ?_⟩
    rw [String.toList_ofList]
    exact notMem_of_mem_splitAtChar hpart

variable {p : Path}

/-- There are three roots: none, a slash, and two. -/
theorem IsPlain.root_cases (h : p.IsPlain) : p.root = "" ∨ p.root = "/" ∨ p.root = "//" := by
  simpa using h.root_mem

/-- All names of a plain path lead somewhere. -/
theorem IsPlain.filter_names (h : p.IsPlain) : p.names.filter leadsOn = p.names := by
  rw [List.filter_eq_self]
  intro name hname
  obtain ⟨hempty, hpoint, -⟩ := h.isName name hname
  exact leadsOn_iff.mpr ⟨hempty, hpoint⟩

/-- A plain path stays plain as it goes along proper names. -/
theorem IsPlain.along (h : p.IsPlain) {names : List String} (hnames : ∀ name ∈ names, IsName name) :
    (p.along names).IsPlain := by
  refine ⟨h.root_mem, ?_⟩
  intro name hname
  rcases List.mem_append.mp hname with hold | hnew
  · exact h.isName name hold
  · exact hnames name hnew

/-- The parts of the longer path are those of the shorter one and the names. -/
theorem parts_along (p : Path) (names : List String) : (p.along names).parts = p.parts ++ names := by
  by_cases hroot : p.root.isEmpty = true
  · simp [parts, along, hroot]
  · simp [parts, along, hroot]

/-- The text of a path that goes anywhere is its root and its names, with slashes between them. -/
theorem text_of_ne_nil (h : ¬ (p.root = "" ∧ p.names = [])) : p.text = p.root ++ "/".intercalate p.names := by
  rw [text, if_neg]
  simpa using h

/-- The pieces of the text of a path are its names, behind an empty piece for each slash of the root. -/
theorem IsPlain.slashPieces_text (h : p.IsPlain) (hne : p.names ≠ []) :
    slashPieces p.text = List.replicate p.root.length "" ++ p.names := by
  have hnames := slashPieces_intercalate hne fun name hname => (h.isName name hname).2.2
  rw [text_of_ne_nil fun hpoint => hne hpoint.2]
  rcases h.root_cases with hroot | hroot | hroot
  · rw [hroot, String.empty_append, hnames]
    rfl
  · rw [hroot, slashPieces_slash_append, hnames]
    rfl
  · have htwo : "//" ++ "/".intercalate p.names = "/" ++ ("/" ++ "/".intercalate p.names) := by
      rw [← String.append_assoc]
      rfl
    rw [hroot, htwo, slashPieces_slash_append, slashPieces_slash_append, hnames]
    rfl

/-- Names with slashes between them do not begin with a slash. -/
theorem takeWhile_slash_intercalate {names : List String} (h : ∀ name ∈ names, IsName name) :
    ("/".intercalate names).toList.takeWhile (· == '/') = [] := by
  cases names with
  | nil => simp
  | cons name rest =>
      obtain ⟨hempty, -, hslash⟩ := h name List.mem_cons_self
      have hne : name.toList ≠ [] := fun hnil => hempty (String.toList_eq_nil_iff.mp hnil)
      obtain ⟨c, cs, hcs⟩ := List.exists_cons_of_ne_nil hne
      have hc : c ≠ '/' := by
        rintro rfl
        rw [hcs] at hslash
        exact hslash List.mem_cons_self
      cases rest with
      | nil => simp [hcs, hc]
      | cons other others => simp [hcs, hc]

/-- The root can be told from the text. -/
theorem IsPlain.rootOf_text (h : p.IsPlain) : rootOf p.text = p.root := by
  by_cases hpoint : p.root = "" ∧ p.names = []
  · simp [text, hpoint, rootOf]
  · have hslashes : p.text.toList.takeWhile (· == '/') = p.root.toList := by
      rw [text_of_ne_nil hpoint, String.toList_append, List.takeWhile_append_of_pos,
        takeWhile_slash_intercalate h.isName, List.append_nil]
      rcases h.root_cases with hroot | hroot | hroot <;>
        simp [hroot]
    rw [rootOf, hslashes]
    rcases h.root_cases with hroot | hroot | hroot <;>
    · rw [hroot]
      rfl

/-- The text of a path denotes the path. -/
theorem IsPlain.ofText_text (h : p.IsPlain) : ofText p.text = p := by
  have hnames : (ofText p.text).names = p.names := by
    rw [names_ofText]
    by_cases hne : p.names = []
    · rw [text, hne]
      rcases h.root_cases with hroot | hroot | hroot <;>
      · rw [hroot]
        rfl
    · rw [h.slashPieces_text hne, List.filter_append, h.filter_names]
      simp [leadsOn]
  obtain ⟨root, names⟩ := p
  exact Path.mk.injEq .. ▸ ⟨h.rootOf_text, hnames⟩

end Path

end BodyLength
