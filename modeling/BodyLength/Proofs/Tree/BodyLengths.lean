import BodyLength.Proofs.Text.LineEndings
import BodyLength.Tree.SourceFile

/-!
# Lengths of bodies

The length of a body is the difference of two lines, or zero where that is negative. Here it is the number of the line
endings within the body, which is what a limit is about. An ending is within a body if it ends behind the start of the
body and no later than with it, so a pair that a body cuts in two belongs to what holds its line feed.

* `SourceFile.bodyLength_eq`: the difference of the lines counts the ends between two positions.
* `SourceFile.bodyLength_counts_endings`: the same for the endings themselves, and what follows for bodies that are not
  in the text, that lie within each other or that are cut in two.
-/

namespace BodyLength

/-! ## Ends between two positions -/

/-- How many endings of a text end behind a position and no later than at another one. -/
def endsBetween (text : List Char) (low high : Nat) : Nat :=
  (breakEnds 0 text).countP fun stop => decide (low < stop ∧ stop ≤ high)

section EndsBetween

variable (text : List Char) {low mid high : Nat}

/-- Nothing ends in an empty range. -/
theorem endsBetween_eq_zero (h : high ≤ low) : endsBetween text low high = 0 := by
  rw [endsBetween, List.countP_eq_zero]
  intro stop _
  simp only [decide_eq_true_eq]
  omega

/-- What ends up to the end of a range ends up to its start or within it. -/
theorem countP_le_add_endsBetween (h : low ≤ high) :
    (breakEnds 0 text).countP (· ≤ low) + endsBetween text low high = (breakEnds 0 text).countP (· ≤ high) :=
  (LineMap.countP_le_eq_add h _).symm

/-- The endings of two ranges that meet are those of both together. -/
theorem endsBetween_add (hlow : low ≤ mid) (hhigh : mid ≤ high) :
    endsBetween text low mid + endsBetween text mid high = endsBetween text low high := by
  have hfirst := countP_le_add_endsBetween text hlow
  have hsecond := countP_le_add_endsBetween text hhigh
  have hwhole := countP_le_add_endsBetween text (hlow.trans hhigh)
  omega

/-- A wider range has no fewer endings. -/
theorem endsBetween_mono {low' high' : Nat} (hlow : low' ≤ low) (hhigh : high ≤ high') :
    endsBetween text low high ≤ endsBetween text low' high' := by
  apply List.countP_mono_left
  intro stop _ h
  simp only [decide_eq_true_eq] at h ⊢
  omega

/-- There are no more endings in a part of a text than lines after the first one. -/
theorem endsBetween_add_one_le : endsBetween text low high + 1 ≤ (LineMap.ofChars text).lineCount :=
  Nat.succ_le_succ List.countP_le_length

end EndsBetween

/-! ## Bodies -/

namespace SourceFile

variable {file : SourceFile} {text : List Char} {n : Node}

/-- Without a body there is no length. -/
theorem bodyLength_of_body_eq_none (h : n.body = none) : file.bodyLength n = 0 := by
  rw [bodyLength, h]

/-- The difference of the lines of two positions counts the ends between them. -/
theorem bodyLength_eq (hmap : file.lineMap = .ofChars text) {body : Span} (hbody : n.body = some body) :
    file.bodyLength n = endsBetween text (file.lineMap.clamp body.start) (file.lineMap.clamp body.stop) := by
  simp only [bodyLength, hbody, hmap, LineMap.lineOf_eq_countP]
  rcases Nat.le_total ((LineMap.ofChars text).clamp body.start) ((LineMap.ofChars text).clamp body.stop) with h | h
  · have hadd := countP_le_add_endsBetween text h
    omega
  · have hadd := countP_le_add_endsBetween text h
    rw [endsBetween_eq_zero text h]
    omega

/-- An empty range, one in front of the text and one behind it have no endings. -/
theorem bodyLength_eq_zero (hmap : file.lineMap = .ofChars text) {body : Span} (hbody : n.body = some body)
    (h : body.stop ≤ body.start ∨ body.stop ≤ 0 ∨ (text.length : Int) ≤ body.start) : file.bodyLength n = 0 := by
  rw [bodyLength_eq hmap hbody, endsBetween_eq_zero, Int.natCast_zero]
  simp only [hmap, LineMap.clamp, LineMap.ofChars]
  omega

/-- No body is shorter than nothing. -/
theorem bodyLength_nonneg (file : SourceFile) (n : Node) : 0 ≤ file.bodyLength n := by
  unfold bodyLength
  split
  · exact Int.le_refl 0
  · exact Int.le_max_left 0 _

/-- A body takes no more endings than the text has, and the text has one line more than endings. -/
theorem bodyLength_add_one_le (hmap : file.lineMap = .ofChars text) (n : Node) :
    file.bodyLength n + 1 ≤ file.lineMap.lineCount := by
  cases hbody : n.body with
  | none =>
      rw [bodyLength_of_body_eq_none hbody, hmap]
      simp [LineMap.lineCount, LineMap.ofChars]
  | some body =>
      rw [bodyLength_eq hmap hbody, hmap]
      exact_mod_cast endsBetween_add_one_le text

/-- A text has no more endings than characters. -/
theorem length_breakEnds_le (pos : Nat) (text : List Char) : (breakEnds pos text).length ≤ text.length := by
  fun_induction breakEnds pos text with
  | case1 pos => exact Nat.le_refl 0
  | case2 pos rest ih =>
      simp only [List.length_cons]
      omega
  | case3 pos c rest _ _ ih => exact Nat.succ_le_succ ih
  | case4 pos c rest _ _ ih => exact Nat.le_succ_of_le ih

/-- A body has no more lines than its text has characters. -/
theorem bodyLength_le_length (hmap : file.lineMap = .ofChars text) (n : Node) : file.bodyLength n ≤ text.length := by
  have hlines := bodyLength_add_one_le hmap n
  have hends := length_breakEnds_le 0 text
  rw [hmap, LineMap.lineCount, LineMap.ofChars, List.length_cons] at hlines
  omega

/-- A body within another one is no longer. Only an empty one may lie elsewhere. -/
theorem bodyLength_mono (hmap : file.lineMap = .ofChars text) {m : Node} {body body' : Span}
    (hbody : n.body = some body) (hbody' : m.body = some body')
    (h : Set.Ico body.start body.stop ⊆ Set.Ico body'.start body'.stop) : file.bodyLength n ≤ file.bodyLength m := by
  rcases lt_or_ge body.start body.stop with hlt | hge
  · obtain ⟨hstart, hstop⟩ := (Set.Ico_subset_Ico_iff hlt).mp h
    rw [bodyLength_eq hmap hbody, bodyLength_eq hmap hbody']
    exact_mod_cast endsBetween_mono text (LineMap.clamp_mono _ hstart) (LineMap.clamp_mono _ hstop)
  · rw [bodyLength_eq_zero hmap hbody (Or.inl hge)]
    exact file.bodyLength_nonneg m

/-- The lengths of two bodies that meet add up to that of both together. -/
theorem bodyLength_add (hmap : file.lineMap = .ofChars text) {first second : Node} {start cut stop : Int}
    (hbody : n.body = some ⟨start, stop⟩) (hfirst : first.body = some ⟨start, cut⟩)
    (hsecond : second.body = some ⟨cut, stop⟩) (hstart : file.lineMap.clamp start ≤ file.lineMap.clamp cut)
    (hstop : file.lineMap.clamp cut ≤ file.lineMap.clamp stop) :
    file.bodyLength n = file.bodyLength first + file.bodyLength second := by
  rw [bodyLength_eq hmap hbody, bodyLength_eq hmap hfirst, bodyLength_eq hmap hsecond]
  exact_mod_cast (endsBetween_add text hstart hstop).symm

/-! ## Endings in bodies -/

/-- The position in the text of a file that is nearest to an offset. -/
def nearest (file : SourceFile) (offset : Int) : Int :=
  max 0 (min offset file.text.length)

/-- Are the lengths of bodies in a file the numbers of line endings within them? -/
structure CountsEndings (file : SourceFile) : Prop where
  /-- Without a body there is no length. -/
  without_body : ∀ n, n.body = none → file.bodyLength n = 0
  /-- The endings of a body are those that end behind its start and no later than with it. -/
  eq_ncard : ∀ n body, n.body = some body → file.bodyLength n =
    {e : Nat × Nat | IsLineEnding file.text.toList e.1 e.2 ∧ file.nearest body.start < e.2 ∧
      e.2 ≤ file.nearest body.stop}.ncard
  /-- There is nothing in a body that is empty, inverted or out of the text. -/
  eq_zero : ∀ n body, n.body = some body →
    body.stop ≤ body.start ∨ body.stop ≤ 0 ∨ (file.text.length : Int) ≤ body.start → file.bodyLength n = 0
  nonneg : ∀ n, 0 ≤ file.bodyLength n
  le_lineCount : ∀ n, file.bodyLength n ≤ file.lineMap.lineCount - 1
  /-- A body within another one is no longer. -/
  mono : ∀ n m body body', n.body = some body → m.body = some body' →
    Set.Ico body.start body.stop ⊆ Set.Ico body'.start body'.stop → file.bodyLength n ≤ file.bodyLength m
  /-- A body that is cut at a position of the text within it is as long as its parts. -/
  add : ∀ n first second start cut stop, n.body = some ⟨start, stop⟩ → first.body = some ⟨start, cut⟩ →
    second.body = some ⟨cut, stop⟩ → file.nearest start ≤ cut → cut ≤ file.nearest stop →
    file.bodyLength n = file.bodyLength first + file.bodyLength second

/-- The nearest position of the text is what the line map takes for an offset outside of it. -/
theorem nearest_ofTree (filename text : String) (root : Node) (offset : Int) :
    (ofTree filename text root).nearest offset = (ofTree filename text root).lineMap.clamp offset := by
  rw [LineMap.natCast_clamp, nearest, ← String.length_toList]
  rfl

/-- **The length of a body is the number of line endings within it**, for every text and every range. -/
theorem bodyLength_counts_endings (filename text : String) (root : Node) :
    (ofTree filename text root).CountsEndings := by
  have hmap : (ofTree filename text root).lineMap = .ofChars text.toList := rfl
  constructor
  case without_body => exact fun n h => bodyLength_of_body_eq_none h
  case eq_ncard =>
    intro n body hbody
    simp only [nearest_ofTree, Nat.cast_lt, Nat.cast_le]
    rw [bodyLength_eq hmap hbody, endsBetween, ← ncard_isLineEnding]
    simp only [decide_eq_true_eq]
    rfl
  case eq_zero =>
    intro n body hbody hout
    apply bodyLength_eq_zero hmap hbody
    rwa [String.length_toList]
  case nonneg => exact bodyLength_nonneg _
  case le_lineCount =>
    intro n
    have := bodyLength_add_one_le hmap n
    omega
  case mono => exact fun n m body body' hbody hbody' h => bodyLength_mono hmap hbody hbody' h
  case add =>
    intro n first second start cut stop hbody hfirst hsecond hstart hstop
    rw [nearest_ofTree] at hstart hstop
    apply bodyLength_add hmap hbody hfirst hsecond
    · simp only [LineMap.clamp] at hstart ⊢
      omega
    · simp only [LineMap.clamp] at hstop ⊢
      omega

/-- A body from within a pair to the end has the pair as its one ending, and the rest before it has none. -/
example : ((ofTree "f.py" "a\r\nb" default).bodyLength { (default : Node) with body := some ⟨2, 4⟩ },
    (ofTree "f.py" "a\r\nb" default).bodyLength { (default : Node) with body := some ⟨0, 2⟩ }) = (1, 0) := by
  decide

end SourceFile

end BodyLength
