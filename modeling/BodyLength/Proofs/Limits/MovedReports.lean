import BodyLength.Proofs.Limits.Walk
import BodyLength.Proofs.Outcome
import BodyLength.Proofs.Text.Newlines
import BodyLength.Proofs.Tree.MovedTrees

/-!
# Reports of moved trees

Two files with one tree, the offsets apart, are checked side by side. At each node the rule looks at the line and the
column of its start and at the length of its body, and at nothing else of its offsets. Where the two files agree on that
at every node (`SourceFile.SeesMoved`), the walk over the one finds what the walk over the other does.

* `Node.flagged_moved`: the walk, from any exempt numbers and within any class, flags the moved functions.
* `SourceFile.worded_moved`: and they have the moved failures, or none of them where the others have none.
* `SourceFile.reportsAlike_of_position`: the two files report alike if positions keep their lines and columns.
* `SourceFile.reports_alike_with_other_newlines`: so it is with pairs or carriage returns for line feeds.
-/

namespace BodyLength

/-! ## Moved failures -/

/-- A failure with its range moved. -/
def Failure.moved (move : Int → Int) (f : Failure) : Failure :=
  { f with start := move f.start, stop := move f.stop }

section Moved

variable (limits : BodyLimits) {file file' : SourceFile} {move : Int → Int}

namespace SourceFile

/-- Does the rule see at a node of a file what it sees at the moved node in another file? It sees where the node starts
and how long its body is. -/
structure SeesMoved (file file' : SourceFile) (move : Int → Int) (n : Node) : Prop where
  position : file'.position (move n.start) = file.position n.start
  bodyLength : file'.bodyLength (n.moved move) = file.bodyLength n

/-- A moved node is over its limit exactly if the node was. Its length is the same, and so is its kind. -/
theorem SeesMoved.isOverLimit {n : Node} (h : file.SeesMoved file' move n) :
    file'.isOverLimit limits (n.moved move) = file.isOverLimit limits n := by
  rw [SourceFile.isOverLimit, SourceFile.isOverLimit, h.bodyLength, Node.moved_kind]

/-- Its failure is the failure of the node, moved. -/
theorem SeesMoved.failureAtNode {n : Node} (h : file.SeesMoved file' move n) (hname : file'.filename = file.filename)
    (className : String) :
    file'.failureAtNode limits className (n.moved move) = (file.failureAtNode limits className n).moved move := by
  have hmessage : ∀ length limit, (n.moved move).failureMessage className length limit =
      n.failureMessage className length limit := by
    simp [Node.failureMessage, Node.placeText]
  simp only [SourceFile.failureAtNode, Failure.ofNode, Failure.moved, hmessage, h.bodyLength, hname, h.position,
    Node.moved_kind, Node.moved_start, Node.moved_stop]

/-- The failure of a moved node has a wording exactly if the one of the node has. -/
theorem SeesMoved.canWord {n : Node} (h : file.SeesMoved file' move n) :
    file'.canWord limits (n.moved move) = file.canWord limits n := by
  rw [SourceFile.canWord, SourceFile.canWord, h.bodyLength, Node.moved_kind]

end SourceFile

/-- A function within a class, moved. -/
def Node.movedWithin (move : Int → Int) (m : Node × String) : Node × String :=
  (m.1.moved move, m.2)

/-- Moved functions have the moved failures, and if one of them has no wording, neither has the function that was
moved. -/
theorem SourceFile.worded_moved (hname : file'.filename = file.filename) {functions : List (Node × String)}
    (h : ∀ m ∈ functions, file.SeesMoved file' move m.1) :
    file'.worded limits (functions.map (Node.movedWithin move)) =
      (file.worded limits functions).map fun failures => failures.map (Failure.moved move) := by
  have hwords : ((functions.map (Node.movedWithin move)).all fun m => file'.canWord limits m.1) =
      functions.all fun m => file.canWord limits m.1 := by
    rw [List.all_map, Bool.eq_iff_iff, List.all_eq_true, List.all_eq_true]
    refine forall₂_congr fun m hm => ?_
    rw [← (h m hm).canWord limits]
    rfl
  have hfailures : (functions.map (Node.movedWithin move)).map (fun m => file'.failureAtNode limits m.2 m.1) =
      (functions.map fun m => file.failureAtNode limits m.2 m.1).map (Failure.moved move) := by
    rw [List.map_map, List.map_map]
    apply List.map_congr_left
    intro m hm
    exact (h m hm).failureAtNode limits hname m.2
  -- the same functions can be worded, and each failure has moved
  rw [worded, worded, hwords, hfailures]
  split <;> rfl

/-- Moving a call changes nothing about what it exempts, which goes by names and numbers. -/
theorem BodyLimits.exemptBelow_moved (n : Node) (isExempt : Int → Bool) :
    limits.exemptBelow (n.moved move) isExempt = limits.exemptBelow n isExempt := by
  funext index
  simp [exemptBelow, exemptsNode, exemptsCall, Node.map_numberRange_argumentNodes_moved]

/-- So it is with the name of a class. -/
theorem Node.classNameBelow_moved (n : Node) (className : String) :
    (n.moved move).classNameBelow className = n.classNameBelow className := by
  simp [classNameBelow]

/-- The functions that are measured in a moved tree are the moved ones. Neither the kinds nor the numbers of the nodes
have changed, and nothing else decides which functions are measured. -/
theorem Node.measured_moved (n : Node) (isExempt : Int → Bool) (className : String) :
    (n.moved move).measured limits isExempt className =
      (n.measured limits isExempt className).map (movedWithin move) := by
  induction n using Node.induction generalizing isExempt className with
  | step n ih =>
      rw [measured_eq, measured_eq, List.map_append, moved_index, BodyLimits.exemptBelow_moved, classNameBelow_moved,
        moved_children, List.flatMap_map, List.map_flatMap]
      congr 1
      · unfold ownMeasured
        rw [moved_kind]
        split <;> rfl
      · apply List.flatMap_congr
        intro child hchild
        exact ih child hchild _ _

/-- The functions that are flagged in a moved tree are the moved ones, where the rule sees the same at each node. -/
theorem Node.flagged_moved {n : Node} (h : ∀ m ∈ n.preorder, file.SeesMoved file' move m) (isExempt : Int → Bool)
    (className : String) :
    (n.moved move).flagged limits file' isExempt className =
      (n.flagged limits file isExempt className).map (movedWithin move) := by
  unfold flagged
  rw [measured_moved, List.filter_map]
  congr 1
  apply List.filter_congr
  intro m hm
  have hmem := (n.measured_sublist_preorder limits isExempt className).mem (List.mem_map_of_mem hm)
  exact (h m.1 hmem).isOverLimit limits

end Moved

/-! ## Offsets of a tree -/

/-- The offsets of a node: the ends of its range and those of its body. -/
def Node.offsets (n : Node) : List Int :=
  n.start :: n.stop :: n.body.elim [] fun body => [body.start, body.stop]

/-- Are the offsets of a node positions of a text of some length? -/
def Node.IsWithin (length : Nat) (n : Node) : Prop :=
  ∀ offset ∈ n.offsets, 0 ≤ offset ∧ offset ≤ length

instance Node.decidableIsWithin (length : Nat) (n : Node) : Decidable (n.IsWithin length) :=
  inferInstanceAs (Decidable (∀ offset ∈ n.offsets, 0 ≤ offset ∧ offset ≤ length))

/-- Numbering takes no offset out of the text. -/
theorem Node.isWithin_number {length next : Nat} {n : Node} :
    (number next n).1.IsWithin length ↔ n.IsWithin length := by
  simp [IsWithin, offsets]

namespace SourceFile

/-- Do two files say the same of a text and of a tree, if the offsets of the one are moved to those of the other? -/
structure ReportsAlike (file file' : SourceFile) (move : Int → Int) : Prop where
  /-- The positions of the text are on the same lines and in the same columns. -/
  position : ∀ offset : Int, 0 ≤ offset → offset ≤ file.text.length →
    file'.position (move offset) = file.position offset
  /-- The moved nodes are at the same places, and their bodies are as long. -/
  bodyLength : ∀ place n, file.root.at? place = some n →
    file'.root.at? place = some (n.moved move) ∧ file'.bodyLength (n.moved move) = file.bodyLength n
  /-- The failures are the moved ones, in the same order. The check of the one file comes to failures exactly if the
  check of the other does, and otherwise both end for the same cause. -/
  checkBy : ∀ options limits, BodyLimits.ofValues options = .ok limits →
    file'.checkBy options = (file.checkBy options).map fun failures => failures.map (Failure.moved move)

variable {file file' : SourceFile} {move : Int → Int}

/-- If positions within the text are where the moved ones are in the other file, then every node with its offsets within
the text is seen moved: it starts at the same line and column, and so do the ends of its body. -/
theorem seesMoved_of_isWithin (hposition : ∀ offset : Int, 0 ≤ offset → offset ≤ file.text.length →
    file'.position (move offset) = file.position offset) {n : Node} (h : n.IsWithin file.text.length) :
    file.SeesMoved file' move n := by
  have hstart := h n.start List.mem_cons_self
  refine ⟨hposition _ hstart.1 hstart.2, ?_⟩
  unfold SourceFile.bodyLength
  rw [Node.moved_body]
  cases hbody : n.body with
  | none => rfl
  | some body =>
      have hlow := h body.start (by simp [Node.offsets, hbody])
      have hhigh := h body.stop (by simp [Node.offsets, hbody])
      have hline : file'.lineMap.lineOf (move body.start) = file.lineMap.lineOf body.start :=
        congrArg Prod.fst (hposition _ hlow.1 hlow.2)
      have hline' : file'.lineMap.lineOf (move body.stop) = file.lineMap.lineOf body.stop :=
        congrArg Prod.fst (hposition _ hhigh.1 hhigh.2)
      -- the length counts lines, and both ends of the body are on the lines they were on
      simp only [Option.map_some, Span.moved, hline, hline']

/-- Files report alike if positions go to positions on the same line and in the same column. -/
theorem reportsAlike_of_position {filename text text' : String} {root : Node}
    (hwithin : ∀ n ∈ root.preorder, n.IsWithin text.length)
    (hposition : ∀ pos : Nat, pos ≤ text.toList.length →
      (LineMap.ofText text').position (move pos) = (LineMap.ofText text).position pos) :
    (ofTree filename text root).ReportsAlike (ofTree filename text' (root.moved move)) move := by
  -- moving and numbering change places, so the trees of both files have the same numbers
  have hroot : (ofTree filename text' (root.moved move)).root = (ofTree filename text root).root.moved move :=
    congrArg Prod.fst (Node.number_moved move 0 root)
  have hname : (ofTree filename text' (root.moved move)).filename = (ofTree filename text root).filename := rfl
  have hfiles : ∀ offset : Int, 0 ≤ offset → offset ≤ (ofTree filename text root).text.length →
      (ofTree filename text' (root.moved move)).position (move offset) =
        (ofTree filename text root).position offset := by
    intro offset hlow hhigh
    obtain ⟨pos, rfl⟩ := Int.eq_ofNat_of_zero_le hlow
    exact hposition pos (Nat.cast_le.mp hhigh)
  have hsees : ∀ n ∈ (ofTree filename text root).root.preorder,
      (ofTree filename text root).SeesMoved (ofTree filename text' (root.moved move)) move n := by
    intro n hn
    obtain ⟨first, m, hm, rfl⟩ := Node.exists_of_mem_preorder_number hn
    exact seesMoved_of_isWithin hfiles (Node.isWithin_number.mpr (hwithin m hm))
  refine ⟨hfiles, ?_, ?_⟩
  · intro place n hn
    refine ⟨?_, (hsees n (Node.mem_preorder_iff.mpr ⟨place, hn⟩)).bodyLength⟩
    rw [hroot, Node.at?_moved, hn, Option.map_some]
  · intro options limits hlimits
    -- the same functions are flagged, and flagged functions are nodes of the tree
    have hflagged := Node.flagged_moved limits hsees (fun _ => false) ""
    rw [checkBy_eq hlimits, checkBy_eq hlimits, SourceFile.flagged, hroot, hflagged]
    apply worded_moved limits hname
    intro m hm
    have hover := (Node.flagged_sublist_preorder limits _ (fun _ => false) "" _).mem (List.mem_map_of_mem hm)
    exact hsees m.1 (List.mem_filter.mp hover).1

/-! ## Styles of newlines -/

/-- Where an offset goes when a pair takes the place of each line feed: on by one for each line feed before it. -/
def pairedOffset (text : String) (offset : Int) : Int :=
  offset + ((text.toList.take offset.toNat).count '\n' : Nat)

/-- **What the rule reports does not depend on the style of newlines.** Take a text without carriage returns and a tree
over it, all of whose offsets are positions of the text. With a pair for each line feed the offsets move on, with a
carriage return they stay, and either way the positions, the lengths of bodies and the failures are those of before. -/
theorem reports_alike_with_other_newlines (filename text : String) (root : Node) (hreturn : '\r' ∉ text.toList)
    (hwithin : ∀ n ∈ root.preorder, n.IsWithin text.length) :
    (ofTree filename text root).ReportsAlike
      (ofTree filename (.ofList (withEnding ['\r', '\n'] text.toList)) (root.moved (pairedOffset text)))
      (pairedOffset text) ∧
    (ofTree filename text root).ReportsAlike
      (ofTree filename (.ofList (withEnding ['\r'] text.toList)) root) id := by
  constructor
  · apply reportsAlike_of_position hwithin
    intro pos hpos
    rw [LineMap.ofText, LineMap.ofText, String.toList_ofList, ← position_withEnding_pair hreturn hpos]
    rfl
  · have halike : (ofTree filename text root).ReportsAlike
        (ofTree filename (.ofList (withEnding ['\r'] text.toList)) (root.moved id)) id := by
      apply reportsAlike_of_position hwithin
      intro pos hpos
      rw [LineMap.ofText, LineMap.ofText, String.toList_ofList, ← position_withEnding_return hreturn hpos]
      rfl
    rwa [Node.moved_id] at halike

/-! ## A separator between line feeds -/

/-- A text that a separator cuts between its two line feeds. -/
def separatedFeeds : String :=
  "f\n\u2028x\n"

/-- A tree over the text, with a function from the separator on and a body that starts before the first line feed. -/
def separatedFeedsRoot : Node :=
  ⟨.sourceFile, 0, 5, none, none,
    [⟨.functionDeclaration, 2, 5, some "f", some ⟨1, 5⟩, [], none, [], -1, -1⟩], none, [], -1, -1⟩

/-- With pairs the function is reported on the same line and in the same column, though it starts one offset and ends
two offsets further on. -/
theorem separatedFeeds_report_alike :
    '\r' ∉ separatedFeeds.toList ∧ (∀ n ∈ separatedFeedsRoot.preorder, n.IsWithin separatedFeeds.length) ∧
      (ofTree "f.py" separatedFeeds separatedFeedsRoot).checkBy [.number (.whole 2)] =
        .ok [⟨ruleName, "f.py", 2, 5, 1, 0,
          "Max function body length exceeded in function f() - max: 2, actual: 3", 3⟩] ∧
      (ofTree "f.py" (.ofList (withEnding ['\r', '\n'] separatedFeeds.toList))
          (separatedFeedsRoot.moved (pairedOffset separatedFeeds))).checkBy [.number (.whole 2)] =
        .ok [⟨ruleName, "f.py", 3, 7, 1, 0,
          "Max function body length exceeded in function f() - max: 2, actual: 3", 3⟩] ∧
      (ofTree "f.py" separatedFeeds separatedFeedsRoot).ReportsAlike
        (ofTree "f.py" (.ofList (withEnding ['\r', '\n'] separatedFeeds.toList))
          (separatedFeedsRoot.moved (pairedOffset separatedFeeds))) (pairedOffset separatedFeeds) := by
  have hreturn : '\r' ∉ separatedFeeds.toList := by decide
  have hwithin : ∀ n ∈ separatedFeedsRoot.preorder, n.IsWithin separatedFeeds.length := by decide
  exact ⟨hreturn, hwithin, rfl, rfl, (reports_alike_with_other_newlines _ _ _ hreturn hwithin).1⟩

end SourceFile

end BodyLength
