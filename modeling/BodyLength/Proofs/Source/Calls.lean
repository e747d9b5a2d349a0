import BodyLength.Proofs.Limits.Walk
import BodyLength.Proofs.Outcome
import BodyLength.Proofs.Text.LineAgreement
import BodyLength.Proofs.Tree.NumberRanges

/-!
# Calls and what they pass

A call becomes a node with the node of what is called as its first child and those of what is passed behind it, one for
each argument, in the order of their places in the text. The numbers of the arguments then follow each other without a
gap, and what an exempt call keeps is exactly what is below it but not below what is called.

* `Node.IsCallOf`: the children of a call and what its references lead to. Numbering keeps it, because the references
  name children (`IsLinkedCall.number`).
* `Ast.ArePassed`: the nodes of what is passed, one for each argument and in order.
* `Node.IsNumberedCallOf`: how the numbers of a call, of its callee and of its arguments lie to each other.
* `call_passes_in_order`: all of this for a call anywhere in a tree, and what is exempt below it.
-/

namespace BodyLength

/-! ## The children of a call

That a node is that of a call is said twice: by its references as they are stored, which are positions, and by the
nodes that they lead to. The first is what numbering keeps, and the second is what is of interest. -/

namespace Node

/-- Are the children of a call the node that is called and behind it those that are passed? -/
structure IsCallOf (n called : Node) (passed : List Node) : Prop where
  kind : n.kind = .callExpression
  children : n.children = called :: passed
  callee : n.calleeNode? = some called
  arguments : n.argumentNodes = passed

/-- Does a call refer to its first child as what is called and to those behind it as what is passed? -/
structure IsLinkedCall (n : Node) : Prop where
  kind : n.kind = .callExpression
  callee : n.callee = some (.child 0)
  arguments : n.arguments = (List.range n.children.tail.length).map fun i => .child (1 + i)

variable {n called : Node} {passed : List Node}

/-- All items of a list, by their positions, are the list. -/
theorem filterMap_getElem?_range {α : Type} (xs : List α) : (List.range xs.length).filterMap (xs[·]?) = xs := by
  induction xs with
  | nil => rfl
  | cons x xs ih =>
      rw [List.length_cons, List.range_succ_eq_map, List.filterMap_cons, List.filterMap_map]
      exact congrArg (x :: ·) ih

/-- A node that is linked like a call is a call of its first child that passes the others. -/
theorem IsLinkedCall.isCallOf (h : n.IsLinkedCall) (hchildren : n.children = called :: passed) :
    n.IsCallOf called passed where
  kind := h.kind
  children := hchildren
  callee := by
    rw [calleeNode?, h.callee, Option.bind_some, resolve?, hchildren, List.getElem?_cons_zero]
  arguments := by
    have hresolve : n.resolve? ∘ (fun i => Ref.child (1 + i)) = fun i => passed[i]? := by
      funext i
      rw [Function.comp_apply, resolve?, hchildren, Nat.add_comm, List.getElem?_cons_succ]
    rw [argumentNodes, h.arguments, hchildren, List.tail_cons, List.filterMap_map, hresolve,
      filterMap_getElem?_range]

/-- The node that is made of a call is linked like one. -/
theorem isLinkedCall_callNode (s : Span) (called : Node) (passed : List Node) :
    (Ast.callNode s [called] passed).IsLinkedCall :=
  ⟨rfl, rfl, rfl⟩

/-- Numbering leaves the references of a call as they are. -/
theorem IsLinkedCall.number (h : n.IsLinkedCall) (next : Nat) : (number next n).1.IsLinkedCall where
  kind := (number_kind next n).trans h.kind
  callee := (number_callee next n).trans h.callee
  arguments := by
    rw [number_arguments, h.arguments, number_children, List.length_tail, List.length_tail, length_numberAll]

end Node

/-! ## What is passed

Arguments are lowered one by one, each with its place in the text, and then sorted by these places. Sorting nodes by
the places of what they are made of is sorting the pieces and lowering them then, so the order is shown for pieces and
carries over to the positions of their nodes. -/

namespace Ast

/-- What an argument passes: behind a keyword the value alone. -/
def passedValue : Ast → Ast
  | keyword _ _ value => value
  | a => a

/-- What is passed is lowered piece by piece, keywords by what stands behind them. -/
theorem lowerPassed_eq (lines : SourceLines) (as : List Ast) :
    lowerPassed lines as = (as.map passedValue).map fun a => (a.extent, lower lines false a) := by
  induction as with
  | nil => rw [lowerPassed, List.map_nil, List.map_nil]
  | cons a rest ih => cases a <;> simp only [lowerPassed, passedValue, List.map_cons, ih]

/-- Two lists of what is passed are lowered apart. -/
theorem lowerPassed_append (lines : SourceLines) (as bs : List Ast) :
    lowerPassed lines (as ++ bs) = lowerPassed lines as ++ lowerPassed lines bs := by
  rw [lowerPassed_eq, lowerPassed_eq, lowerPassed_eq, List.map_append, List.map_append]

/-- A piece with a range becomes one node, which starts where the piece does. -/
theorem exists_lower_eq_singleton (lines : SourceLines) (isMember : Bool) {a : Ast} (h : a.extent?.isSome) :
    ∃ n, lower lines isMember a = [n] ∧ n.start = lines.offset a.line a.extent.column := by
  cases a with
  | group parts => exact absurd h (by simp [extent?])
  | _ =>
    rw [lower]
    exact ⟨_, rfl, rfl⟩

/-- Are nodes those of what some arguments pass, one for each, in the order of their places? The sources of the nodes
are the values that are passed. -/
structure ArePassed (lines : SourceLines) (arguments sources : List Ast) (nodes : List Node) : Prop where
  perm : sources.Perm (arguments.map passedValue)
  lowered : List.Forall₂ (fun source n => lower lines false source = [n]) sources nodes
  inOrder : sources.Pairwise fun a b => startsBefore a.extent b.extent
  starts : nodes.Pairwise fun a b => a.start ≤ b.start

/-- What stands first in the text is on an earlier line, or on the same line no further along. -/
theorem startsBefore_iff {a b : Extent} :
    startsBefore a b = true ↔ a.line < b.line ∨ a.line = b.line ∧ a.column ≤ b.column := by
  simp [startsBefore]

/-- This is transitive. -/
theorem startsBefore_trans (a b c : Extent) (hab : startsBefore a b = true) (hbc : startsBefore b c = true) :
    startsBefore a c = true := by
  rw [startsBefore_iff] at *
  omega

/-- Of two pieces one stands first. -/
theorem startsBefore_total (a b : Extent) : (startsBefore a b || startsBefore b a) = true := by
  rw [Bool.or_eq_true, startsBefore_iff, startsBefore_iff]
  omega

/-- What starts earlier by its place starts earlier by its position. -/
theorem offset_le_of_startsBefore (text : List Char) {a b : Extent} (h : startsBefore a b = true) :
    (SourceLines.ofChars text).offset a.line a.column ≤ (SourceLines.ofChars text).offset b.line b.column :=
  SourceLines.offset_mono text (startsBefore_iff.mp h)

/-- Pieces of which each becomes one node become as many nodes, in their order. -/
theorem exists_forall₂_lower (lines : SourceLines) {sources : List Ast} (h : ∀ a ∈ sources, a.extent?.isSome) :
    ∃ nodes, sources.flatMap (lower lines false) = nodes ∧
      List.Forall₂ (fun source n => lower lines false source = [n]) sources nodes := by
  induction sources with
  | nil => exact ⟨[], rfl, .nil⟩
  | cons a rest ih =>
      rw [List.forall_mem_cons] at h
      obtain ⟨n, hn, -⟩ := exists_lower_eq_singleton lines false h.1
      obtain ⟨nodes, hnodes, hrest⟩ := ih h.2
      refine ⟨n :: nodes, ?_, .cons hn hrest⟩
      rw [List.flatMap_cons, hn, hnodes, List.singleton_append]

/-- Nodes in the order of the places of their sources are in the order of their positions. -/
theorem pairwise_start_of_forall₂ {text : List Char} {sources : List Ast} {nodes : List Node}
    (hlowered : List.Forall₂ (fun source n => lower (.ofChars text) false source = [n]) sources nodes)
    (hextents : ∀ a ∈ sources, a.extent?.isSome)
    (hsorted : sources.Pairwise fun a b => startsBefore a.extent b.extent) :
    nodes.Pairwise fun a b => a.start ≤ b.start := by
  have hstarts : sources.map (fun a => ((SourceLines.ofChars text).offset a.line a.extent.column : Int)) =
      nodes.map (·.start) := by
    rw [← List.forall₂_eq_eq_eq, List.forall₂_map_left_iff, List.forall₂_map_right_iff]
    refine (List.forall₂_iff_zip.mpr ⟨hlowered.length_eq, fun hmem => ?_⟩)
    obtain ⟨n, hn, hstart⟩ := exists_lower_eq_singleton (.ofChars text) false (hextents _ (List.of_mem_zip hmem).1)
    have hn' := (List.forall₂_iff_zip.mp hlowered).2 hmem
    rw [List.singleton_inj.mp (hn'.symm.trans hn), hstart]
  rw [← List.pairwise_map (f := Node.start), ← hstarts, List.pairwise_map]
  exact hsorted.imp fun h => Int.ofNat_le.mpr (offset_le_of_startsBefore text h)

/-- What arguments pass, in the order of its places. -/
def passedInOrder (as : List Ast) : List Ast :=
  (as.map passedValue).mergeSort fun a b => startsBefore a.extent b.extent

/-- Sorting what is passed loses nothing and adds nothing. -/
theorem passedInOrder_perm (as : List Ast) : (passedInOrder as).Perm (as.map passedValue) :=
  List.mergeSort_perm _ _

/-- Putting the nodes of arguments in order is putting the arguments in order. -/
theorem inOrder_lowerPassed (lines : SourceLines) (as : List Ast) :
    inOrder (lowerPassed lines as) = (passedInOrder as).flatMap (lower lines false) := by
  have hsort := List.map_mergeSort (r := fun a b : Ast => startsBefore a.extent b.extent)
    (s := fun a b : Extent × List Node => startsBefore a.1 b.1) (f := fun a => (a.extent, lower lines false a))
    (l := as.map passedValue) fun _ _ _ _ => rfl
  rw [inOrder, lowerPassed_eq, ← hsort, List.flatMap_map]
  rfl

/-- What a call passes becomes one node for each argument, in the order of the places. -/
theorem exists_arePassed (text : List Char) {as : List Ast} (h : ∀ a ∈ as, a.passedValue.extent?.isSome) :
    ∃ sources, ArePassed (.ofChars text) as sources (inOrder (lowerPassed (.ofChars text) as)) := by
  have hextents : ∀ a ∈ passedInOrder as, a.extent?.isSome := by
    intro a ha
    obtain ⟨b, hb, rfl⟩ := List.mem_map.mp ((passedInOrder_perm as).mem_iff.mp ha)
    exact h b hb
  have hsorted : (passedInOrder as).Pairwise fun a b => startsBefore a.extent b.extent :=
    List.pairwise_mergeSort (fun a b c : Ast => startsBefore_trans a.extent b.extent c.extent)
      (fun a b => startsBefore_total a.extent b.extent) (as.map passedValue)
  obtain ⟨nodes, hflat, hlowered⟩ := exists_forall₂_lower (.ofChars text) hextents
  rw [inOrder_lowerPassed, hflat]
  exact ⟨_, passedInOrder_perm as, hlowered, hsorted, pairwise_start_of_forall₂ hlowered hextents hsorted⟩

end Ast

/-! ## The numbers of what is passed

Numbering goes through the children from the first to the last and gives each of them a range. The range of a child
begins where that of the child before it ends. -/

namespace Node

variable {n called : Node} {passed passed' : List Node}

/-- Do the numbers of a call go first to itself, then to its callee and then to its arguments one after the other,
without a gap? -/
structure IsNumberedCallOf (n called : Node) (passed : List Node) : Prop extends n.IsCallOf called passed where
  first : called.index = n.index + 1
  adjacent : (called :: passed).IsChain fun a b => b.index = a.lastDescendant + 1
  disjoint : passed.Pairwise fun a b => Disjoint a.numbers b.numbers
  union : ⋃ a ∈ passed, a.numbers = n.numbers \ ({n.index} ∪ called.numbers)

/-- The ranges of the children of a numbered node follow each other without a gap. -/
theorem isChain_children_number (next : Nat) (n : Node) :
    (number next n).1.children.IsChain fun a b => b.index = a.lastDescendant + 1 := by
  rw [List.isChain_iff_getElem]
  intro position hposition
  have ha := List.getElem?_eq_getElem (Nat.lt_of_succ_lt hposition)
  have hb := List.getElem?_eq_getElem hposition
  rw [getElem?_number_children, Option.map_eq_some_iff] at ha hb
  obtain ⟨a, ha, ha'⟩ := ha
  obtain ⟨b, -, hb'⟩ := hb
  rw [← ha', ← hb', number_index, number_lastDescendant, childStart_succ ha]
  push_cast
  omega

/-- Numbering numbers what is called and what is passed in order. -/
theorem isNumberedCallOf_number (h : n.IsLinkedCall)
    (hchildren : n.children = called :: passed) (next : Nat) :
    (number next n).1.IsNumberedCallOf (number (next + 1) called).1
      (numberAll (next + 1 + called.size) passed).1 := by
  have hnumbered : (number next n).1.children =
      (number (next + 1) called).1 :: (numberAll (next + 1 + called.size) passed).1 := by
    simp only [number_children, hchildren, numberAll, number_snd]
  -- the numbers of the call are split among the callee and what is passed, in this order
  have hsplit := isSplit_number next n
  have hordered := hsplit.ordered
  rw [hnumbered, List.pairwise_cons] at hordered
  refine ⟨(h.number next).isCallOf hnumbered, ?_, ?_, ?_, ?_⟩
  · rw [number_index, number_index]
    push_cast
    rfl
  · rw [← hnumbered]
    exact isChain_children_number next n
  · refine hordered.2.imp fun hlt => Set.disjoint_left.mpr fun i hi hi' => ?_
    rw [numbers, Set.mem_Icc] at hi hi'
    omega
  · ext i
    have hunion := Set.ext_iff.mp hsplit.union i
    rw [hnumbered] at hunion
    simp only [Set.mem_iUnion, exists_prop, List.exists_mem_cons_iff, Set.mem_sdiff, Set.mem_singleton_iff] at hunion
    simp only [Set.mem_iUnion, exists_prop, Set.mem_sdiff, Set.mem_union, Set.mem_singleton_iff, not_or]
    rw [← and_assoc, ← hunion]
    -- no number of an argument is one of the callee
    have hbehind : ∀ a ∈ (numberAll (next + 1 + called.size) passed).1, i ∈ a.numbers →
        i ∉ (number (next + 1) called).1.numbers := by
      intro a ha hi hi'
      have hlt := hordered.1 a ha
      rw [numbers, Set.mem_Icc] at hi hi'
      omega
    constructor
    · rintro ⟨a, ha, hi⟩
      exact ⟨Or.inr ⟨a, ha, hi⟩, hbehind a ha hi⟩
    · rintro ⟨hcalled | hpassed, hnot⟩
      · exact absurd hcalled hnot
      · exact hpassed

/-! ## What is below a call

A frame holds ranges, and whether it holds the number of a node is told by the place of the node: it is below the call,
and the first step from the call is not to the first child. -/

/-- The number of a node is in the range of a subtree exactly if its place is below that of the subtree. -/
theorem index_mem_numbers_iff {root m : Node} {place place' : List Nat} (hn : root.at? place = some n)
    (hm : root.numbered.1.at? place' = some m) :
    m.index ∈ (number (root.numberOf place) n).1.numbers ↔ place <+: place' := by
  obtain ⟨a, ha, rfl⟩ := at?_numbered_eq_some_iff.mp hm
  rw [number_index, numbers_number, Set.mem_Ico, prefix_iff hn ha]
  omega

/-- A node of a numbered tree has the number of a place exactly if it stands there. -/
theorem index_eq_numberOf_iff {root m : Node} {place place' : List Nat} (hn : root.at? place = some n)
    (hm : root.numbered.1.at? place' = some m) : m.index = root.numberOf place ↔ place' = place := by
  obtain ⟨a, ha, rfl⟩ := at?_numbered_eq_some_iff.mp hm
  rw [number_index, Int.natCast_inj]
  constructor
  · exact eq_of_numberOf_eq ha hn
  · rintro rfl
    rfl

/-- The nodes whose numbers are in the ranges of what a call passes are those below it, apart from what is called and
what is below that. -/
theorem exists_passed_iff {root m : Node} {place place' : List Nat} (hn : root.at? place = some n)
    (hchildren : n.children = called :: passed)
    (hcall : (number (root.numberOf place) n).1.IsNumberedCallOf (number (root.numberOf place + 1) called).1 passed')
    (hm : root.numbered.1.at? place' = some m) :
    (∃ a ∈ passed', m.index ∈ a.numbers) ↔ place <+: place' ∧ place' ≠ place ∧ ¬place ++ [0] <+: place' := by
  have hcalled : root.at? (place ++ [0]) = some called := by
    rw [at?_append, hn, Option.bind_some, at?_cons, hchildren, List.getElem?_cons_zero, Option.bind_some, at?_nil]
  have hnumber : root.numberOf (place ++ [0]) = root.numberOf place + 1 := by
    have hfirst : n.children[0]? = some called := by rw [hchildren, List.getElem?_cons_zero]
    rw [numberOf_append hn, numberOf_cons hfirst]
    simp
  have hunion := Set.ext_iff.mp hcall.union m.index
  simp only [Set.mem_iUnion, exists_prop, Set.mem_sdiff, Set.mem_union, Set.mem_singleton_iff, not_or] at hunion
  rw [hunion, index_mem_numbers_iff hn hm, ← hnumber, index_mem_numbers_iff hcalled hm, number_index,
    index_eq_numberOf_iff hn hm]

/-- Some range of numbers holds an index exactly if it is the number of a node below one of the nodes. -/
theorem any_holds_iff (nodes : List Node) (index : Int) :
    (nodes.map numberRange).any (·.holds index) = true ↔ ∃ a ∈ nodes, index ∈ a.numbers := by
  simp only [List.any_map, List.any_eq_true, Function.comp_apply, NumberRange.holds, Bool.and_eq_true,
    decide_eq_true_eq]
  rfl

end Node

/-- Below a call of an exempt name a walk keeps the ranges of what is passed. If nothing is passed, it keeps none. -/
theorem visit_of_exemptsName (limits : BodyLimits) (file : SourceFile) {n : Node} (s : Surroundings)
    (hkind : n.kind = .callExpression) (hname : limits.exemptsName n.calleeName = true) :
    visit limits file n s =
      (visitAll limits file n.children (s.pushFrame (n.argumentNodes.map Node.numberRange))).map
        Surroundings.popFrame := by
  rw [visit_of_call limits file s hkind]
  by_cases hexempts : limits.exemptsCall n = true
  · rw [if_pos hexempts]
  · -- a call that passes nothing pushes no frame, which is the same as an empty one
    have hnone : n.arguments = [] := by
      simpa [BodyLimits.exemptsCall, hname] using hexempts
    have hframe : n.argumentNodes.map Node.numberRange = [] := by
      rw [Node.argumentNodes, hnone, List.filterMap_nil, List.map_nil]
    have hempty : (s.pushFrame []).isExempt = s.isExempt := by
      rw [Surroundings.isExempt_pushFrame]
      funext index
      rw [List.any_nil, Bool.false_or]
    have hvisit (s : Surroundings) := visitAll_eq_of_forall limits file n.children s fun child _ =>
      visit_eq limits file child
    rw [if_neg hexempts, hframe, hvisit, hvisit, hempty, map_map_eq]
    rfl

open Ast SourceLines in
/-- **A call passes its arguments in the order of the text, and exempts them and nothing else.** Let what is called and
what is passed have ranges, as expressions do. Then a call becomes one node whose children are the node of its callee
and one node for each argument, in the order of their places and so of their positions. Wherever this node stands in a
tree, the numbers of the arguments follow each other without a gap behind those of the callee. And if the name of what
is called is exempt, a walk keeps a frame below the call that holds exactly the nodes below the call that are neither
the callee nor below it. -/
theorem call_passes_in_order (text : List Char) (isMember : Bool) (extent : Extent) {callee : Ast}
    {arguments keywords : List Ast} (hcallee : callee.extent?.isSome)
    (hpassed : ∀ a ∈ arguments ++ keywords, a.passedValue.extent?.isSome) :
    ∃ n called sources passed,
      lower (ofChars text) isMember (.call extent callee arguments keywords) = [n] ∧
      lower (ofChars text) false callee = [called] ∧ n.IsCallOf called passed ∧
      ArePassed (ofChars text) (arguments ++ keywords) sources passed ∧
      ∀ (root : Node) (place : List Nat), root.at? place = some n →
        ∃ numbered called' passed', root.numbered.1.at? place = some numbered ∧
          numbered.unnumbered = n.unnumbered ∧ numbered.IsNumberedCallOf called' passed' ∧
          ∀ limits : BodyLimits, limits.exemptsName numbered.calleeName →
            ∃ frame : List NumberRange,
              (∀ file s, visit limits file numbered s =
                (visitAll limits file numbered.children (s.pushFrame frame)).map Surroundings.popFrame) ∧
              ∀ place' m, root.numbered.1.at? place' = some m →
                (frame.any (·.holds m.index) ↔ place <+: place' ∧ place' ≠ place ∧ ¬place ++ [0] <+: place') := by
  obtain ⟨called, hcalled, -⟩ := exists_lower_eq_singleton (ofChars text) false hcallee
  obtain ⟨sources, hsources⟩ := exists_arePassed text hpassed
  -- the node of the call is made of the callee and the sorted arguments
  have hlower : lower (ofChars text) isMember (.call extent callee arguments keywords) =
      [callNode (span (ofChars text) extent) [called] (inOrder (lowerPassed (ofChars text) (arguments ++ keywords)))] := by
    rw [lower, hcalled, lowerPassed_append]
  have hlinked := Node.isLinkedCall_callNode (span (ofChars text) extent) called
    (inOrder (lowerPassed (ofChars text) (arguments ++ keywords)))
  refine ⟨_, called, sources, _, hlower, hcalled, hlinked.isCallOf rfl, hsources, ?_⟩
  intro root place hplace
  -- numbering leaves the links as they are, so the numbered node is a call of the same form
  have hnumbered := Node.isNumberedCallOf_number hlinked rfl (root.numberOf place)
  refine ⟨_, _, _, Node.at?_numbered_eq_some_iff.mpr ⟨_, hplace, rfl⟩, Node.unnumbered_number _ _, hnumbered, ?_⟩
  intro limits hname
  refine ⟨_, fun file s => visit_of_exemptsName limits file s hnumbered.kind hname, ?_⟩
  intro place' m hm
  rw [Node.any_holds_iff, hnumbered.arguments]
  exact Node.exists_passed_iff hplace rfl hnumbered hm

/-! ## A call with all sorts of arguments -/

open Ast SourceLines

/-- A call with a keyword, an unpacked sequence and an unpacked mapping, in this order. -/
def mixedArguments : String :=
  "f(a=lambda: g(1), *rest, **kw)\n"

/-- What the call passes without a keyword. -/
def mixedPositional : List Ast :=
  [.construct ⟨1, 18, 1, 23⟩ .starred [.name ⟨1, 19, 1, 23⟩ "rest"]]

/-- What it passes with a keyword or by unpacking a mapping. -/
def mixedKeywords : List Ast :=
  [.keyword ⟨1, 2, 1, 16⟩ false (.lambda ⟨1, 4, 1, 16⟩ []
    (.call ⟨1, 12, 1, 16⟩ (.name ⟨1, 12, 1, 13⟩ "g") [.construct ⟨1, 14, 1, 15⟩ .plain []] [])),
    .keyword ⟨1, 25, 1, 29⟩ true (.name ⟨1, 27, 1, 29⟩ "kw")]

/-- The call that the text is read as. -/
def mixedCall : Ast :=
  .call ⟨1, 0, 1, 30⟩ (.name ⟨1, 0, 1, 1⟩ "f") mixedPositional mixedKeywords

/-- Calls of `f` are exempt. -/
def exemptingOptions : List Value :=
  [.mapping [(.text exemptKey, .text "^f$")]]

/-- The node of the call, with its numbers. -/
theorem calleeName_and_ranges_mixedCall :
    ((root (ofChars mixedArguments.toList) [mixedCall]).numbered.1.at? [0]).map
      (fun n => (n.calleeName, n.argumentNodes.map Node.numberRange)) = some ("f", [⟨3, 6⟩, ⟨7, 8⟩, ⟨9, 9⟩]) := by
  simp [mixedCall, mixedPositional, mixedKeywords, root, lower, lowerAll, lowerPassed, inOrder, List.mergeSort,
    List.MergeSort.Internal.splitInTwo, startsBefore, callNode, node, extent, extent?, Node.numbered, Node.number,
    Node.numberAll, Node.calleeName, Node.calleeNode?, Node.argumentNodes, Node.resolve?, Node.numberRange,
    List.range_succ]

/-- The lambda is the first of what is passed. It is exempt together with the call below it, as are the two names, and
the name that is called is not. -/
theorem mixedCall_passes_in_order :
    ∃ n called passed limits, (root (ofChars mixedArguments.toList) [mixedCall]).numbered.1.at? [0] = some n ∧
      n.IsNumberedCallOf called passed ∧ passed.map Node.numberRange = [⟨3, 6⟩, ⟨7, 8⟩, ⟨9, 9⟩] ∧
      BodyLimits.ofValues exemptingOptions = .ok limits ∧
      ∃ frame : List NumberRange,
        (∀ file s, visit limits file n s = (visitAll limits file n.children (s.pushFrame frame)).map
          Surroundings.popFrame) ∧
        ∀ place m, (root (ofChars mixedArguments.toList) [mixedCall]).numbered.1.at? place = some m →
          (frame.any (·.holds m.index) ↔ [0] <+: place ∧ place ≠ [0] ∧ ¬[0, 0] <+: place) := by
  have hpassed : ∀ a ∈ mixedPositional ++ mixedKeywords, a.passedValue.extent?.isSome := by
    simp [mixedPositional, mixedKeywords, passedValue, extent?]
  obtain ⟨call, called, sources, passed, hlower, -, -, -, hnumbers⟩ :=
    @call_passes_in_order mixedArguments.toList false ⟨1, 0, 1, 30⟩ (.name ⟨1, 0, 1, 1⟩ "f") mixedPositional
      mixedKeywords rfl hpassed
  -- the call is the only node below the root
  have hplace : (root (ofChars mixedArguments.toList) [mixedCall]).at? [0] = some call := by
    have hchildren : (root (ofChars mixedArguments.toList) [mixedCall]).children = [call] := by
      rw [root, node, lowerAll, lowerAll, List.append_nil]
      exact hlower
    rw [Node.at?_cons, hchildren]
    rfl
  obtain ⟨n, called', passed', hn, -, hcall, hexempts⟩ := hnumbers _ [0] hplace
  have hnode := calleeName_and_ranges_mixedCall
  rw [hn, Option.map_some, Option.some.injEq, Prod.mk.injEq, hcall.arguments] at hnode
  -- the pattern is compiled and tried on the name of the callee by evaluation
  have hread : (BodyLimits.ofValues exemptingOptions).toOption.map (·.exemptsName "f") = some true := by
    decide +kernel
  obtain ⟨limits, hlimits, hname⟩ := Option.map_eq_some_iff.mp hread
  refine ⟨n, called', passed', limits, hn, hcall, hnode.2, toOption_eq_some_iff.mp hlimits, ?_⟩
  exact hexempts limits (by rw [hnode.1, hname])

end BodyLength
