import BodyLength.Lint.Frontend
import BodyLength.Proofs.Limits.Walk
import BodyLength.Proofs.Number.Writable
import BodyLength.Proofs.Tree.Documents
import BodyLength.Proofs.Tree.Numbering
import BodyLength.Proofs.Tree.References

/-!
# What is reported

A walk decides by numbers on a stack whether a node is exempt, and by the top of another stack in which class it
stands. This module says the same without a walk, a stack or a number, by the nodes around a place:

* `Node.ExemptAt`: on the way to the place some call with an exempt name is left through one of its arguments.
* `Node.classNameAt`: the name of the last class on the way to the place.
* `SourceFile.ReportsAt`: the node at the place has a kind with a body, is not exempt, and is over its limit.

`SourceFile.reported` are the places where this holds, in order. The check of a file lists the failures of just these,
for every tree in which calls pass children of their own and for all limits, as long as each failure can be put into
words. A limit far below zero may have too many digits for that, and then the check comes to nothing.

* `flagged_ofTree`: the walk flags the nodes at these places, each within the innermost class around it.
* `check_lists_reports_iff`: the check lists the reports exactly if all of them can be worded.
* `loaded_reports`: so it is with every file that a frontend makes a tree of.
-/

namespace BodyLength

/-! ## Around a place

What stands around a place are the nodes at the beginnings of it. A node is exempt because of a call on the way if the
way leaves the call through a child that the call passes. This can be said with positions, since what a call passes are
children of its own. -/

/-- Is a reference the one to the child at a position? -/
def Ref.isChild {α : Type} (position : Nat) : Ref α → Bool
  | .child found => found == position
  | .detached _ => false

/-- A reference that is within some number of children is to one of them. -/
theorem Ref.IsWithin.exists_eq_child {α : Type} {count : Nat} {r : Ref α} (h : r.IsWithin count) :
    ∃ position, r = .child position := by
  cases r with
  | child position => exact ⟨position, rfl⟩
  | detached n => exact h.elim

@[simp] theorem Ref.isChild_iff {α : Type} {position : Nat} {r : Ref α} :
    r.isChild position = true ↔ r = .child position := by
  cases r <;> simp [Ref.isChild]

namespace Node

/-- Does an argument of an exempt call hold the node at a place? The call stands on the way to the place, and the
way goes on through a child that the call passes. -/
def ExemptAt (limits : BodyLimits) (root : Node) (place : List Nat) : Prop :=
  ∃ depth position call, place[depth]? = some position ∧ root.at? (place.take depth) = some call ∧
    call.kind = .callExpression ∧ limits.exemptsName call.calleeName = true ∧
    Ref.child position ∈ call.arguments

/-- The name of the innermost class around a place, or the given one where there is none. -/
def classNameWithin (className : String) (root : Node) (place : List Nat) : String :=
  match ((root.around place).filter fun n => n.kind == .classDeclaration).getLast? with
  | none => className
  | some innermost => innermost.name.getD ""

/-- The name of the innermost class around a place, and no name where there is none. -/
def classNameAt (root : Node) (place : List Nat) : String :=
  root.classNameWithin "" place

/-! ## Exemption step by step

On the way down it is decided at each step whether the next child is exempt. What is exempt stays so, and a step from
an exempt call through an argument exempts all that is below. -/

/-- Is the child at a position exempt because of its parent? -/
def exemptsChild (limits : BodyLimits) (n : Node) (position : Nat) : Bool :=
  n.kind == .callExpression && limits.exemptsName n.calleeName && n.arguments.any (·.isChild position)

/-- Is a place exempt, as it turns out on the way there? -/
def isExemptAt (limits : BodyLimits) : Node → List Nat → Bool
  | _, [] => false
  | n, position :: rest =>
    n.exemptsChild limits position ||
      n.children[position]?.any fun child => isExemptAt limits child rest

/-- A child is exempt by its parent exactly if that is a call with an exempt name which passes the child. -/
theorem exemptsChild_iff {limits : BodyLimits} {n : Node} {position : Nat} :
    n.exemptsChild limits position = true ↔
      n.kind = .callExpression ∧ limits.exemptsName n.calleeName = true ∧
        Ref.child position ∈ n.arguments := by
  simp [exemptsChild, and_assoc]

/-- The way to a place decides whether it is exempt. -/
theorem isExemptAt_iff {limits : BodyLimits} {n : Node} {place : List Nat} :
    n.isExemptAt limits place = true ↔ n.ExemptAt limits place := by
  -- the call that exempts is at the root of the place, or further down in the child that leads to it
  induction place generalizing n with
  | nil => simp [isExemptAt, ExemptAt]
  | cons position rest ih =>
      simp only [isExemptAt, Bool.or_eq_true, exemptsChild_iff, Option.any_eq_true, ih]
      constructor
      · rintro (⟨hkind, hname, hargument⟩ | ⟨child, hchild, depth, inner, call, hinner, hcall, hrest⟩)
        · exact ⟨0, position, n, rfl, rfl, hkind, hname, hargument⟩
        · refine ⟨depth + 1, inner, call, by simpa using hinner, ?_, hrest⟩
          simpa [hchild] using hcall
      · rintro ⟨depth, inner, call, hinner, hcall, hkind, hname, hargument⟩
        cases depth with
        | zero =>
            simp only [List.getElem?_cons_zero, Option.some.injEq] at hinner
            simp only [List.take_zero, at?_nil, Option.some.injEq] at hcall
            subst hinner hcall
            exact Or.inl ⟨hkind, hname, hargument⟩
        | succ depth =>
            rw [List.take_succ_cons, at?_cons, Option.bind_eq_some_iff] at hcall
            obtain ⟨child, hchild, hcall⟩ := hcall
            exact Or.inr ⟨child, hchild, depth, inner, call, by simpa using hinner, hcall, hkind, hname,
              hargument⟩

instance (limits : BodyLimits) (n : Node) (place : List Nat) : Decidable (n.ExemptAt limits place) :=
  decidable_of_iff _ isExemptAt_iff

/-- Below a child the innermost class is looked for with the parent as the one to fall back on. -/
theorem classNameWithin_cons {n child : Node} {position : Nat} (h : n.children[position]? = some child)
    (className : String) (rest : List Nat) :
    n.classNameWithin className (position :: rest) =
      child.classNameWithin (n.classNameBelow className) rest := by
  unfold classNameWithin classNameBelow
  rw [around_cons h, List.filter_cons]
  by_cases hclass : n.kind = .classDeclaration
  · rw [if_pos (by simpa using hclass), if_pos hclass, List.getLast?_cons]
    cases hlast : ((child.around rest).filter fun n => n.kind == .classDeclaration).getLast? with
    | none => simp
    | some innermost => simp
  · rw [if_neg (by simpa using hclass), if_neg hclass]

end Node

/-! ## Reports by place

The places of a tree come in order, and each of them has at most one report. So the reports are a list that is known by
its members alone. -/

namespace SourceFile

/-- Is something reported at a place with a node? The node has a kind with a body, no argument of an exempt call
holds it, and its kind has a limit that the length of its body is over. -/
def ReportsAt (file : SourceFile) (limits : BodyLimits) (place : List Nat) (n : Node) : Prop :=
  n.isFunctionLike = true ∧ ¬ file.root.ExemptAt limits place ∧
    ∃ limit, limits.maxLengthFor n.kind = .ok (some limit) ∧ limit.isBelow (file.bodyLength n) = true

/-- The failure that is reported at a place with a node. -/
def reportAt (file : SourceFile) (limits : BodyLimits) (place : List Nat) (n : Node) : Failure where
  rule := ruleName
  file := file.filename
  start := n.start
  stop := n.stop
  line := (file.lineMap.position n.start).1
  column := (file.lineMap.position n.start).2
  message := n.failureMessage (file.root.classNameAt place) (file.bodyLength n) (limits.maxLength n.kind)
  length := file.bodyLength n

/-- Whether something is to be reported at a place can be computed. -/
theorem reportsAt_iff {file : SourceFile} {limits : BodyLimits} {place : List Nat} {n : Node} :
    file.ReportsAt limits place n ↔
      (!file.root.isExemptAt limits place && file.isOverLimit limits n) = true := by
  unfold ReportsAt isOverLimit Node.isFunctionLike
  rw [← Node.isExemptAt_iff]
  by_cases hbody : n.kind.isFunctionLike = true
  · rw [BodyLimits.maxLengthFor_eq_ok hbody]
    cases hlimit : limits.maxLength n.kind with
    | none => simp [BodyLimits.exceeds]
    | some limit => simp [BodyLimits.exceeds, hbody]
  · simp [hbody]

instance (file : SourceFile) (limits : BodyLimits) (place : List Nat) (n : Node) :
    Decidable (file.ReportsAt limits place n) :=
  decidable_of_iff _ reportsAt_iff.symm

/-- The places of a file where something is reported, in order, each with the node there. -/
def reported (file : SourceFile) (limits : BodyLimits) : List (List Nat × Node) :=
  file.root.places.filterMap fun place =>
    (file.root.at? place).bind fun n =>
      if file.ReportsAt limits place n then some (place, n) else none

/-- The list of reports has exactly the places where something is to be reported, with the nodes there. -/
theorem mem_reported_iff {file : SourceFile} {limits : BodyLimits} {place : List Nat} {n : Node} :
    (place, n) ∈ file.reported limits ↔ file.root.at? place = some n ∧ file.ReportsAt limits place n := by
  simp only [reported, List.mem_filterMap, Option.bind_eq_some_iff, Option.ite_none_right_eq_some,
    Option.some.injEq, Prod.mk.injEq]
  constructor
  · rintro ⟨_, -, _, hn, hreports, rfl, rfl⟩
    exact ⟨hn, hreports⟩
  · rintro ⟨hn, hreports⟩
    exact ⟨place, (Node.mem_places_iff _ _).mpr (by simp [hn]), n, hn, hreports, rfl, rfl⟩

/-- The reports come in the order of their places, and no place has two of them. -/
theorem reported_pairwise_lt (file : SourceFile) (limits : BodyLimits) :
    ((file.reported limits).map Prod.fst).Pairwise (· < ·) := by
  unfold reported
  rw [List.pairwise_map, List.pairwise_filterMap]
  refine file.root.places_pairwise_lt.imp fun hlt a ha b hb => ?_
  simp only [Option.bind_eq_some_iff, Option.ite_none_right_eq_some, Option.some.injEq] at ha hb
  obtain ⟨_, -, -, rfl⟩ := ha
  obtain ⟨_, -, -, rfl⟩ := hb
  exact hlt

end SourceFile

/-! ## The walk by places

The walk looks at numbers, and they are compared with places child by child. Below a child of a numbered node, the
number of a node is in the range of an argument exactly if the argument is this child. So the stacks of the walk matter
for a subtree only as far as they exempt all of it or nothing of it, and this is what the induction over the tree is
on. -/

variable (limits : BodyLimits) (file : SourceFile)

/-- What is flagged at a place below `n`, given whether `n` is exempt and in which class it stands. -/
def Node.flaggedAt (isExempt : Bool) (className : String) (n : Node) (place : List Nat) : List (Node × String) :=
  ((n.at? place).map fun m =>
    m.ownFlagged limits file (n.classNameWithin className place) (isExempt || n.isExemptAt limits place)).getD []

/-- Below a child it is the child's exemption and the child's class that count. -/
theorem Node.flaggedAt_cons {n child : Node} {position : Nat} (h : n.children[position]? = some child)
    (isExempt : Bool) (className : String) (rest : List Nat) :
    n.flaggedAt limits file isExempt className (position :: rest) =
      child.flaggedAt limits file (isExempt || n.exemptsChild limits position)
        (n.classNameBelow className) rest := by
  unfold Node.flaggedAt
  rw [Node.at?_cons, h, Option.bind_some, Node.classNameWithin_cons h]
  simp [Node.isExemptAt, h, Bool.or_assoc]

/-- A number below a numbered node is in the range of an argument exactly if it belongs to a child that is passed.
The ranges of different children have no number in common. -/
theorem Node.any_holds_eq {next : Nat} {n child : Node} {position i : Nat}
    (hpasses : n.PassesOwnChildren) (hchild : n.children[position]? = some child)
    (hfirst : next + 1 + childStart n.children position ≤ i)
    (hlast : i < next + 1 + childStart n.children position + child.size) :
    ((number next n).1.argumentNodes.map numberRange).any (·.holds i) =
      (number next n).1.arguments.any (·.isChild position) := by
  rw [Bool.eq_iff_iff, List.any_eq_true, List.any_eq_true]
  simp only [List.mem_map, argumentNodes, List.mem_filterMap, Ref.isChild_iff, number_arguments]
  -- the argument that holds the number is at the same position, since the ranges of the children do not meet
  constructor
  · rintro ⟨_, ⟨m, ⟨r, hr, hm⟩, rfl⟩, hholds⟩
    obtain ⟨found, rfl⟩ := (hpasses r hr).exists_eq_child
    refine ⟨_, hr, ?_⟩
    rw [resolve?, getElem?_number_children, Option.map_eq_some_iff] at hm
    obtain ⟨other, hother, rfl⟩ := hm
    simp only [numberRange, NumberRange.holds, number_index, number_lastDescendant, Bool.and_eq_true,
      decide_eq_true_eq] at hholds
    have hsame : found = position :=
      eq_of_number_mem (i - (next + 1)) hother hchild (by omega) (by omega) (by omega)
        (by omega)
    rw [hsame]
  · rintro ⟨_, hr, rfl⟩
    refine ⟨_, ⟨(number (next + 1 + childStart n.children position) child).1, ⟨_, hr, ?_⟩, rfl⟩, ?_⟩
    · rw [resolve?, getElem?_number_children, hchild, Option.map_some]
    · simp only [numberRange, NumberRange.holds, number_index, number_lastDescendant, Bool.and_eq_true,
        decide_eq_true_eq]
      omega

/-- Where all numbers of a subtree are exempt from above or none is, the numbers of a child's subtree are exempt if
they were before or if the parent passes that child to an exempt call. -/
theorem Node.exemptBelow_eq {next : Nat} {n child : Node} {position i : Nat} {isExempt : Int → Bool}
    {fromAbove : Bool} (hpasses : n.kind = .callExpression → n.PassesOwnChildren)
    (hchild : n.children[position]? = some child) (habove : isExempt i = fromAbove)
    (hfirst : next + 1 + childStart n.children position ≤ i)
    (hlast : i < next + 1 + childStart n.children position + child.size) :
    limits.exemptBelow (number next n).1 isExempt i =
      (fromAbove || (number next n).1.exemptsChild limits position) := by
  unfold BodyLimits.exemptBelow BodyLimits.exemptsNode BodyLimits.exemptsCall exemptsChild
  rw [habove, Bool.or_comm]
  congr 1
  by_cases hcall : n.kind = .callExpression
  · rw [any_holds_eq (hpasses hcall) hchild hfirst hlast]
    -- a call that passes a child passes something
    cases hany : (number next n).1.arguments.any (·.isChild position) with
    | false => simp
    | true =>
        have hsome : (number next n).1.arguments.isEmpty = false := by
          obtain ⟨r, hr, -⟩ := List.any_eq_true.mp hany
          rw [List.isEmpty_eq_false_iff]
          exact List.ne_nil_of_mem hr
        simp only [hsome, Bool.not_false, Bool.and_true]
  · have hkind : ((number next n).1.kind == .callExpression) = false := by simpa using hcall
    simp only [hkind, Bool.false_and]

/-- What is flagged in the last children of a node is flagged at the places that lead through them. -/
theorem Node.flatMap_flagged_eq {root : Node} {position : Nat} {children : List Node}
    {isExempt : Int → Bool} {fromAbove : Bool} {className : String}
    (hroot : root.children.drop position = children)
    (h : ∀ (p : Nat) (child : Node), root.children[p]? = some child →
      child.flagged limits file isExempt (root.classNameBelow className) =
        child.places.flatMap (child.flaggedAt limits file (fromAbove || root.exemptsChild limits p)
          (root.classNameBelow className))) :
    children.flatMap (Node.flagged limits file isExempt (root.classNameBelow className)) =
      (placesAll position children).flatMap (root.flaggedAt limits file fromAbove className) := by
  induction children generalizing position with
  | nil => simp [placesAll]
  | cons child more ih =>
      have hchild : root.children[position]? = some child := by
        rw [← List.head?_drop, hroot, List.head?_cons]
      have hmore : root.children.drop (position + 1) = more := by
        rw [← List.drop_drop, hroot, List.drop_one, List.tail_cons]
      rw [List.flatMap_cons, placesAll, List.flatMap_append, ih hmore, h position child hchild,
        List.flatMap_map]
      congr 1
      apply List.flatMap_congr
      intro place _
      rw [flaggedAt_cons limits file hchild]

/-- What is flagged in a numbered subtree is flagged at its places. The stacks enter only as far as they exempt all
of the subtree or nothing of it, and by the name of the class on top. -/
theorem Node.flagged_number_eq (n : Node) (next : Nat) (isExempt : Int → Bool) (fromAbove : Bool)
    (className : String)
    (hpasses : ∀ m ∈ n.preorder, m.kind = .callExpression → m.PassesOwnChildren)
    (habove : ∀ i : Nat, next ≤ i → i < next + n.size → isExempt i = fromAbove) :
    (number next n).1.flagged limits file isExempt className =
      (number next n).1.places.flatMap ((number next n).1.flaggedAt limits file fromAbove className) := by
  induction n using Node.induction generalizing next isExempt fromAbove className with
  | step n ih =>
      rw [flagged_eq, places_eq, List.flatMap_cons, number_index,
        habove next (Nat.le_refl _) (Nat.lt_add_of_pos_right n.size_pos)]
      congr 1
      · simp [flaggedAt, isExemptAt, classNameWithin]
      · apply flatMap_flagged_eq limits file (List.drop_zero ..)
        intro position child hchild
        rw [getElem?_number_children, Option.map_eq_some_iff] at hchild
        obtain ⟨child, hchild, rfl⟩ := hchild
        have hmem := List.mem_of_getElem? hchild
        apply ih child hmem _ _ _ _ (fun m hm => hpasses m (mem_preorder_of_mem_child hmem hm))
        -- the numbers of the child lie behind those of the children before it
        intro i hfirst hlast
        have hend := childStart_add_size_le hchild
        have hsize := n.size_eq
        exact exemptBelow_eq limits (hpasses n n.self_mem_preorder) hchild
          (habove i (by omega) (by omega)) hfirst hlast

namespace SourceFile

/-- At the root nothing is exempt from above and there is no class around. -/
theorem flaggedAt_root (place : List Nat) :
    file.root.flaggedAt limits file false "" place =
      (((file.root.at? place).bind fun n =>
        if file.ReportsAt limits place n then some (place, n) else none).map fun report =>
          (report.2, file.root.classNameAt report.1)).toList := by
  unfold Node.flaggedAt
  cases hn : file.root.at? place with
  | none => rfl
  | some n =>
      simp only [Option.bind_some, Option.map_some, Option.getD_some, Bool.false_or, Node.ownFlagged_eq, reportsAt_iff]
      split <;> rfl

/-- The walk over a file flags what is reported at its places, in order. -/
theorem flagged_ofTree (filename text : String) {root : Node}
    (hpasses : ∀ n ∈ root.preorder, n.kind = .callExpression → n.PassesOwnChildren) :
    (ofTree filename text root).flagged limits =
      ((ofTree filename text root).reported limits).map fun report =>
        (report.2, (ofTree filename text root).root.classNameAt report.1) := by
  have hplaces := root.flagged_number_eq limits (ofTree filename text root) 0 (fun _ => false) false "" hpasses
    fun _ _ _ => rfl
  rw [reported, List.map_filterMap, List.filterMap_eq_flatMap_toList]
  simp only [← flaggedAt_root]
  exact hplaces

/-! ## The check by places

The check goes through what is flagged and puts each failure into words. It fails at the first that it cannot, and then
lists none. -/

/-- Are these the reports of a file, each a place and the node there? They come in the order of their places, no place
has two of them, and every place where something is to be reported has one. -/
structure AreReports (file : SourceFile) (limits : BodyLimits) (reports : List (List Nat × Node)) : Prop where
  inOrder : (reports.map Prod.fst).Pairwise (· < ·)
  mem_iff : ∀ place n, (place, n) ∈ reports ↔ file.root.at? place = some n ∧ file.ReportsAt limits place n

/-- Can what is reported of a node be put into words? The limit in force for its kind and the length of its body both
have to be short enough to be written out. -/
def CanReport (file : SourceFile) (limits : BodyLimits) (n : Node) : Prop :=
  limits.WritesLimit n.kind ∧ (Number.whole (file.bodyLength n)).isWritable = true

variable {limits file}

/-- What can be reported of a function can be worded, and the other way about. -/
theorem canReport_iff {n : Node} (hkind : n.kind.isFunctionLike = true) :
    file.CanReport limits n ↔ file.canWord limits n = true := by
  rw [CanReport, BodyLimits.writesLimit_iff hkind, canWord, areWritable, Bool.and_eq_true]

variable (limits) in
/-- What there is to report of a file, and what the check of it comes to. -/
theorem exists_reports {filename text : String} {root : Node}
    (hpasses : ∀ n ∈ root.preorder, n.kind = .callExpression → n.PassesOwnChildren)
    (hfile : file = ofTree filename text root) :
    ∃ reports, file.AreReports limits reports ∧
      (file.check limits = .ok (reports.map fun report => file.reportAt limits report.1 report.2) ↔
        ∀ report ∈ reports, file.CanReport limits report.2) ∧
      ((¬ ∀ report ∈ reports, file.CanReport limits report.2) → file.check limits = .error (.abort .longInteger)) := by
  subst hfile
  have hflagged := flagged_ofTree limits filename text hpasses
  -- the functions that are flagged can be worded exactly if the reports can
  have hwords : (∀ m ∈ (ofTree filename text root).flagged limits, (ofTree filename text root).canWord limits m.1 = true) ↔
      ∀ report ∈ (ofTree filename text root).reported limits, (ofTree filename text root).CanReport limits report.2 := by
    rw [hflagged, List.forall_mem_map]
    refine forall₂_congr fun report hreport => ?_
    exact (canReport_iff (mem_reported_iff.mp hreport).2.1).symm
  refine ⟨_, ⟨reported_pairwise_lt _ limits, fun _ _ => mem_reported_iff⟩, ?_, fun hnot => ?_⟩
  · rw [check_eq, worded_eq_ok_iff, hwords, hflagged, List.map_map]
    exact and_iff_left rfl
  · rw [check_eq, worded_of_not_all fun hall => hnot (hwords.mp hall)]

end SourceFile

/-! ## A suite

A call with an exempt name that passes a function with a further call in it, a function within its callee, and behind
it a class with a constructor of its own and one of a class without a name. -/

/-- A node of the suite. All bodies reach over the whole text. -/
def suiteNode (kind : Kind) (start : Int) (name : Option String) (children : List Node) : Node :=
  ⟨kind, start, 3, name, if kind.isFunctionLike then some ⟨0, 3⟩ else none, children, none, [], -1, -1⟩

/-- A call of the suite that passes its second child. -/
def suiteCall (start : Int) (callee argument : Node) : Node :=
  ⟨.callExpression, start, 3, none, none, [callee, argument], some (.child 0), [.child 1], -1, -1⟩

/-- The tree of the suite. -/
def suiteRoot : Node :=
  suiteNode .sourceFile 0 none
    [suiteCall 0 (suiteNode .propertyAccess 0 (some "it") [suiteNode .arrowFunction 1 none []])
      (suiteNode .arrowFunction 2 none
        [suiteCall 2 (suiteNode .identifier 2 (some "run") []) (suiteNode .methodDeclaration 2 none [])]),
    suiteNode .classDeclaration 2 (some "K")
      [suiteNode .constructorDeclaration 2 none [],
        suiteNode .classDeclaration 3 none [suiteNode .constructorDeclaration 3 none []]]]

/-- A limit of two line endings for all kinds, and the calls of `it` exempt. -/
def suiteLimits : BodyLimits :=
  ⟨some (.whole 2), none, some ⟨"it", default, [.code default 105, .code default 116], 0⟩⟩

/-- What the check of the suite lists: the function within the callee and both constructors. -/
def suiteFailures : List Failure :=
  [⟨ruleName, "suite.ts", 1, 3, 1, 0, "Max arrow function body length exceeded - max: 2, actual: 3", 3⟩,
    ⟨ruleName, "suite.ts", 2, 3, 2, 0,
      "Max constructor body length exceeded in class K - max: 2, actual: 3", 3⟩,
    ⟨ruleName, "suite.ts", 3, 3, 3, 0,
      "Max constructor body length exceeded in class  - max: 2, actual: 3", 3⟩]

/-- Every file that a frontend makes a tree of is checked as its reports say: both frontends let calls pass children of
their own. -/
theorem loaded_reports {frontend : Frontend} {tree : Entry} {path : String} {file : SourceFile}
    (h : frontend.load tree path = .ok file) (limits : BodyLimits) :
    ∃ reports, file.AreReports limits reports ∧
      (file.check limits = .ok (reports.map fun report => file.reportAt limits report.1 report.2) ↔
        ∀ report ∈ reports, file.CanReport limits report.2) ∧
      ((¬ ∀ report ∈ reports, file.CanReport limits report.2) → file.check limits = .error (.abort .longInteger)) := by
  obtain ⟨bytes, -, hparse⟩ := bind_eq_ok_iff.mp h
  rw [mapError_eq_ok_iff] at hparse
  have hclosed : ∃ filename text root, root.IsClosed ∧ file = .ofTree filename text root := by
    cases frontend with
    | sourceCode => exact SourceFile.exists_closed_of_ofSource (mapError_eq_ok_iff.mp hparse)
    | treeDocument => exact SourceFile.exists_closed_of_ofDocumentBytes hparse
  obtain ⟨filename, text, root, hclosed, hfile⟩ := hclosed
  exact SourceFile.exists_reports limits (fun n hn _ => hclosed.passesOwnChildren n hn) hfile

end BodyLength
