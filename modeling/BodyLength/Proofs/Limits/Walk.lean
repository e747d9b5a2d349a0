import BodyLength.Limits.Check
import BodyLength.Proofs.Outcome
import BodyLength.Proofs.Tree.Numbering
import BodyLength.Proofs.Tree.Places
import Mathlib.Data.List.Flatten

/-!
# What a walk adds

The walk over a tree carries stacks along and may, as far as its type goes, end in an error at any node. This module
says what it comes to without either:

* `Node.measured`: the functions of a subtree that no exempt call holds, each with the name of the innermost class. The
  stacks enter only by what can be seen of them at a node, the set of the exempt numbers and the name on top. Both are
  handed down the tree, changed by calls and classes, and nothing is taken back, so the pushing and popping is gone.
* `Node.flagged`: those of them whose bodies are over their limits.
* `SourceFile.worded`: the failures of the flagged functions, or the end of the run if one of them has no wording.
* `visit_eq`: from any surroundings the walk of a node leaves both stacks as they were and appends these failures.

The errors that the walk allows for never come about, since they are those of a kind without a body.
`Surroundings.measure` is reached for the kinds with a body alone, and there every look-up has an answer
(`Kind.bodyLabel_eq_ok`, `BodyLimits.maxLengthFor_eq_ok`). What does come about is a limit that is an integer with too
many digits to be written out, since a limit may be as far below zero as one likes. Where such a limit has to go into a
message the walk ends, whatever it has found so far.
-/

namespace BodyLength

/-! ## Wording -/

/-- What a kind with a body is called; the other kinds are called nothing. -/
def Kind.bodyWord : Kind → String
  | .functionDeclaration => "function"
  | .methodDeclaration => "method"
  | .arrowFunction => "arrow function"
  | .constructorDeclaration => "constructor"
  | _ => ""

/-- Every kind with a body has a label. -/
theorem Kind.bodyLabel_eq_ok {kind : Kind} (h : kind.isFunctionLike = true) :
    kind.bodyLabel = .ok kind.bodyWord := by
  cases kind <;> first | rfl | exact absurd h (by decide)

/-- A limit in words, be it as long as it may. -/
def limitWords : Option Number → String
  | none => "None"
  | some limit => limit.plain

/-- What is said about a body of a kind that may have one. -/
def Node.failureMessage (n : Node) (className : String) (length : Int) (limit : Option Number) : String :=
  "Max " ++ n.kind.bodyWord ++ " body length exceeded" ++ n.placeText className ++ " - max: " ++
    limitWords limit ++ ", actual: " ++ toString length

/-- Have a limit and a length so few digits that they are written out? -/
def areWritable (limit : Option Number) (length : Int) : Bool :=
  limit.all Number.isWritable && (Number.whole length).isWritable

/-- A limit that is written out is written in its words. -/
theorem limitText_eq (limit : Option Number) :
    limitText limit = if limit.all Number.isWritable then .ok (limitWords limit) else .error .longInteger := by
  cases limit with
  | none => rfl
  | some limit => rfl

/-- A failure of a kind with a body has its wording unless an integer in it is too long. -/
theorem Node.failureText_eq {n : Node} (h : n.kind.isFunctionLike = true) (className : String)
    (length : Int) (limit : Option Number) :
    n.failureText className length limit =
      if areWritable limit length then .ok (n.failureMessage className length limit)
      else .error (.abort .longInteger) := by
  unfold Node.failureText areWritable
  rw [Kind.bodyLabel_eq_ok h, limitText_eq, Number.written]
  cases limit.all Number.isWritable with
  | false => rfl
  | true =>
      cases (Number.whole length).isWritable with
      | false => rfl
      | true => rfl

/-- Is the limit in force for a kind written out, if there is one? -/
def BodyLimits.WritesLimit (limits : BodyLimits) (kind : Kind) : Prop :=
  ∀ limit, limits.maxLengthFor kind = .ok (some limit) → limit.isWritable = true

/-- For the kinds of functions there is always a limit to be looked up, if only none, so all that counts is that it is
written out. -/
theorem BodyLimits.writesLimit_iff {limits : BodyLimits} {kind : Kind} (h : kind.isFunctionLike = true) :
    limits.WritesLimit kind ↔ (limits.maxLength kind).all Number.isWritable = true := by
  rw [WritesLimit, maxLengthFor_eq_ok h]
  cases limits.maxLength kind with
  | none => simp
  | some limit => simp

/-! ## One node -/

namespace SourceFile

variable (file : SourceFile) (limits : BodyLimits)

/-- Is the body of a node over its limit? -/
def isOverLimit (n : Node) : Bool :=
  n.kind.isFunctionLike && BodyLimits.exceeds (file.bodyLength n) (limits.maxLength n.kind)

/-- The failure of a node whose body is over its limit, in a class. -/
def failureAtNode (className : String) (n : Node) : Failure :=
  .ofNode ruleName file n
    (n.failureMessage className (file.bodyLength n) (limits.maxLength n.kind)) (file.bodyLength n)

/-- Does the failure of a node have a wording? -/
def canWord (n : Node) : Bool :=
  areWritable (limits.maxLength n.kind) (file.bodyLength n)

/-- The failures of some functions, each within a class. If one of them has no wording, the run ends instead. -/
def worded (functions : List (Node × String)) : Except RuleFault (List Failure) :=
  if functions.all fun m => file.canWord limits m.1 then
    .ok (functions.map fun m => file.failureAtNode limits m.2 m.1)
  else .error (.abort .longInteger)

variable {file limits} {functions more : List (Node × String)} {failures : List Failure}

/-- Functions that can all be worded become one failure each. -/
theorem worded_of_all (h : ∀ m ∈ functions, file.canWord limits m.1 = true) :
    file.worded limits functions = .ok (functions.map fun m => file.failureAtNode limits m.2 m.1) := by
  rw [worded, if_pos (List.all_eq_true.mpr h)]

/-- One function that cannot be worded ends the run for all. -/
theorem worded_of_not_all (h : ¬∀ m ∈ functions, file.canWord limits m.1 = true) :
    file.worded limits functions = .error (.abort .longInteger) := by
  rw [worded, if_neg fun hall => h (List.all_eq_true.mp hall)]

/-- Functions have their failures exactly if each of the failures has a wording. -/
theorem worded_eq_ok_iff :
    file.worded limits functions = .ok failures ↔
      (∀ m ∈ functions, file.canWord limits m.1 = true) ∧
        failures = functions.map fun m => file.failureAtNode limits m.2 m.1 := by
  by_cases hall : ∀ m ∈ functions, file.canWord limits m.1 = true
  · rw [worded_of_all hall, Except.ok.injEq]
    exact ⟨fun h => ⟨hall, h.symm⟩, fun h => h.2.symm⟩
  · rw [worded_of_not_all hall]
    refine ⟨fun h => ?_, fun h => absurd h.1 hall⟩
    cases h

@[simp] theorem worded_nil : file.worded limits [] = .ok [] := rfl

/-- Functions one after the other have their failures one after the other, and the first ones that have none end the
run. -/
theorem worded_append :
    file.worded limits (functions ++ more) = (file.worded limits functions).bind fun failures =>
      (file.worded limits more).map fun others => failures ++ others := by
  by_cases hfirst : ∀ m ∈ functions, file.canWord limits m.1 = true
  · by_cases hmore : ∀ m ∈ more, file.canWord limits m.1 = true
    · rw [worded_of_all (List.forall_mem_append.mpr ⟨hfirst, hmore⟩), worded_of_all hfirst, worded_of_all hmore,
        List.map_append]
      rfl
    · rw [worded_of_not_all fun h => hmore (List.forall_mem_append.mp h).2, worded_of_all hfirst,
        worded_of_not_all hmore]
      rfl
  · rw [worded_of_not_all fun h => hfirst (List.forall_mem_append.mp h).1, worded_of_not_all hfirst]
    rfl

end SourceFile

/-! ## What a node hands down -/

/-- Is a node a call whose arguments are exempt? -/
def BodyLimits.exemptsNode (limits : BodyLimits) (n : Node) : Bool :=
  n.kind == .callExpression && limits.exemptsCall n

/-- The exempt numbers below a node: those from around it and, if it is an exempt call, those of its arguments. -/
def BodyLimits.exemptBelow (limits : BodyLimits) (n : Node) (isExempt : Int → Bool) (index : Int) : Bool :=
  (limits.exemptsNode n && (n.argumentNodes.map Node.numberRange).any (·.holds index)) || isExempt index

/-- A node that is no exempt call leaves the exempt numbers as they are. -/
theorem BodyLimits.exemptBelow_of_not_exempts {limits : BodyLimits} {n : Node}
    (h : limits.exemptsNode n = false) (isExempt : Int → Bool) :
    limits.exemptBelow n isExempt = isExempt := by
  funext index
  simp [exemptBelow, h]

/-- Only calls exempt anything. -/
theorem BodyLimits.exemptsNode_of_not_call {limits : BodyLimits} {n : Node}
    (h : n.kind ≠ .callExpression) : limits.exemptsNode n = false := by
  simp [exemptsNode, h]

/-- Without a pattern no call is exempt. -/
theorem BodyLimits.exemptsNode_of_exempt_eq_none {limits : BodyLimits} (h : limits.exempt = none) (n : Node) :
    limits.exemptsNode n = false := by
  simp [exemptsNode, exemptsCall, exemptsName, h]

/-- The name of the innermost class below a node: its own if it is a class. -/
def Node.classNameBelow (n : Node) (className : String) : String :=
  if n.kind = .classDeclaration then n.name.getD "" else className

/-- Only a class gives its name to what is below. -/
theorem Node.classNameBelow_of_not_class {n : Node} (h : n.kind ≠ .classDeclaration)
    (className : String) : n.classNameBelow className = className := by
  simp [classNameBelow, h]

/-! ## Measured functions -/

/-- A node itself, within a class, if it is measured: if it is of a kind with a body and not exempt. -/
def Node.ownMeasured (isExempt : Bool) (className : String) (n : Node) : List (Node × String) :=
  if !isExempt && n.kind.isFunctionLike then [(n, className)] else []

mutual

/-- The functions of a subtree that are measured, each with the name of the innermost class. -/
def Node.measured (limits : BodyLimits) (isExempt : Int → Bool) (className : String) : Node → List (Node × String)
  | n@⟨_, _, _, _, _, children, _, _, _, _⟩ =>
    n.ownMeasured (isExempt n.index) className ++
      Node.measuredAll limits (limits.exemptBelow n isExempt) (n.classNameBelow className) children

/-- The functions of several subtrees that are measured, one subtree after the other. -/
def Node.measuredAll (limits : BodyLimits) (isExempt : Int → Bool) (className : String) :
    List Node → List (Node × String)
  | [] => []
  | n :: rest => Node.measured limits isExempt className n ++ Node.measuredAll limits isExempt className rest

end

variable (limits : BodyLimits) (file : SourceFile)

namespace Node

variable (isExempt : Int → Bool) (className : String)

/-- Subtrees side by side have the measured functions of each of them. -/
theorem measuredAll_eq (nodes : List Node) :
    measuredAll limits isExempt className nodes = nodes.flatMap (measured limits isExempt className) := by
  induction nodes with
  | nil => rfl
  | cons n rest ih => rw [measuredAll, ih, List.flatMap_cons]

/-- The measured functions of a tree: the root, if it is one, and those below each child, with what the root hands down.
-/
theorem measured_eq (n : Node) :
    n.measured limits isExempt className =
      n.ownMeasured (isExempt n.index) className ++
        n.children.flatMap (measured limits (limits.exemptBelow n isExempt) (n.classNameBelow className)) := by
  rw [← measuredAll_eq]
  cases n
  rw [measured]

/-- Measured functions are nodes of the subtree, in its order. -/
theorem measured_sublist_preorder (n : Node) :
    ((n.measured limits isExempt className).map Prod.fst).Sublist n.preorder := by
  induction n using Node.induction generalizing isExempt className with
  | step n ih =>
      rw [measured_eq, List.map_append, preorder_eq, preorderAll_eq, ← List.singleton_append, List.map_flatMap]
      apply List.Sublist.append
      · unfold ownMeasured
        split
        · exact List.Sublist.refl _
        · exact List.nil_sublist _
      · apply List.Sublist.flatMap_right
        intro child hchild
        exact ih child hchild _ _

/-- Without a pattern all functions are measured. -/
theorem map_fst_measured {limits : BodyLimits} (h : limits.exempt = none) (n : Node) :
    (n.measured limits (fun _ => false) className).map Prod.fst = n.preorder.filter Node.isFunctionLike := by
  induction n using Node.induction generalizing className with
  | step n ih =>
      rw [measured_eq, List.map_append, preorder_eq, preorderAll_eq, ← List.singleton_append, List.filter_append,
        List.map_flatMap, List.filter_flatMap,
        BodyLimits.exemptBelow_of_not_exempts (BodyLimits.exemptsNode_of_exempt_eq_none h n)]
      congr 1
      · by_cases hkind : n.kind.isFunctionLike = true
        · simp [ownMeasured, hkind, Node.isFunctionLike]
        · simp [ownMeasured, hkind, Node.isFunctionLike]
      · apply List.flatMap_congr
        intro child hchild
        exact ih child hchild _

/-! ## Flagged functions -/

/-- The functions of a subtree that are measured and over their limits, each with the name of the innermost class. -/
def flagged (n : Node) : List (Node × String) :=
  (n.measured limits isExempt className).filter fun m => file.isOverLimit limits m.1

/-- A node itself, within a class, if it is flagged. -/
def ownFlagged (exempt : Bool) (n : Node) : List (Node × String) :=
  (n.ownMeasured exempt className).filter fun m => file.isOverLimit limits m.1

/-- The flagged functions of a tree, in the same way. -/
theorem flagged_eq (n : Node) :
    n.flagged limits file isExempt className =
      n.ownFlagged limits file className (isExempt n.index) ++
        n.children.flatMap (flagged limits file (limits.exemptBelow n isExempt) (n.classNameBelow className)) := by
  rw [flagged, measured_eq, List.filter_append, List.filter_flatMap]
  rfl

/-- A node is flagged if it is over its limit and not exempt. -/
theorem ownFlagged_eq (exempt : Bool) (n : Node) :
    n.ownFlagged limits file className exempt =
      if !exempt && file.isOverLimit limits n then [(n, className)] else [] := by
  unfold ownFlagged ownMeasured
  by_cases hover : file.isOverLimit limits n = true
  · have hkind := (Bool.and_eq_true_iff.mp hover).1
    rw [hover, hkind]
    cases exempt with
    | false => simp [hover]
    | true => rfl
  · rw [Bool.not_eq_true] at hover
    rw [hover, Bool.and_false, if_neg Bool.false_ne_true]
    split
    · simp [hover]
    · rfl

/-- Flagged functions are nodes of the subtree that are over their limits, in its order. -/
theorem flagged_sublist_preorder (n : Node) :
    ((n.flagged limits file isExempt className).map Prod.fst).Sublist
      (n.preorder.filter (file.isOverLimit limits)) := by
  have hfilter : (n.flagged limits file isExempt className).map Prod.fst =
      ((n.measured limits isExempt className).map Prod.fst).filter (file.isOverLimit limits) := by
    rw [List.filter_map]
    rfl
  rw [hfilter]
  exact (n.measured_sublist_preorder limits isExempt className).filter _

/-- Without a pattern all functions over their limits are flagged. -/
theorem map_fst_flagged {limits : BodyLimits} (h : limits.exempt = none) (n : Node) :
    (n.flagged limits file (fun _ => false) className).map Prod.fst =
      n.preorder.filter (file.isOverLimit limits) := by
  have hfilter : (n.flagged limits file (fun _ => false) className).map Prod.fst =
      ((n.measured limits (fun _ => false) className).map Prod.fst).filter (file.isOverLimit limits) := by
    rw [List.filter_map]
    rfl
  rw [hfilter, map_fst_measured className h, List.filter_filter]
  apply List.filter_congr
  intro m _
  unfold SourceFile.isOverLimit Node.isFunctionLike
  rw [Bool.and_right_comm, Bool.and_self]

end Node

/-! ## Stacks -/

namespace Surroundings

/-- The surroundings with some more failures. -/
def addFailures (s : Surroundings) (failures : List Failure) : Surroundings :=
  { s with failures := s.failures ++ failures }

variable (s : Surroundings) (failures more : List Failure) (frame : List NumberRange) (name : String)

@[simp] theorem addFailures_nil : s.addFailures [] = s := by
  simp [addFailures]

/-- Failures that are found one after the other are found together. -/
@[simp] theorem addFailures_addFailures :
    (s.addFailures failures).addFailures more = s.addFailures (failures ++ more) := by
  simp [addFailures]

@[simp] theorem isExempt_addFailures : (s.addFailures failures).isExempt = s.isExempt := rfl

@[simp] theorem className_addFailures : (s.addFailures failures).className = s.className := rfl

/-- A frame is taken off again, whatever was found meanwhile. -/
@[simp] theorem popFrame_pushFrame : ((s.pushFrame frame).addFailures failures).popFrame =
    s.addFailures failures := rfl

/-- So is the name of a class. -/
@[simp] theorem popClass_pushClass : ((s.pushClass name).addFailures failures).popClass =
    s.addFailures failures := rfl

@[simp] theorem className_pushFrame : (s.pushFrame frame).className = s.className := rfl

@[simp] theorem isExempt_pushClass : (s.pushClass name).isExempt = s.isExempt := rfl

@[simp] theorem className_pushClass : (s.pushClass name).className = name := rfl

/-- Behind an exempt call its ranges are exempt as well. -/
theorem isExempt_pushFrame :
    (s.pushFrame frame).isExempt = fun index => frame.any (·.holds index) || s.isExempt index := by
  funext index
  simp [isExempt, pushFrame]

/-! ## One node in its surroundings -/

/-- A node of a kind with a body adds its failure if it is flagged. -/
theorem measure_eq {n : Node} (h : n.kind.isFunctionLike = true) :
    s.measure limits file n =
      (file.worded limits (n.ownFlagged limits file s.className (s.isExempt n.index))).map s.addFailures := by
  unfold measure
  rw [Node.ownFlagged_eq]
  by_cases hexempt : s.isExempt n.index = true
  · simp [hexempt, Except.map]
  · rw [Bool.not_eq_true] at hexempt
    simp only [hexempt, Bool.false_eq_true, if_false, Bool.not_false, Bool.true_and]
    by_cases hover : BodyLimits.exceeds (file.bodyLength n) (limits.maxLength n.kind) = true
    · -- over the limit: whether there is a failure depends on its wording alone
      have hflagged : file.isOverLimit limits n = true := Bool.and_eq_true_iff.mpr ⟨h, hover⟩
      simp only [BodyLimits.isTooLong, BodyLimits.maxLengthFor_eq_ok h, Node.failureText_eq h, hover, hflagged,
        if_true, bind, Except.bind, Except.mapError]
      by_cases hwords : areWritable (limits.maxLength n.kind) (file.bodyLength n) = true
      · rw [if_pos hwords, SourceFile.worded_of_all (by simpa [SourceFile.canWord] using hwords)]
        rfl
      · rw [if_neg hwords, SourceFile.worded_of_not_all (by simpa [SourceFile.canWord] using hwords)]
        rfl
    · rw [Bool.not_eq_true] at hover
      have hnone : file.isOverLimit limits n = false := by
        rw [SourceFile.isOverLimit, hover, Bool.and_false]
      simp [BodyLimits.isTooLong, BodyLimits.maxLengthFor_eq_ok h, hover, hnone, bind, Except.bind, Except.mapError,
        Except.map]

/-- What is added in two steps is added in one. -/
theorem map_addFailures_bind (functions others : List (Node × String)) {next : Surroundings → Except RuleFault Surroundings}
    (h : ∀ failures, next (s.addFailures failures) = (file.worded limits others).map (s.addFailures failures).addFailures) :
    ((file.worded limits functions).map s.addFailures).bind next =
      (file.worded limits (functions ++ others)).map s.addFailures := by
  rw [SourceFile.worded_append]
  cases file.worded limits functions with
  | error e => rfl
  | ok failures =>
      show next (s.addFailures failures) = _
      rw [h]
      cases file.worded limits others with
      | error e => rfl
      | ok found => exact congrArg Except.ok (s.addFailures_addFailures failures found)

end Surroundings

/-! ## The walk -/

/-- The kinds that the walk does not treat in a way of their own hand everything down unchanged. -/
theorem visit_of_plain {n : Node} (s : Surroundings) (hcall : n.kind ≠ .callExpression)
    (hclass : n.kind ≠ .classDeclaration) (hbody : n.kind.isFunctionLike = false) :
    visit limits file n s = visitAll limits file n.children s := by
  obtain ⟨kind, _, _, _, _, _, _, _, _, _⟩ := n
  cases kind <;> first | contradiction | simp_all [visit, Kind.isFunctionLike]

/-- A call with an exempt name puts a frame on for its children; all other calls pass them on as they are. -/
theorem visit_of_call {n : Node} (s : Surroundings) (hcall : n.kind = .callExpression) :
    visit limits file n s =
      if limits.exemptsCall n then
        (visitAll limits file n.children
          (s.pushFrame (n.argumentNodes.map Node.numberRange))).map Surroundings.popFrame
      else visitAll limits file n.children s := by
  obtain ⟨kind, _, _, _, _, _, _, _, _, _⟩ := n
  subst hcall
  simp only [visit]
  rfl

/-- A class puts its name on for its children. -/
theorem visit_of_class {n : Node} (s : Surroundings) (hclass : n.kind = .classDeclaration) :
    visit limits file n s =
      (visitAll limits file n.children (s.pushClass (n.name.getD ""))).map Surroundings.popClass := by
  obtain ⟨kind, _, _, _, _, _, _, _, _, _⟩ := n
  subst hclass
  simp only [visit]
  rfl

/-- A function is measured before its children are visited. -/
theorem visit_of_functionLike {n : Node} (s : Surroundings) (h : n.kind.isFunctionLike = true) :
    visit limits file n s = s.measure limits file n >>= visitAll limits file n.children := by
  obtain ⟨kind, _, _, _, _, _, _, _, _, _⟩ := n
  change kind.isFunctionLike = true at h
  cases kind <;> first | exact absurd h (by decide) | simp [visit, Kind.isFunctionLike]

/-- A list of nodes is walked as each of them is. -/
theorem visitAll_eq_of_forall (children : List Node) (s : Surroundings)
    (h : ∀ child ∈ children, ∀ s, visit limits file child s =
      (file.worded limits (child.flagged limits file s.isExempt s.className)).map s.addFailures) :
    visitAll limits file children s =
      (file.worded limits (children.flatMap (Node.flagged limits file s.isExempt s.className))).map s.addFailures := by
  induction children generalizing s with
  | nil => simp [visitAll, Except.map]
  | cons n rest ih =>
      rw [List.forall_mem_cons] at h
      rw [visitAll, h.1, List.flatMap_cons]
      apply Surroundings.map_addFailures_bind
      intro failures
      -- the failures so far are no part of what the next nodes look at
      rw [ih _ h.2]
      rfl

/-- The walk of a node leaves the stacks as they were and adds the failures of the flagged functions. -/
theorem visit_eq (n : Node) (s : Surroundings) :
    visit limits file n s =
      (file.worded limits (n.flagged limits file s.isExempt s.className)).map s.addFailures := by
  induction n using Node.induction generalizing s with
  | step n ih =>
      have hchildren := visitAll_eq_of_forall limits file n.children (h := ih)
      rw [Node.flagged_eq]
      by_cases hbody : n.kind.isFunctionLike = true
      · -- a node with a body is measured, and hands everything down unchanged
        have hcall : n.kind ≠ .callExpression := fun h => by simp [h, Kind.isFunctionLike] at hbody
        have hclass : n.kind ≠ .classDeclaration := fun h => by simp [h, Kind.isFunctionLike] at hbody
        rw [visit_of_functionLike limits file s hbody, Surroundings.measure_eq limits file s hbody,
          BodyLimits.exemptBelow_of_not_exempts (BodyLimits.exemptsNode_of_not_call hcall),
          Node.classNameBelow_of_not_class hclass]
        exact s.map_addFailures_bind limits file _ _ fun failures => hchildren _
      · have hown : ∀ isExempt className, n.ownFlagged limits file className isExempt = [] := by
          intro isExempt className
          simp [Node.ownFlagged_eq, SourceFile.isOverLimit, hbody]
        rw [hown, List.nil_append]
        by_cases hcall : n.kind = .callExpression
        · have hclass : n.kind ≠ .classDeclaration := by simp [hcall]
          rw [visit_of_call limits file s hcall, Node.classNameBelow_of_not_class hclass]
          by_cases hexempt : limits.exemptsCall n = true
          · -- the frame of an exempt call is pushed for the children and popped behind them
            have hbelow : limits.exemptBelow n s.isExempt =
                (s.pushFrame (n.argumentNodes.map Node.numberRange)).isExempt := by
              funext index
              simp [BodyLimits.exemptBelow, BodyLimits.exemptsNode, hcall, hexempt,
                Surroundings.isExempt_pushFrame]
            rw [if_pos hexempt, hchildren, hbelow, map_map_eq]
            rfl
          · have hnode : limits.exemptsNode n = false := by
              simpa [BodyLimits.exemptsNode, hcall] using hexempt
            rw [if_neg hexempt, hchildren, BodyLimits.exemptBelow_of_not_exempts hnode]
        · rw [BodyLimits.exemptBelow_of_not_exempts (BodyLimits.exemptsNode_of_not_call hcall)]
          by_cases hclass : n.kind = .classDeclaration
          · -- the name of a class is on top for its children
            have hname : n.classNameBelow s.className = (s.pushClass (n.name.getD "")).className := by
              rw [Node.classNameBelow, if_pos hclass]
              rfl
            rw [visit_of_class limits file s hclass, hchildren, hname, map_map_eq]
            rfl
          · rw [visit_of_plain limits file s hcall hclass (by simpa using hbody), hchildren,
              Node.classNameBelow_of_not_class hclass]

/-! ## A file -/

/-- The functions of a file that are flagged under limits, each with the name of the innermost class. -/
def SourceFile.flagged (file : SourceFile) (limits : BodyLimits) : List (Node × String) :=
  file.root.flagged limits file (fun _ => false) ""

/-- The check of a file comes to the failures of its flagged functions. -/
theorem SourceFile.check_eq : file.check limits = file.worded limits (file.flagged limits) := by
  unfold SourceFile.check
  rw [visit_eq]
  show ((file.worded limits (file.flagged limits)).map Surroundings.atRoot.addFailures).bind _ = _
  cases file.worded limits (file.flagged limits) with
  | error e => rfl
  | ok failures => rfl

variable {limits file}

/-- So does the check by options that come to limits. -/
theorem SourceFile.checkBy_eq {options : List Value} (h : BodyLimits.ofValues options = .ok limits) :
    file.checkBy options = file.worded limits (file.flagged limits) := by
  rw [checkBy, h, ok_bind, check_eq]

/-- The flagged functions of a file are nodes of it that are over their limits, in its order. -/
theorem SourceFile.flagged_sublist_walk :
    ((file.flagged limits).map Prod.fst).Sublist (file.walk.filter (file.isOverLimit limits)) := by
  rw [walk, Node.walk_eq_preorder]
  exact file.root.flagged_sublist_preorder limits file _ _

/-- Without a pattern they are all of these. -/
theorem SourceFile.map_fst_flagged (h : limits.exempt = none) (file : SourceFile) :
    (file.flagged limits).map Prod.fst = file.root.preorder.filter (file.isOverLimit limits) :=
  file.root.map_fst_flagged file "" h

/-! ## A function by itself -/

/-- A function without a body, by itself in a file. -/
def bodilessFile (kind : Kind) : SourceFile :=
  .ofTree "" "" { (default : Node) with kind := kind }

/-- It is flagged if zero is over the limit of its kind. -/
theorem flagged_bodilessFile {limits : BodyLimits} {kind : Kind} (hkind : kind.isFunctionLike = true)
    (h : BodyLimits.exceeds 0 (limits.maxLength kind) = true) :
    (bodilessFile kind).flagged limits = [((bodilessFile kind).root, "")] := by
  have hover : (bodilessFile kind).isOverLimit limits (bodilessFile kind).root = true :=
    Bool.and_eq_true_iff.mpr ⟨hkind, h⟩
  rw [SourceFile.flagged, Node.flagged_eq, Node.ownFlagged_eq, hover]
  rfl

/-! ## The nodes of failures -/

/-- Is a failure the one of a node, in some class? -/
def SourceFile.IsFailureOf (file : SourceFile) (limits : BodyLimits) (n : Node) (f : Failure) : Prop :=
  ∃ className, f = file.failureAtNode limits className n

namespace SourceFile.IsFailureOf

variable {n : Node} {f : Failure}

/-- A failure starts where its node does. -/
theorem start_eq (h : file.IsFailureOf limits n f) : f.start = n.start := by
  obtain ⟨className, rfl⟩ := h
  rfl

/-- A failure tells the length of the body of its node. -/
theorem length_eq (h : file.IsFailureOf limits n f) : f.length = file.bodyLength n := by
  obtain ⟨className, rfl⟩ := h
  rfl

end SourceFile.IsFailureOf

end BodyLength
