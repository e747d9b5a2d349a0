import BodyLength.Proofs.Limits.MovedReports
import Mathlib.Data.Set.BoolIndicator

/-!
# What a visit leaves as it was

A visit is handed both stacks and the failures so far, and on its way through a subtree it pushes and pops as often as
there are exempt calls and classes in it. Whoever goes on behind it relies on three things. The stacks are those of
before, frame for frame. Nothing that was found is lost. And what is added is the business of the subtree alone: of
where the visit comes from it matters only which numbers are exempt and what the innermost class is called, and of the
file only its name and its text. A visit that meets a limit with too many digits ends the run, and whether it does so is
the business of the subtree as well.

* `Node.flagged_ofTree`: of a file nothing but its name and its text is looked at.
* `SourceFile.worded_flatMap`: what is worded in one go is worded node by node.
* `visit_restores_stacks`: a visit restores both stacks and adds what depends on no more than that, and visits one after
  the other add what each of them adds by itself.
-/

namespace BodyLength

variable (limits : BodyLimits)

section Trees

variable (filename text : String) (root root' : Node)

/-- The offsets of a node are the same in both files, that is, moved by nothing. -/
theorem SourceFile.seesMoved_ofTree (m : Node) :
    (SourceFile.ofTree filename text root').SeesMoved (.ofTree filename text root) id m := by
  refine ⟨rfl, ?_⟩
  rw [Node.moved_id]
  rfl

/-- Functions that are moved nowhere stay as they are. -/
theorem Node.movedWithin_id : movedWithin id = id := by
  funext m
  rw [movedWithin, moved_id]
  rfl

/-- Which functions are flagged does not depend on the tree of the file that they are told to be in. -/
theorem Node.flagged_ofTree (n : Node) (isExempt : Int → Bool) (className : String) :
    n.flagged limits (.ofTree filename text root) isExempt className =
      n.flagged limits (.ofTree filename text root') isExempt className := by
  have hmoved := Node.flagged_moved limits (n := n)
    (fun m _ => SourceFile.seesMoved_ofTree filename text root root' m) isExempt className
  rwa [moved_id, movedWithin_id, List.map_id] at hmoved

/-- Nor do their failures. -/
theorem SourceFile.worded_ofTree (functions : List (Node × String)) :
    (SourceFile.ofTree filename text root).worded limits functions =
      (SourceFile.ofTree filename text root').worded limits functions := rfl

end Trees

/-- Functions that come node by node have their failures node by node. The first node with a failure that has no wording
ends the run. -/
theorem SourceFile.worded_flatMap (file : SourceFile) (functions : Node → List (Node × String)) (nodes : List Node) :
    file.worded limits (nodes.flatMap functions) =
      (nodes.mapM fun n => file.worded limits (functions n)).map List.flatten := by
  induction nodes with
  | nil => rfl
  | cons n rest ih =>
      rw [List.flatMap_cons, worded_append, ih, List.mapM_cons]
      cases file.worded limits (functions n) with
      | error e => rfl
      | ok failures =>
          cases rest.mapM fun n => file.worded limits (functions n) with
          | error e => rfl
          | ok lists => rfl

/-- What a visit of a node adds, by the name and the text of the file, the exempt numbers and the name of the innermost
class. -/
noncomputable def Node.added (filename text : String) (exempt : Set Int) (className : String) (n : Node) :
    Except RuleFault (List Failure) :=
  (SourceFile.ofTree filename text n).worded limits
    (n.flagged limits (.ofTree filename text n) exempt.boolIndicator className)

/-- What a node adds is worded of its flagged functions. The file is looked at for its name and its text only. -/
theorem Node.added_eq (filename text : String) (root n : Node) (isExempt : Int → Bool) (className : String) :
    n.added limits filename text {index | isExempt index} className =
      (SourceFile.ofTree filename text root).worded limits
        (n.flagged limits (.ofTree filename text root) isExempt className) := by
  have hexempt : Set.boolIndicator {index | isExempt index} = isExempt := by
    funext index
    rw [Bool.eq_iff_iff, ← Set.mem_iff_boolIndicator]
    exact Iff.rfl
  rw [added, hexempt, flagged_ofTree limits filename text n root, SourceFile.worded_ofTree]

/-- **A visit restores both stacks, loses no failure, and adds what is the business of its node alone.** There is one
way to tell, from the name and the text of a file, the set of the exempt numbers, the name of the innermost class and a
node, which failures are added, or that the run ends. A visit of the node adds these and leaves everything else as it
was, whatever the stacks and the failures are when it starts. Nodes that are visited one after the other add what each
of them adds when it is visited by itself in these surroundings. -/
theorem visit_restores_stacks :
    ∃ added : String → String → Set Int → String → Node → Except RuleFault (List Failure),
      ∀ (filename text : String) (root : Node) (s : Surroundings),
        (∀ n, visit limits (.ofTree filename text root) n s =
          (added filename text {index | s.isExempt index} s.className n).map fun failures =>
            ⟨s.frames, s.classNames, s.failures ++ failures⟩) ∧
        ∀ nodes, visitAll limits (.ofTree filename text root) nodes s =
          (nodes.mapM (added filename text {index | s.isExempt index} s.className)).map fun lists =>
            ⟨s.frames, s.classNames, s.failures ++ lists.flatten⟩ := by
  refine ⟨Node.added limits, ?_⟩
  intro filename text root s
  -- the walk adds the worded failures of the flagged functions, and these need no stacks
  have hadded : Node.added limits filename text {index | s.isExempt index} s.className =
      fun n => (SourceFile.ofTree filename text root).worded limits
        (n.flagged limits (.ofTree filename text root) s.isExempt s.className) := by
    funext n
    exact Node.added_eq limits filename text root n s.isExempt s.className
  have hvisit := visit_eq limits (.ofTree filename text root)
  rw [hadded]
  constructor
  · intro n
    exact hvisit n s
  · intro nodes
    rw [visitAll_eq_of_forall limits _ nodes s fun n _ => hvisit n, SourceFile.worded_flatMap, map_map_eq]
    rfl

end BodyLength
