import BodyLength.Limits.Check
import BodyLength.Proofs.Tree.Numbering

/-!
# Moved trees

A tree is over a text, and where the text is written otherwise its offsets move. `Node.moved` moves all of them and
leaves the rest. What the rule goes by when it looks for exempt calls does not move:

* `at?_moved`, `number_moved`: the nodes stand at the same places and get the same numbers.
* `calleeName_moved`, `map_numberRange_argumentNodes_moved`: calls have the same names and their arguments the same
  numbers.
-/

namespace BodyLength

/-- A range with both of its ends moved. -/
def Span.moved (move : Int → Int) (s : Span) : Span :=
  ⟨move s.start, move s.stop⟩

namespace Node

/-! ## Moving the offsets of a tree -/

mutual

/-- A tree with all its offsets moved. The nodes that its nodes refer to move along. -/
def moved (move : Int → Int) : Node → Node
  | ⟨kind, start, stop, name, body, children, callee, arguments, index, lastDescendant⟩ =>
    ⟨kind, move start, move stop, name, body.map (Span.moved move), movedAll move children,
      movedCallee move callee, movedRefs move arguments, index, lastDescendant⟩

/-- Several trees with all their offsets moved. -/
def movedAll (move : Int → Int) : List Node → List Node
  | [] => []
  | n :: rest => n.moved move :: movedAll move rest

/-- A reference to a callee with the offsets moved. -/
def movedCallee (move : Int → Int) : Option (Ref Node) → Option (Ref Node)
  | none => none
  | some r => some (movedRef move r)

/-- Several references with the offsets moved. -/
def movedRefs (move : Int → Int) : List (Ref Node) → List (Ref Node)
  | [] => []
  | r :: rest => movedRef move r :: movedRefs move rest

/-- A reference with the offsets moved. -/
def movedRef (move : Int → Int) : Ref Node → Ref Node
  | .child position => .child position
  | .detached node => .detached (node.moved move)

end

variable (move : Int → Int)

/-- Trees in a list are moved one by one. -/
theorem movedAll_eq_map (children : List Node) : movedAll move children = children.map (moved move) := by
  induction children with
  | nil => simp only [movedAll, List.map_nil]
  | cons n rest ih => simp only [movedAll, List.map_cons, ih]

/-- So are references. -/
theorem movedRefs_eq_map (references : List (Ref Node)) :
    movedRefs move references = references.map (movedRef move) := by
  induction references with
  | nil => simp only [movedRefs, List.map_nil]
  | cons r rest ih => simp only [movedRefs, List.map_cons, ih]

/-- So is the reference to a callee, if there is one. -/
theorem movedCallee_eq_map (callee : Option (Ref Node)) : movedCallee move callee = callee.map (movedRef move) := by
  cases callee with
  | none => simp only [movedCallee, Option.map_none]
  | some r => simp only [movedCallee, Option.map_some]

variable (n : Node)

/-- A moved node has its offsets moved, those of its body and below it as well, and everything else as it was. -/
theorem moved_eq :
    n.moved move =
      { n with
          start := move n.start
          stop := move n.stop
          body := n.body.map (Span.moved move)
          children := n.children.map (moved move)
          callee := n.callee.map (movedRef move)
          arguments := n.arguments.map (movedRef move) } := by
  cases n
  simp only [moved, movedAll_eq_map, movedRefs_eq_map, movedCallee_eq_map]

@[simp] theorem moved_kind : (n.moved move).kind = n.kind := by rw [moved_eq]
@[simp] theorem moved_start : (n.moved move).start = move n.start := by rw [moved_eq]
@[simp] theorem moved_stop : (n.moved move).stop = move n.stop := by rw [moved_eq]
@[simp] theorem moved_name : (n.moved move).name = n.name := by rw [moved_eq]
@[simp] theorem moved_body : (n.moved move).body = n.body.map (Span.moved move) := by rw [moved_eq]
@[simp] theorem moved_children : (n.moved move).children = n.children.map (moved move) := by rw [moved_eq]
@[simp] theorem moved_callee : (n.moved move).callee = n.callee.map (movedRef move) := by rw [moved_eq]
@[simp] theorem moved_arguments : (n.moved move).arguments = n.arguments.map (movedRef move) := by rw [moved_eq]
@[simp] theorem moved_index : (n.moved move).index = n.index := by rw [moved_eq]
@[simp] theorem moved_numberRange : (n.moved move).numberRange = n.numberRange := by rw [moved_eq]; rfl

/-- The node at a place moves with its tree. -/
theorem at?_moved (place : List Nat) : (n.moved move).at? place = (n.at? place).map (moved move) := by
  induction place generalizing n with
  | nil => rfl
  | cons position rest ih =>
      rw [at?_cons, at?_cons, moved_children, List.getElem?_map]
      cases n.children[position]? with
      | none => rfl
      | some child => exact ih child

mutual

/-- Numbering does not look at offsets. -/
theorem number_moved (next : Nat) : (n : Node) →
    number next (n.moved move) = ((number next n).1.moved move, (number next n).2)
  | ⟨_, _, _, _, _, children, _, _, _, _⟩ => by
      simp only [moved, number, numberAll_movedAll (next + 1) children]

/-- Children are given the same numbers before and after they are moved. -/
theorem numberAll_movedAll (next : Nat) : (children : List Node) →
    numberAll next (movedAll move children) = (movedAll move (numberAll next children).1, (numberAll next children).2)
  | [] => by simp only [movedAll, numberAll]
  | n :: rest => by
      simp only [movedAll, numberAll, number_moved next n, numberAll_movedAll _ rest]

end

mutual

/-- A tree whose offsets stay is the same. -/
theorem moved_id : (n : Node) → n.moved id = n
  | ⟨_, _, _, _, body, children, callee, arguments, _, _⟩ => by
      have hbody : body.map (Span.moved id) = body := by cases body <;> rfl
      simp only [moved, hbody, movedAll_id children, movedCallee_id callee, movedRefs_id arguments, id]

/-- Trees that are moved nowhere stay as they are. -/
theorem movedAll_id : (children : List Node) → movedAll id children = children
  | [] => by simp only [movedAll]
  | n :: rest => by simp only [movedAll, moved_id n, movedAll_id rest]

/-- So does the reference to a callee. -/
theorem movedCallee_id : (callee : Option (Ref Node)) → movedCallee id callee = callee
  | none => by simp only [movedCallee]
  | some r => by simp only [movedCallee, movedRef_id r]

/-- So do references. -/
theorem movedRefs_id : (references : List (Ref Node)) → movedRefs id references = references
  | [] => by simp only [movedRefs]
  | r :: rest => by simp only [movedRefs, movedRef_id r, movedRefs_id rest]

/-- So does one reference. -/
theorem movedRef_id : (r : Ref Node) → movedRef id r = r
  | .child _ => by simp only [movedRef]
  | .detached node => by simp only [movedRef, moved_id node]

end

/-! ## References -/

/-- What a moved reference is to is what the reference was to, moved. -/
theorem resolve?_moved (r : Ref Node) :
    (n.moved move).resolve? (movedRef move r) = (n.resolve? r).map (moved move) := by
  cases r with
  | child position => simp only [movedRef, resolve?, moved_children, List.getElem?_map]
  | detached node => simp only [movedRef, resolve?, Option.map_some]

/-- The callee of a moved call is the callee of the call, moved. -/
theorem calleeNode?_moved : (n.moved move).calleeNode? = n.calleeNode?.map (moved move) := by
  rw [calleeNode?, calleeNode?, moved_callee]
  cases n.callee with
  | none => rfl
  | some r => exact resolve?_moved move n r

/-- A call is named for the same function. -/
@[simp] theorem calleeName_moved : (n.moved move).calleeName = n.calleeName := by
  rw [calleeName, calleeName, calleeNode?_moved]
  cases n.calleeNode? with
  | none => rfl
  | some callee => simp only [Option.map_some, moved_kind, moved_name]

/-- The arguments take up the same numbers. -/
theorem map_numberRange_argumentNodes_moved :
    (n.moved move).argumentNodes.map numberRange = n.argumentNodes.map numberRange := by
  rw [argumentNodes, argumentNodes, moved_arguments, List.filterMap_map]
  have hresolve : (fun r => (n.moved move).resolve? (movedRef move r)) = fun r => (n.resolve? r).map (moved move) :=
    funext (resolve?_moved move n)
  rw [show (n.moved move).resolve? ∘ movedRef move = _ from hresolve, ← List.map_filterMap, List.map_map]
  exact List.map_congr_left fun m _ => moved_numberRange move m

end Node

end BodyLength
