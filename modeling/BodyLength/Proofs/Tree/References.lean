import BodyLength.Proofs.Outcome
import BodyLength.Proofs.Tree.Places
import BodyLength.Source.Lowering
import BodyLength.Tree.Document

/-!
# References within a tree

A node may refer to any node, but the trees that the program builds refer from a node to its children only. Such
trees are called *closed* here. They are what a document can hold, and in them the numbers of an argument lie below
the call that passes it.

* `isClosed_ofJson`: a tree that is read from a document is closed.
* `Ast.isClosed_root`: a tree that is made of a program is closed.
-/

namespace BodyLength

/-! ## Closed trees

A reference is a position among the children of a node, or a node somewhere else. In a closed tree there are only
positions, and all of them lead to children. -/

/-- Does a reference lead to one of so many children? -/
def Ref.IsWithin {α : Type} (count : Nat) : Ref α → Prop
  | .child position => position < count
  | .detached _ => False

instance {α : Type} (count : Nat) : (r : Ref α) → Decidable (r.IsWithin count)
  | .child position => inferInstanceAs (Decidable (position < count))
  | .detached _ => inferInstanceAs (Decidable False)

namespace Node

/-- The references of a node, that to its callee first. -/
def references (n : Node) : List (Ref Node) :=
  n.callee.toList ++ n.arguments

/-- Are all nodes that a node passes children of its own? -/
def PassesOwnChildren (n : Node) : Prop :=
  ∀ r ∈ n.arguments, r.IsWithin n.children.length

/-- Are all nodes that a node refers to children of its own? -/
def RefersToChildren (n : Node) : Prop :=
  ∀ r ∈ n.references, r.IsWithin n.children.length

instance (n : Node) : Decidable n.PassesOwnChildren :=
  inferInstanceAs (Decidable (∀ r ∈ n.arguments, r.IsWithin n.children.length))

instance (n : Node) : Decidable n.RefersToChildren :=
  inferInstanceAs (Decidable (∀ r ∈ n.references, r.IsWithin n.children.length))

/-- Does every node of a tree refer to children of its own only? -/
def IsClosed (root : Node) : Prop :=
  ∀ n ∈ root.preorder, n.RefersToChildren

instance (root : Node) : Decidable root.IsClosed :=
  inferInstanceAs (Decidable (∀ n ∈ root.preorder, n.RefersToChildren))

/-- In a closed tree every node passes children of its own. -/
theorem IsClosed.passesOwnChildren {root : Node} (h : root.IsClosed) :
    ∀ n ∈ root.preorder, n.PassesOwnChildren := by
  intro n hn r hr
  exact h n hn r (List.mem_append_right _ hr)

/-- A tree is closed if its root is in order and the subtrees of its children are closed. -/
theorem isClosed_iff {n : Node} :
    n.IsClosed ↔ n.RefersToChildren ∧ ∀ child ∈ n.children, child.IsClosed := by
  unfold IsClosed
  rw [preorder_eq, List.forall_mem_cons]
  apply and_congr_right
  intro _
  constructor
  · intro h child hchild m hm
    exact h m (mem_preorderAll.mpr ⟨child, hchild, hm⟩)
  · intro h m hm
    obtain ⟨child, hchild, hm⟩ := mem_preorderAll.mp hm
    exact h child hchild m hm

end Node

/-! ## Trees of documents

A document gives a callee and arguments as positions, and the reader refuses positions that lead to no child. So every
node that is read refers to its own children, and the induction is along the functions of the reader. -/

/-- A reference that is read is to a child. -/
theorem isWithin_of_childReference {count : Nat} {j : Json} {r : Ref Node}
    (h : childReference count j = .ok r) : r.IsWithin count := by
  unfold childReference at h
  split at h
  · split at h
    · rename_i n hn
      simp only [Bool.and_eq_true, decide_eq_true_eq] at hn
      cases h
      simp only [Ref.IsWithin]
      omega
    · cases h
  · cases h

/-- So is the callee that is read. -/
theorem isWithin_of_calleeField {count : Nat} {members : List (String × Json)} {callee : Option (Ref Node)}
    (h : calleeField count members = .ok callee) : ∀ r ∈ callee, r.IsWithin count := by
  unfold calleeField at h
  split at h
  · cases h
    simp
  · cases h
    simp
  · obtain ⟨r, hr, rfl⟩ := map_eq_ok_iff.mp h
    simpa using isWithin_of_childReference hr

/-- So are the arguments that are read. -/
theorem isWithin_of_argumentsField {count : Nat} {members : List (String × Json)}
    {arguments : List (Ref Node)} (h : argumentsField count members = .ok arguments) :
    ∀ r ∈ arguments, r.IsWithin count := by
  unfold argumentsField at h
  split at h
  · cases h
    simp
  · intro r hr
    obtain ⟨j, -, hj⟩ := exists_mem_of_mapM_eq_ok h r hr
    exact isWithin_of_childReference hj
  · cases h

/-- What is read beside the children does not touch them, and its references lead to them. -/
theorem nodeOfMembers_eq_ok {members : List (String × Json)} {children : List Node} {n : Node}
    (h : nodeOfMembers members children = .ok n) : n.children = children ∧ n.RefersToChildren := by
  unfold nodeOfMembers at h
  simp only [bind_eq_ok_iff] at h
  obtain ⟨body, -, callee, hcallee, arguments, harguments, start, -, stop, -, heq⟩ := h
  cases heq
  refine ⟨rfl, fun r hr => ?_⟩
  rcases List.mem_append.mp hr with hr | hr
  · exact isWithin_of_calleeField hcallee r (Option.mem_toList.mp hr)
  · exact isWithin_of_argumentsField harguments r hr

mutual

/-- A tree that is read from a JSON value is closed. -/
theorem Node.isClosed_ofJson : (j : Json) → ∀ {n : Node}, Node.ofJson j = .ok n → n.IsClosed
  | .object members, n, h => by
      rw [Node.ofJson, bind_eq_ok_iff] at h
      obtain ⟨children, hchildren, hn⟩ := h
      obtain ⟨rfl, hrefers⟩ := nodeOfMembers_eq_ok hn
      exact isClosed_iff.mpr ⟨hrefers, Node.isClosed_childrenOfMembers members hchildren⟩
  | .null, _, h => by simp [Node.ofJson] at h
  | .bool _, _, h => by simp [Node.ofJson] at h
  | .number _, _, h => by simp [Node.ofJson] at h
  | .text _, _, h => by simp [Node.ofJson] at h
  | .list _, _, h => by simp [Node.ofJson] at h

/-- The children that are read of the members of an object are closed. -/
theorem Node.isClosed_childrenOfMembers : (members : List (String × Json)) → ∀ {children : List Node},
    Node.childrenOfMembers members = .ok children → ∀ child ∈ children, child.IsClosed
  | [], _, h => by
      rw [Node.childrenOfMembers] at h
      cases h
      simp
  | (name, j) :: rest, _, h => by
      rw [Node.childrenOfMembers] at h
      split at h
      · exact Node.isClosed_childrenOfJson j h
      · exact Node.isClosed_childrenOfMembers rest h

/-- So are those that are read of the value of the field. -/
theorem Node.isClosed_childrenOfJson : (j : Json) → ∀ {children : List Node},
    Node.childrenOfJson j = .ok children → ∀ child ∈ children, child.IsClosed
  | .list items, _, h => by
      rw [Node.childrenOfJson] at h
      exact Node.isClosed_ofJsonAll items h
  | .null, _, h => by simp [Node.childrenOfJson] at h
  | .bool _, _, h => by simp [Node.childrenOfJson] at h
  | .number _, _, h => by simp [Node.childrenOfJson] at h
  | .text _, _, h => by simp [Node.childrenOfJson] at h
  | .object _, _, h => by simp [Node.childrenOfJson] at h

/-- So are the nodes that are read of a list. -/
theorem Node.isClosed_ofJsonAll : (items : List Json) → ∀ {nodes : List Node},
    Node.ofJsonAll items = .ok nodes → ∀ n ∈ nodes, n.IsClosed
  | [], _, h => by
      rw [Node.ofJsonAll] at h
      cases h
      simp
  | j :: rest, _, h => by
      simp only [Node.ofJsonAll, bind_eq_ok_iff] at h
      obtain ⟨n, hn, nodes, hnodes, heq⟩ := h
      cases heq
      rw [List.forall_mem_cons]
      exact ⟨Node.isClosed_ofJson j hn, Node.isClosed_ofJsonAll rest hnodes⟩

end

/-! ## Trees of programs

Only calls have references. A call is made with its callee as the first child and its arguments behind it, and refers
to them by these positions. All other nodes are made without references, so it is enough that their children are
closed. -/

namespace Ast

/-- A node without references is in order. -/
theorem isClosed_node {kind : Kind} {s : Span} {name : Option String} {body : Option Span}
    {children : List Node} (h : ∀ child ∈ children, child.IsClosed) :
    (node kind s name body children).IsClosed :=
  Node.isClosed_iff.mpr ⟨by simp [node, Node.RefersToChildren, Node.references], h⟩

/-- A call refers to its callee and to its arguments by their positions behind it. -/
theorem isClosed_callNode {s : Span} {callee arguments : List Node}
    (hcallee : ∀ n ∈ callee, n.IsClosed) (harguments : ∀ n ∈ arguments, n.IsClosed) :
    (callNode s callee arguments).IsClosed := by
  refine Node.isClosed_iff.mpr ⟨fun r hr => ?_, fun child hchild => ?_⟩
  · simp only [callNode, Node.references, List.mem_append, Option.mem_toList, List.mem_map,
      List.mem_range] at hr ⊢
    rcases hr with hr | ⟨i, hi, rfl⟩
    · cases callee with
      | nil => simp at hr
      | cons n rest =>
          simp only [List.isEmpty_cons, Bool.false_eq_true, if_false, Option.some.injEq] at hr
          subst hr
          simp [Ref.IsWithin]
    · simp only [Ref.IsWithin, List.length_append]
      omega
  · rcases List.mem_append.mp hchild with h | h
    · exact hcallee child h
    · exact harguments child h

/-- Putting arguments in the order of their places adds no nodes to them. -/
theorem mem_inOrder {arguments : List (Extent × List Node)} {n : Node} :
    n ∈ inOrder arguments ↔ ∃ a ∈ arguments, n ∈ a.2 := by
  simp [inOrder, List.mem_flatMap]

mutual

/-- What a piece of a program becomes is closed. -/
theorem isClosed_lower (lines : SourceLines) : (isMember : Bool) → (a : Ast) →
    ∀ n ∈ lower lines isMember a, n.IsClosed
  | _, .function _ _ parameters body decorators returns => by
      simp only [lower, List.forall_mem_singleton]
      apply isClosed_node
      intro child hchild
      simp only [List.mem_append] at hchild
      rcases hchild with ((h | h) | h) | h
      · exact isClosed_lowerAll lines false parameters child h
      · exact isClosed_lowerAll lines false body child h
      · exact isClosed_lowerAll lines false decorators child h
      · exact isClosed_lowerAll lines false returns child h
  | _, .lambda _ parameters body => by
      simp only [lower, List.forall_mem_singleton]
      apply isClosed_node
      intro child hchild
      rcases List.mem_append.mp hchild with h | h
      · exact isClosed_lowerAll lines false parameters child h
      · exact isClosed_lower lines false body child h
  | _, .classDef _ _ bases keywords body decorators => by
      simp only [lower, List.forall_mem_singleton]
      apply isClosed_node
      intro child hchild
      simp only [List.mem_append] at hchild
      rcases hchild with ((h | h) | h) | h
      · exact isClosed_lowerAll lines false bases child h
      · exact isClosed_lowerAll lines false keywords child h
      · exact isClosed_lowerAll lines true body child h
      · exact isClosed_lowerAll lines false decorators child h
  | _, .call _ callee arguments keywords => by
      simp only [lower, List.forall_mem_singleton]
      apply isClosed_callNode (isClosed_lower lines false callee)
      intro n hn
      obtain ⟨a, ha, hn⟩ := mem_inOrder.mp hn
      rcases List.mem_append.mp ha with ha | ha
      · exact isClosed_lowerPassed lines arguments a ha n hn
      · exact isClosed_lowerPassed lines keywords a ha n hn
  | _, .name _ _ => by
      simp only [lower, List.forall_mem_singleton]
      exact isClosed_node (by simp)
  | _, .access _ value _ => by
      simp only [lower, List.forall_mem_singleton]
      exact isClosed_node (isClosed_lower lines false value)
  | _, .keyword _ _ value => by
      simp only [lower, List.forall_mem_singleton]
      exact isClosed_node (isClosed_lower lines false value)
  | _, .construct _ _ parts => by
      simp only [lower, List.forall_mem_singleton]
      exact isClosed_node (isClosed_lowerAll lines false parts)
  | _, .group parts => by
      simp only [lower]
      exact isClosed_lowerAll lines false parts

/-- What several pieces are lowered to is closed. -/
theorem isClosed_lowerAll (lines : SourceLines) : (isMember : Bool) → (pieces : List Ast) →
    ∀ n ∈ lowerAll lines isMember pieces, n.IsClosed
  | _, [] => by simp [lowerAll]
  | isMember, a :: rest => by
      simp only [lowerAll, List.forall_mem_append]
      exact ⟨isClosed_lower lines isMember a, isClosed_lowerAll lines isMember rest⟩

/-- So is what the arguments of a call are lowered to. -/
theorem isClosed_lowerPassed (lines : SourceLines) : (arguments : List Ast) →
    ∀ a ∈ lowerPassed lines arguments, ∀ n ∈ a.2, n.IsClosed
  | [] => by simp [lowerPassed]
  | a :: rest => by
      have hrest := isClosed_lowerPassed lines rest
      have ha := isClosed_lower lines false a
      cases a with
      | keyword _ _ value =>
          simp only [lowerPassed, List.forall_mem_cons]
          exact ⟨isClosed_lower lines false value, hrest⟩
      | _ =>
          simp only [lowerPassed, List.forall_mem_cons]
          exact ⟨ha, hrest⟩

end

/-- The tree of a program is closed. -/
theorem isClosed_root (lines : SourceLines) (program : List Ast) : (root lines program).IsClosed :=
  isClosed_node (isClosed_lowerAll lines false program)

end Ast

end BodyLength
