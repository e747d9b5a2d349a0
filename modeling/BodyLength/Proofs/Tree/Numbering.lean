import BodyLength.Proofs.Tree.Places

/-!
# The numbers of a tree

`Node.number` counts the nodes of a tree in order. A subtree whose first node has the number `next` therefore takes
up the numbers from `next` up to `next + size`, and the subtree of a child begins behind the subtrees of the
children before it. This is what makes a range of numbers a faithful name for a subtree:

* `walk_eq_preorder`: the order in which nodes are counted is the one in which a walk with a stack meets them.
* `number_index`, `number_lastDescendant`: the two numbers that a node carries are the first and the last number of
  its subtree.
* `getElem?_number_children`: the child at a position is the one that was there, numbered from `childStart` on.
* `childStart_le_of_lt`: the subtree of a child ends before the next one begins, so the number of a node lies in the
  range of one child only (`eq_of_number_mem`).
* `at?_number`: the number of a node is told by its place alone (`numberOf`).
-/

namespace BodyLength

namespace Node

/-! ## Sizes -/

/-- A tree has the nodes of its children and its root. -/
theorem size_eq (n : Node) : n.size = sizeAll n.children + 1 := by
  cases n
  simp only [size]

@[simp] theorem sizeAll_nil : sizeAll [] = 0 := by
  simp only [sizeAll]

@[simp] theorem sizeAll_cons (n : Node) (rest : List Node) :
    sizeAll (n :: rest) = n.size + sizeAll rest := by
  simp only [sizeAll]

/-- The nodes of two lists of trees are counted apart. -/
theorem sizeAll_append (first second : List Node) :
    sizeAll (first ++ second) = sizeAll first + sizeAll second := by
  induction first with
  | nil => simp
  | cons n rest ih => simp [ih, Nat.add_assoc]

/-- There is no tree without a node. -/
theorem size_pos (n : Node) : 0 < n.size := by
  rw [size_eq]
  exact Nat.succ_pos _

/-! ## The walk -/

/-- The nodes of two lists of trees come one list behind the other. -/
theorem preorderAll_append (first second : List Node) :
    preorderAll (first ++ second) = preorderAll first ++ preorderAll second := by
  induction first with
  | nil => simp [preorderAll]
  | cons n rest ih => simp [preorderAll, ih]

/-- What a stack still holds is walked in the order of the tree, if there is a step for each of its nodes. -/
theorem walkStack_eq_preorderAll {steps : Nat} {stack : List Node} (h : sizeAll stack ≤ steps) :
    walkStack steps stack = preorderAll stack := by
  induction steps generalizing stack with
  | zero =>
      cases stack with
      | nil => simp [walkStack, preorderAll]
      | cons n rest =>
          have hpos := n.size_pos
          rw [sizeAll_cons] at h
          omega
  | succ steps ih =>
      cases stack with
      | nil => simp [walkStack, preorderAll]
      | cons n rest =>
          -- the step takes `n` away and puts its children in its place, which are fewer nodes by one
          have hrest : sizeAll (n.children ++ rest) ≤ steps := by
            rw [sizeAll_cons, size_eq] at h
            rw [sizeAll_append]
            omega
          rw [walkStack, ih hrest, preorderAll_append, preorderAll, preorder_eq, List.cons_append]

/-- The walk with a stack meets the nodes of a tree in the order of the tree. It is what the listing does; the checks
recurse. -/
theorem walk_eq_preorder (n : Node) : n.walk = n.preorder := by
  have hsteps : sizeAll [n] ≤ n.size := by simp
  rw [walk, walkStack_eq_preorderAll hsteps, preorderAll, preorderAll, List.append_nil]

/-! ## Where children start -/

/-- The number of a child's first node among the nodes below the parent. -/
def childStart (children : List Node) (position : Nat) : Nat :=
  sizeAll (children.take position)

@[simp] theorem childStart_zero (children : List Node) : childStart children 0 = 0 := by
  simp [childStart]

@[simp] theorem childStart_cons_succ (n : Node) (rest : List Node) (position : Nat) :
    childStart (n :: rest) (position + 1) = n.size + childStart rest position := by
  simp [childStart]

/-- The subtree of a child ends where that of the next one begins. -/
theorem childStart_succ {children : List Node} {position : Nat} {child : Node}
    (h : children[position]? = some child) :
    childStart children (position + 1) = childStart children position + child.size := by
  unfold childStart
  rw [List.take_add_one, h, sizeAll_append]
  simp

/-- Later children start at later numbers. -/
theorem childStart_mono (children : List Node) {first second : Nat} (h : first ≤ second) :
    childStart children first ≤ childStart children second := by
  unfold childStart
  obtain ⟨extra, rfl⟩ := Nat.exists_eq_add_of_le h
  rw [List.take_add, sizeAll_append]
  exact Nat.le_add_right _ _

/-- The subtree of a child ends before that of a later one begins. -/
theorem childStart_le_of_lt {children : List Node} {first second : Nat} {child : Node}
    (hchild : children[first]? = some child) (h : first < second) :
    childStart children first + child.size ≤ childStart children second := by
  rw [← childStart_succ hchild]
  exact childStart_mono children h

/-- A child's subtree lies among the nodes below the parent. -/
theorem childStart_add_size_le {children : List Node} {position : Nat} {child : Node}
    (h : children[position]? = some child) :
    childStart children position + child.size ≤ sizeAll children := by
  rw [← childStart_succ h]
  calc childStart children (position + 1)
      ≤ childStart children (max (position + 1) children.length) :=
        childStart_mono children (Nat.le_max_left _ _)
    _ = sizeAll children := by
        unfold childStart
        rw [List.take_of_length_le (Nat.le_max_right _ _)]

/-- Two children whose subtrees have a number in common are the same child. -/
theorem eq_of_number_mem {children : List Node} {first second : Nat} {a b : Node} (number : Nat)
    (ha : children[first]? = some a) (hb : children[second]? = some b)
    (hfirst : childStart children first ≤ number) (hfirst' : number < childStart children first + a.size)
    (hsecond : childStart children second ≤ number)
    (hsecond' : number < childStart children second + b.size) : first = second := by
  rcases Nat.lt_trichotomy first second with h | h | h
  · have := childStart_le_of_lt ha h
    omega
  · exact h
  · have := childStart_le_of_lt hb h
    omega

/-! ## Numbering keeps everything else -/

variable (next : Nat) (n : Node)

/-- A numbered node is the node with its children numbered, and two numbers of its own: the next one, and the last one
that its children leave. -/
theorem number_eq :
    number next n =
      ({ n with
          children := (numberAll (next + 1) n.children).1
          index := next
          lastDescendant := ((numberAll (next + 1) n.children).2 : Int) - 1 },
        (numberAll (next + 1) n.children).2) := by
  cases n
  simp only [number]

@[simp] theorem number_kind : (number next n).1.kind = n.kind := by rw [number_eq]
@[simp] theorem number_start : (number next n).1.start = n.start := by rw [number_eq]
@[simp] theorem number_stop : (number next n).1.stop = n.stop := by rw [number_eq]
@[simp] theorem number_name : (number next n).1.name = n.name := by rw [number_eq]
@[simp] theorem number_body : (number next n).1.body = n.body := by rw [number_eq]
@[simp] theorem number_callee : (number next n).1.callee = n.callee := by rw [number_eq]
@[simp] theorem number_arguments : (number next n).1.arguments = n.arguments := by rw [number_eq]

@[simp] theorem number_children :
    (number next n).1.children = (numberAll (next + 1) n.children).1 := by rw [number_eq]

@[simp] theorem number_index : (number next n).1.index = next := by rw [number_eq]

/-! ## How far the numbers reach -/

/-- Several subtrees are numbered without a gap if each of them is. -/
theorem numberAll_snd_of_forall (children : List Node) (next : Nat)
    (h : ∀ child ∈ children, ∀ next, (number next child).2 = next + child.size) :
    (numberAll next children).2 = next + sizeAll children := by
  induction children generalizing next with
  | nil => simp only [numberAll, sizeAll_nil, Nat.add_zero]
  | cons n rest ih =>
      simp only [numberAll, sizeAll_cons]
      rw [h n List.mem_cons_self, ih _ fun child hchild => h child (List.mem_cons_of_mem _ hchild)]
      omega

/-- A subtree takes up as many numbers as it has nodes. -/
theorem number_snd (n : Node) (next : Nat) : (number next n).2 = next + n.size := by
  induction n using Node.induction generalizing next with
  | step n ih =>
      rw [number_eq, size_eq]
      simp only
      rw [numberAll_snd_of_forall n.children (next + 1) ih]
      omega

/-- Numbering takes as many numbers as there are nodes. -/
theorem numberAll_snd (children : List Node) (next : Nat) :
    (numberAll next children).2 = next + sizeAll children :=
  numberAll_snd_of_forall children next fun child _ => number_snd child

/-- A node carries the last number of its subtree. -/
theorem number_lastDescendant : (number next n).1.lastDescendant = (next + n.size : Nat) - 1 := by
  rw [number_eq, size_eq]
  simp only [numberAll_snd]
  push_cast
  omega

/-! ## Children -/

/-- Numbering keeps the number of children. -/
theorem length_numberAll (children : List Node) (next : Nat) :
    (numberAll next children).1.length = children.length := by
  induction children generalizing next with
  | nil => simp only [numberAll]
  | cons n rest ih => simp only [numberAll, List.length_cons, ih]

/-- Numbering leaves each of several subtrees at its position. -/
theorem getElem?_numberAll (children : List Node) (next position : Nat) :
    (numberAll next children).1[position]? =
      children[position]?.map fun child => (number (next + childStart children position) child).1 := by
  induction children generalizing next position with
  | nil => simp only [numberAll, List.getElem?_nil, Option.map_none]
  | cons n rest ih =>
      simp only [numberAll, number_snd]
      cases position with
      | zero => simp
      | succ position =>
          rw [List.getElem?_cons_succ, List.getElem?_cons_succ, ih, childStart_cons_succ, Nat.add_assoc]

/-- The child at a position is the one that was there, numbered from its start on. -/
theorem getElem?_number_children (position : Nat) :
    (number next n).1.children[position]? =
      n.children[position]?.map fun child =>
        (number (next + 1 + childStart n.children position) child).1 := by
  rw [number_children, getElem?_numberAll]

/-! ## The number of a place -/

/-- How many nodes come before a place in the order of a tree. -/
def numberOf : Node → List Nat → Nat
  | _, [] => 0
  | n, position :: rest =>
    match n.children[position]? with
    | none => 0
    | some child => childStart n.children position + child.numberOf rest + 1

@[simp] theorem numberOf_nil (n : Node) : n.numberOf [] = 0 := rfl

/-- The number of a place below a child is that of the child and of the place within it. -/
theorem numberOf_cons {n child : Node} {position : Nat} (h : n.children[position]? = some child)
    (rest : List Nat) :
    n.numberOf (position :: rest) = childStart n.children position + child.numberOf rest + 1 := by
  rw [numberOf, h]

/-- The node at a place is the one that was there, numbered from the number of the place on. -/
theorem at?_number (n : Node) (next : Nat) (place : List Nat) :
    (number next n).1.at? place = (n.at? place).map fun m => (number (next + n.numberOf place) m).1 := by
  induction place generalizing n next with
  | nil => rfl
  | cons position rest ih =>
      rw [at?_cons, at?_cons, getElem?_number_children]
      cases hchild : n.children[position]? with
      | none => rfl
      | some child =>
          rw [Option.map_some, Option.bind_some, Option.bind_some, ih, numberOf_cons hchild]
          rw [show next + 1 + childStart n.children position + child.numberOf rest =
            next + (childStart n.children position + child.numberOf rest + 1) by omega]

/-- The node at a place is the one that was there, numbered. -/
theorem exists_at?_number (n : Node) (next : Nat) (place : List Nat) :
    ∃ first, (number next n).1.at? place = (n.at? place).map fun m => (number first m).1 :=
  ⟨_, at?_number n next place⟩

/-- The nodes of a numbered tree are those that were there, numbered. -/
theorem exists_of_mem_preorder_number {n m : Node} {next : Nat} (h : m ∈ (number next n).1.preorder) :
    ∃ first, ∃ m' ∈ n.preorder, (number first m').1 = m := by
  obtain ⟨place, hplace⟩ := mem_preorder_iff.mp h
  rw [at?_number, Option.map_eq_some_iff] at hplace
  obtain ⟨m', hm', rfl⟩ := hplace
  exact ⟨_, m', mem_preorder_iff.mpr ⟨place, hm'⟩, rfl⟩

/-- Every node of a tree is there, numbered, in the numbered tree. -/
theorem exists_number_mem_preorder {n m : Node} (next : Nat) (h : m ∈ n.preorder) :
    ∃ first, (number first m).1 ∈ (number next n).1.preorder := by
  obtain ⟨place, hplace⟩ := mem_preorder_iff.mp h
  have hnumbered := at?_number n next place
  rw [hplace, Option.map_some] at hnumbered
  exact ⟨_, mem_preorder_iff.mpr ⟨place, hnumbered⟩⟩

/-- What is known of the nodes of a tree is known of the nodes of the numbered tree, if it does not depend on numbers.
-/
theorem forall_preorder_number_iff {P : Node → Prop} (hP : ∀ m first, P (number first m).1 ↔ P m) (n : Node)
    (next : Nat) : (∀ m ∈ (number next n).1.preorder, P m) ↔ ∀ m ∈ n.preorder, P m := by
  constructor
  · intro h m hm
    obtain ⟨first, hfirst⟩ := exists_number_mem_preorder next hm
    exact (hP m first).mp (h _ hfirst)
  · intro h m hm
    obtain ⟨first, m', hm', rfl⟩ := exists_of_mem_preorder_number hm
    exact (hP m' first).mpr (h m' hm')

end Node

end BodyLength
