import BodyLength.Tree.Node
import Mathlib.Data.List.Basic

/-!
# Places in a tree

A *place* is the list of child positions that lead from a root to a node. Unlike a number it does not
depend on any bookkeeping, and unlike a node it tells two equal subtrees apart, so it is what statements about
a walk are said with: `Node.at?` is the node at a place, `Node.around` are the nodes on the way to it, and
`Node.places` are all places of a tree.

* `mem_places_iff` and `places_pairwise_lt`: `places` holds exactly the places where there is a node, in
  lexicographic order. So the order of `places` is the one in which each node comes before those below it and the
  subtrees of a node follow each other as its children do.
* `map_at?_places`: the nodes at these places are those of `Node.preorder`.
-/

namespace BodyLength

namespace Node

/-! ## Induction -/

/-- What holds of a node whenever it holds of its children holds of every node. -/
@[elab_as_elim]
theorem induction {motive : Node → Prop}
    (step : ∀ n : Node, (∀ child ∈ n.children, motive child) → motive n) (n : Node) : motive n :=
  step n fun child _ => induction step child
termination_by sizeOf n
decreasing_by
  rename_i h
  have hchild := List.sizeOf_lt_of_mem h
  have hchildren : sizeOf n.children < sizeOf n := by
    cases n
    simp only [Node.mk.sizeOf_spec]
    omega
  omega

/-! ## The node at a place

A place is followed from the root, child by child. Where there is no child at a position there is no node. -/

/-- The node at the end of some child positions, if they lead to one. -/
def at? : Node → List Nat → Option Node
  | n, [] => some n
  | n, position :: rest => n.children[position]?.bind fun child => at? child rest

/-- The nodes around a place, the outermost one first. The node at the place is none of them. -/
def around (root : Node) (place : List Nat) : List Node :=
  (List.range place.length).filterMap fun depth => root.at? (place.take depth)

@[simp] theorem at?_nil (n : Node) : n.at? [] = some n := rfl

@[simp] theorem at?_cons (n : Node) (position : Nat) (rest : List Nat) :
    n.at? (position :: rest) = n.children[position]?.bind fun child => child.at? rest := rfl

/-- A place that is not the root is a place within one of the children. -/
theorem at?_cons_eq_some_iff {n m : Node} {position : Nat} {rest : List Nat} :
    n.at? (position :: rest) = some m ↔
      ∃ child, n.children[position]? = some child ∧ child.at? rest = some m := by
  rw [at?_cons, Option.bind_eq_some_iff]

/-- The way to a place goes on from any place on it. -/
theorem at?_append (n : Node) (first second : List Nat) :
    n.at? (first ++ second) = (n.at? first).bind fun m => m.at? second := by
  induction first generalizing n with
  | nil => rfl
  | cons position rest ih =>
      rw [List.cons_append, at?_cons, at?_cons]
      cases n.children[position]? with
      | none => rfl
      | some child => exact ih child

@[simp] theorem around_nil (n : Node) : n.around [] = [] := rfl

/-- Below a child the nodes around a place are the parent and those around it from the child on. -/
theorem around_cons {n child : Node} {position : Nat} (h : n.children[position]? = some child)
    (rest : List Nat) : n.around (position :: rest) = n :: child.around rest := by
  unfold around
  rw [List.length_cons, List.range_succ_eq_map, List.filterMap_cons]
  simp only [List.take_zero, at?_nil, List.filterMap_map]
  congr 1
  apply List.filterMap_congr
  intro depth _
  simp [h]

/-! ## All places

The places of a tree are listed along the same recursion as its nodes, with the position of each child in front of the
places below it. Both lists have the same length, and the node that is listed at an index is the one at the place that
is listed there. -/

mutual

/-- The places of a tree, each before those below it. -/
def places : Node → List (List Nat)
  | ⟨_, _, _, _, _, children, _, _, _, _⟩ => [] :: placesAll 0 children

/-- The places of several subtrees, the first of which is the child at `position`. -/
def placesAll (position : Nat) : List Node → List (List Nat)
  | [] => []
  | n :: rest => n.places.map (position :: ·) ++ placesAll (position + 1) rest

end

/-- The places of a tree are that of its root and those within its children. -/
theorem places_eq (n : Node) : n.places = [] :: placesAll 0 n.children := by
  cases n
  simp only [places]

/-- The root is met before everything below it. -/
theorem preorder_eq (n : Node) : n.preorder = n :: preorderAll n.children := by
  cases n
  simp only [preorder]

/-- Trees in a list are met one after the other. -/
theorem preorderAll_eq (nodes : List Node) : preorderAll nodes = nodes.flatMap preorder := by
  induction nodes with
  | nil => rfl
  | cons n rest ih => rw [preorderAll, ih, List.flatMap_cons]

/-- What is met in a list of trees is met in one of them. -/
theorem mem_preorderAll {m : Node} {nodes : List Node} :
    m ∈ preorderAll nodes ↔ ∃ n ∈ nodes, m ∈ n.preorder := by
  induction nodes with
  | nil => simp [preorderAll]
  | cons n rest ih => simp [preorderAll, ih]

/-- A node is met in its own tree. -/
theorem self_mem_preorder (n : Node) : n ∈ n.preorder := by
  rw [preorder_eq]
  exact List.mem_cons_self

/-- What is met below a child is met below the parent. -/
theorem mem_preorder_of_mem_child {m n child : Node} (hchild : child ∈ n.children)
    (hm : m ∈ child.preorder) : m ∈ n.preorder := by
  rw [preorder_eq]
  exact List.mem_cons_of_mem _ (mem_preorderAll.mpr ⟨child, hchild, hm⟩)

/-- A place of several subtrees leads through one of them. -/
theorem mem_placesAll {position : Nat} {children : List Node} {place : List Nat} :
    place ∈ placesAll position children ↔
      ∃ offset child rest, children[offset]? = some child ∧ rest ∈ child.places ∧
        place = (position + offset) :: rest := by
  induction children generalizing position with
  | nil => simp [placesAll]
  | cons n more ih =>
      simp only [placesAll, List.mem_append, List.mem_map, ih]
      constructor
      · rintro (⟨rest, hrest, rfl⟩ | ⟨offset, child, rest, hchild, hrest, rfl⟩)
        · exact ⟨0, n, rest, by simp, hrest, by simp⟩
        · exact ⟨offset + 1, child, rest, by simpa using hchild, hrest, by simp; omega⟩
      · rintro ⟨offset, child, rest, hchild, hrest, rfl⟩
        cases offset with
        | zero =>
            simp only [List.getElem?_cons_zero, Option.some.injEq] at hchild
            subst hchild
            exact Or.inl ⟨rest, hrest, by simp⟩
        | succ offset =>
            refine Or.inr ⟨offset, child, rest, by simpa using hchild, hrest, ?_⟩
            simp
            omega

/-- The places of a tree are those where there is a node. -/
theorem mem_places_iff (n : Node) (place : List Nat) : place ∈ n.places ↔ (n.at? place).isSome := by
  induction n using Node.induction generalizing place with
  | step n ih =>
      rw [places_eq, List.mem_cons, mem_placesAll]
      cases place with
      | nil => simp
      | cons position rest =>
          simp only [reduceCtorEq, false_or, at?_cons, List.cons.injEq, Nat.zero_add]
          constructor
          · rintro ⟨offset, child, rest', hchild, hrest, rfl, rfl⟩
            rw [hchild, Option.bind_some, ← ih child (List.mem_of_getElem? hchild)]
            exact hrest
          · intro h
            rcases hchild : n.children[position]? with _ | child
            · simp [hchild] at h
            · rw [hchild, Option.bind_some, ← ih child (List.mem_of_getElem? hchild)] at h
              exact ⟨position, child, rest, hchild, h, rfl, rfl⟩

/-- The places of several subtrees come in lexicographic order if those of each of them do. -/
theorem placesAll_pairwise_lt (position : Nat) (children : List Node)
    (h : ∀ child ∈ children, child.places.Pairwise (· < ·)) :
    (placesAll position children).Pairwise (· < ·) := by
  induction children generalizing position with
  | nil => simp [placesAll]
  | cons n more ih =>
      simp only [placesAll]
      rw [List.pairwise_append]
      refine ⟨?_, ih _ fun child hchild => h child (List.mem_cons_of_mem _ hchild), ?_⟩
      · rw [List.pairwise_map]
        exact (h n List.mem_cons_self).imp fun hlt => List.cons_lt_cons_iff.mpr (Or.inr ⟨rfl, hlt⟩)
      · intro first hfirst second hsecond
        obtain ⟨rest, -, rfl⟩ := List.mem_map.mp hfirst
        obtain ⟨offset, _, rest', -, -, rfl⟩ := mem_placesAll.mp hsecond
        exact List.cons_lt_cons_iff.mpr (Or.inl (by omega))

/-- The places of a tree come in lexicographic order, none of them twice. -/
theorem places_pairwise_lt (n : Node) : n.places.Pairwise (· < ·) := by
  induction n using Node.induction with
  | step n ih =>
      rw [places_eq, List.pairwise_cons]
      refine ⟨fun place hplace => ?_, placesAll_pairwise_lt 0 n.children ih⟩
      obtain ⟨_, _, _, -, -, rfl⟩ := mem_placesAll.mp hplace
      exact List.nil_lt_cons _ _

/-- The nodes at the places of several subtrees, met on the way from a node above them. -/
theorem map_at?_placesAll {root : Node} {position : Nat} {children : List Node}
    (hroot : root.children.drop position = children)
    (h : ∀ child ∈ children, child.places.map child.at? = child.preorder.map some) :
    (placesAll position children).map root.at? = (preorderAll children).map some := by
  induction children generalizing position with
  | nil => simp [placesAll, preorderAll]
  | cons n more ih =>
      have hn : root.children[position]? = some n := by
        rw [← List.head?_drop, hroot, List.head?_cons]
      have hmore : root.children.drop (position + 1) = more := by
        rw [← List.drop_drop, hroot, List.drop_one, List.tail_cons]
      simp only [placesAll, preorderAll, List.map_append, List.map_map]
      rw [ih hmore fun child hchild => h child (List.mem_cons_of_mem _ hchild),
        ← h n List.mem_cons_self]
      congr 1
      apply List.map_congr_left
      intro place _
      simp [hn]

/-- The nodes at the places of a tree are its nodes, each before those below it. -/
theorem map_at?_places (n : Node) : n.places.map n.at? = n.preorder.map some := by
  induction n using Node.induction with
  | step n ih =>
      rw [places_eq, preorder_eq, List.map_cons, List.map_cons, at?_nil,
        map_at?_placesAll (List.drop_zero ..) ih]

/-- The nodes of a tree are those at its places. -/
theorem mem_preorder_iff {n m : Node} : m ∈ n.preorder ↔ ∃ place, n.at? place = some m := by
  have hmem : m ∈ n.preorder ↔ some m ∈ n.places.map n.at? := by
    rw [map_at?_places]
    simp
  rw [hmem, List.mem_map]
  constructor
  · rintro ⟨place, -, h⟩
    exact ⟨place, h⟩
  · rintro ⟨place, h⟩
    exact ⟨place, (mem_places_iff n place).mpr (by simp [h]), h⟩

end Node

end BodyLength
