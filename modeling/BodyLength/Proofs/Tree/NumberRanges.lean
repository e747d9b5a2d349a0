import BodyLength.Proofs.Tree.RoundTrip
import Mathlib.Data.Int.ConditionallyCompleteOrder
import Mathlib.Order.Interval.Set.Nat
import Mathlib.Order.CompletePartialOrder

/-!
# Subtrees as ranges of numbers

A numbered node carries two numbers, and the rule takes everything between them for the subtree of the node. Here the
subtrees are said by places, which owe nothing to a count: a node is in the subtree of another one if its place begins
with the place of that one. The two agree on every tree.

* `eq_of_numberOf_eq`, `exists_numberOf_eq`: places and numbers go together one to one.
* `prefix_iff`: a place begins with another one exactly if its number is in the range of the subtree there.
* `numbers_nested_or_disjoint`, `isSplit_number`: how the ranges of a tree lie to each other.
* `getElem?_walk`: the walk with a stack meets a node after as many others as its number says.
* `numbered_isNumbered`: all of this for `Node.numbered`, whatever numbers the tree had before.
-/

namespace BodyLength

namespace Node

/-! ## The number of a place

The number of a place counts the nodes that a walk meets before it: the nodes around the place, and the subtrees in
front on each level. The numbers in a subtree are those from the number of its root on, as many as it has nodes, and
each child takes the next part of them. So there is exactly one place for each number that is less than the number of
nodes. -/

/-- The number of a place below another one is counted on from the number of that one. -/
theorem numberOf_append {n m : Node} {place : List Nat} (h : n.at? place = some m) (below : List Nat) :
    n.numberOf (place ++ below) = n.numberOf place + m.numberOf below := by
  induction place generalizing n with
  | nil =>
      cases h
      simp
  | cons position rest ih =>
      obtain ⟨child, hchild, h⟩ := at?_cons_eq_some_iff.mp h
      rw [List.cons_append, numberOf_cons hchild, numberOf_cons hchild, ih h]
      omega

/-- The nodes of a subtree are among those of the tree. -/
theorem numberOf_add_size_le {n m : Node} {place : List Nat} (h : n.at? place = some m) :
    n.numberOf place + m.size ≤ n.size := by
  induction place generalizing n with
  | nil =>
      cases h
      simp
  | cons position rest ih =>
      obtain ⟨child, hchild, h⟩ := at?_cons_eq_some_iff.mp h
      have hbelow := ih h
      have hwithin := childStart_add_size_le hchild
      rw [numberOf_cons hchild, size_eq n]
      omega

/-- Every number below the size of several subtrees is in one of them. -/
theorem exists_childStart_le {children : List Node} {i : Nat} (h : i < sizeAll children) :
    ∃ position child, children[position]? = some child ∧ childStart children position ≤ i ∧
      i < childStart children position + child.size := by
  induction children generalizing i with
  | nil => simp at h
  | cons n rest ih =>
      rw [sizeAll_cons] at h
      rcases Nat.lt_or_ge i n.size with hlt | hge
      · exact ⟨0, n, rfl, by simp, by simpa using hlt⟩
      · obtain ⟨position, child, hchild, hle, hlt⟩ := ih (i := i - n.size) (by omega)
        refine ⟨position + 1, child, hchild, ?_, ?_⟩
        · rw [childStart_cons_succ]
          omega
        · rw [childStart_cons_succ]
          omega

/-- Every number below the size of a tree is that of a place. -/
theorem exists_numberOf_eq (n : Node) {i : Nat} (h : i < n.size) :
    ∃ place m, n.at? place = some m ∧ n.numberOf place = i := by
  induction n using Node.induction generalizing i with
  | step n ih =>
      cases i with
      | zero => exact ⟨[], n, rfl, rfl⟩
      | succ i =>
          rw [size_eq] at h
          obtain ⟨position, child, hchild, hle, hlt⟩ := exists_childStart_le (Nat.lt_of_succ_lt_succ h)
          obtain ⟨rest, m, hm, hnumber⟩ :=
            ih child (List.mem_of_getElem? hchild) (i := i - childStart n.children position) (by omega)
          refine ⟨position :: rest, m, at?_cons_eq_some_iff.mpr ⟨child, hchild, hm⟩, ?_⟩
          rw [numberOf_cons hchild, hnumber]
          omega

/-- No two places have the same number. -/
theorem eq_of_numberOf_eq {n a b : Node} {first second : List Nat} (ha : n.at? first = some a)
    (hb : n.at? second = some b) (h : n.numberOf first = n.numberOf second) : first = second := by
  induction first generalizing n second with
  | nil =>
      cases second with
      | nil => rfl
      | cons position rest =>
          obtain ⟨child, hchild, -⟩ := at?_cons_eq_some_iff.mp hb
          rw [numberOf_nil, numberOf_cons hchild] at h
          omega
  | cons position rest ih =>
      obtain ⟨child, hchild, ha⟩ := at?_cons_eq_some_iff.mp ha
      cases second with
      | nil =>
          rw [numberOf_nil, numberOf_cons hchild] at h
          omega
      | cons position' rest' =>
          obtain ⟨child', hchild', hb⟩ := at?_cons_eq_some_iff.mp hb
          rw [numberOf_cons hchild, numberOf_cons hchild'] at h
          -- the number lies in the ranges of both children that the places lead through
          have hrange := numberOf_add_size_le ha
          have hrange' := numberOf_add_size_le hb
          have hpos := a.size_pos
          have hpos' := b.size_pos
          obtain rfl : position = position' :=
            eq_of_number_mem (childStart n.children position + child.numberOf rest) hchild hchild'
              (by omega) (by omega) (by omega) (by omega)
          obtain rfl : child = child' := Option.some.inj (hchild.symm.trans hchild')
          rw [ih ha hb (by omega)]

/-! ## Numbering keeps the numbers of places

The number of a place depends on the sizes of subtrees only, and not on the numbers in the nodes. Since numbering
changes nothing but these, a place has the same number before and after it. -/

mutual

/-- Numbering keeps the number of nodes. -/
theorem size_number (next : Nat) : (n : Node) → (number next n).1.size = n.size
  | ⟨_, _, _, _, _, children, _, _, _, _⟩ => by
      simp only [number, size, sizeAll_numberAll (next + 1) children]

/-- So it is for the nodes of several trees. -/
theorem sizeAll_numberAll (next : Nat) : (children : List Node) →
    sizeAll (numberAll next children).1 = sizeAll children
  | [] => by simp only [numberAll]
  | n :: rest => by
      simp only [numberAll, sizeAll_cons, size_number next n, sizeAll_numberAll _ rest]

end

/-- Numbering leaves the children where they start. -/
theorem childStart_numberAll (children : List Node) (next position : Nat) :
    childStart (numberAll next children).1 position = childStart children position := by
  induction children generalizing next position with
  | nil => simp only [numberAll]
  | cons n rest ih =>
      cases position with
      | zero => simp only [childStart_zero]
      | succ position => simp only [numberAll, childStart_cons_succ, size_number, ih]

/-- A place has the same number before and after numbering, whatever the numbers in the nodes were. -/
theorem numberOf_number (next : Nat) (n : Node) (place : List Nat) :
    (number next n).1.numberOf place = n.numberOf place := by
  induction place generalizing n next with
  | nil => rfl
  | cons position rest ih =>
      rw [numberOf, numberOf, getElem?_number_children]
      cases n.children[position]? with
      | none => rfl
      | some child => simp only [Option.map_some, number_children, childStart_numberAll, ih]

/-! ## The order of the walk

The walk of the rule goes by a stack, and meets the nodes in the order in which they are listed. The nodes of a subtree
stand in the list one behind the other, so the index of a node in the list is the number of its place. -/

/-- If every child is met with all its nodes, so are all the children. -/
theorem length_preorderAll_of_forall (children : List Node)
    (h : ∀ child ∈ children, child.preorder.length = child.size) :
    (preorderAll children).length = sizeAll children := by
  induction children with
  | nil => simp [preorderAll]
  | cons n rest ih =>
      rw [List.forall_mem_cons] at h
      rw [preorderAll, List.length_append, h.1, ih h.2, sizeAll_cons]

/-- The walk meets as many nodes as there are. -/
theorem length_preorder (n : Node) : n.preorder.length = n.size := by
  induction n using Node.induction with
  | step n ih => rw [preorder_eq, List.length_cons, length_preorderAll_of_forall n.children ih, size_eq]

/-- The nodes of a child follow those of the children before it. -/
theorem getElem?_preorderAll {children : List Node} {position i : Nat} {child : Node}
    (h : children[position]? = some child) (hi : i < child.size) :
    (preorderAll children)[childStart children position + i]? = child.preorder[i]? := by
  induction children generalizing position with
  | nil => simp at h
  | cons n rest ih =>
      rw [preorderAll]
      cases position with
      | zero =>
          obtain rfl : n = child := Option.some.inj h
          rw [childStart_zero, Nat.zero_add, List.getElem?_append_left (by rwa [length_preorder])]
      | succ position =>
          rw [childStart_cons_succ, Nat.add_assoc, List.getElem?_append_right (by rw [length_preorder]; omega),
            length_preorder, Nat.add_sub_cancel_left, ih h]

/-- A walk meets the node at a place after as many nodes as the number of the place says. -/
theorem getElem?_walk {n m : Node} {place : List Nat} (h : n.at? place = some m) :
    n.walk[n.numberOf place]? = some m := by
  rw [walk_eq_preorder]
  induction place generalizing n with
  | nil =>
      cases h
      rw [numberOf_nil, preorder_eq, List.getElem?_cons_zero]
  | cons position rest ih =>
      obtain ⟨child, hchild, h⟩ := at?_cons_eq_some_iff.mp h
      have hrange := numberOf_add_size_le h
      have hpos := m.size_pos
      rw [numberOf_cons hchild, preorder_eq, List.getElem?_cons_succ,
        getElem?_preorderAll hchild (by omega), ih h]

/-! ## Subtrees as ranges

A node carries the first and the last number of its subtree. What is shown of the places below a node is shown of these
ranges: two of them are nested or have nothing in common, and the range of a node is its own number and the ranges of
its children. -/

/-- The numbers from that of a node up to that of the last node of its subtree. -/
def numbers (n : Node) : Set Int :=
  Set.Icc n.index n.lastDescendant

/-- The numbers of a numbered subtree are a range: they begin with the number of its root, and there are as many as
nodes. -/
theorem numbers_number (next : Nat) (n : Node) :
    (number next n).1.numbers = Set.Ico (next : Int) (next + n.size : Nat) := by
  ext i
  rw [numbers, number_index, number_lastDescendant, Set.mem_Icc, Set.mem_Ico]
  omega

/-- The children of a numbered node are those that were there, each numbered from its start on. -/
theorem mem_children_number {next : Nat} {n child : Node} :
    child ∈ (number next n).1.children ↔ ∃ position c, n.children[position]? = some c ∧
      (number (next + 1 + childStart n.children position) c).1 = child := by
  simp only [List.mem_iff_getElem?, getElem?_number_children, Option.map_eq_some_iff]

/-- A place is below another one exactly if its number is in the range of the subtree there. -/
theorem prefix_iff {root n m : Node} {place place' : List Nat} (hn : root.at? place = some n)
    (hm : root.at? place' = some m) :
    place <+: place' ↔
      root.numberOf place ≤ root.numberOf place' ∧ root.numberOf place' < root.numberOf place + n.size := by
  constructor
  · rintro ⟨below, rfl⟩
    rw [at?_append, hn, Option.bind_some] at hm
    have hrange := numberOf_add_size_le hm
    have hpos := m.size_pos
    rw [numberOf_append hn]
    omega
  · rintro ⟨hle, hlt⟩
    -- the subtree has a node with that number, and no other place has it
    obtain ⟨below, a, ha, hbelow⟩ :=
      n.exists_numberOf_eq (i := root.numberOf place' - root.numberOf place) (by omega)
    have hplace : root.at? (place ++ below) = some a := by
      rw [at?_append, hn, Option.bind_some, ha]
    have hsame : root.numberOf (place ++ below) = root.numberOf place' := by
      rw [numberOf_append hn]
      omega
    exact ⟨below, eq_of_numberOf_eq hplace hm hsame⟩

/-- The range of a subtree has the ranges of the subtrees below within it. -/
theorem numbers_subset_of_isPrefix {root n m : Node} {place place' : List Nat} (hn : root.at? place = some n)
    (hm : root.at? place' = some m) (h : place <+: place') :
    (number (root.numberOf place') m).1.numbers ⊆ (number (root.numberOf place) n).1.numbers := by
  obtain ⟨below, rfl⟩ := h
  rw [at?_append, hn, Option.bind_some] at hm
  have hrange := numberOf_add_size_le hm
  rw [numbers_number, numbers_number, numberOf_append hn]
  apply Set.Ico_subset_Ico
  · omega
  · omega

/-- Two ranges that have a number in common are nested, as the places of two subtrees that have a node in common
are. -/
theorem numbers_nested_or_disjoint {root n m : Node} {place place' : List Nat} (hn : root.at? place = some n)
    (hm : root.at? place' = some m) :
    (number (root.numberOf place) n).1.numbers ⊆ (number (root.numberOf place') m).1.numbers ∨
      (number (root.numberOf place') m).1.numbers ⊆ (number (root.numberOf place) n).1.numbers ∨
        Disjoint (number (root.numberOf place) n).1.numbers (number (root.numberOf place') m).1.numbers := by
  by_cases hcommon : ∃ i, i ∈ (number (root.numberOf place) n).1.numbers ∧
      i ∈ (number (root.numberOf place') m).1.numbers
  · obtain ⟨i, hi, hi'⟩ := hcommon
    rw [numbers_number, Set.mem_Ico] at hi hi'
    have hwithin := numberOf_add_size_le hn
    obtain ⟨common, a, ha, hcommon⟩ := root.exists_numberOf_eq (i := i.toNat) (by omega)
    have hbelow : place <+: common := (prefix_iff hn ha).mpr (by omega)
    have hbelow' : place' <+: common := (prefix_iff hm ha).mpr (by omega)
    rcases List.prefix_or_prefix_of_prefix hbelow hbelow' with h | h
    · exact Or.inr (Or.inl (numbers_subset_of_isPrefix hn hm h))
    · exact Or.inl (numbers_subset_of_isPrefix hm hn h)
  · refine Or.inr (Or.inr (Set.disjoint_left.mpr fun i hi hi' => ?_))
    exact hcommon ⟨i, hi, hi'⟩

/-- Are the numbers of a node, its own one apart, those of its children, each of which takes up a range of them
behind the ranges of the children before it? -/
structure IsSplit (n : Node) : Prop where
  nonempty : ∀ child ∈ n.children, child.index ≤ child.lastDescendant
  ordered : n.children.Pairwise fun a b => a.lastDescendant < b.index
  union : ⋃ child ∈ n.children, child.numbers = n.numbers \ {n.index}

/-- In a numbered tree the numbers below a node are split among its children. Each child takes the next part of the
range. -/
theorem isSplit_number (next : Nat) (n : Node) : (number next n).1.IsSplit where
  nonempty := by
    intro child hchild
    obtain ⟨position, c, -, rfl⟩ := mem_children_number.mp hchild
    have hpos := c.size_pos
    rw [number_index, number_lastDescendant]
    omega
  ordered := by
    rw [List.pairwise_iff_getElem]
    intro first second hfirst hsecond hlt
    have ha := List.getElem?_eq_getElem hfirst
    have hb := List.getElem?_eq_getElem hsecond
    rw [getElem?_number_children, Option.map_eq_some_iff] at ha hb
    obtain ⟨a, ha, ha'⟩ := ha
    obtain ⟨b, hb, hb'⟩ := hb
    have hbehind := childStart_le_of_lt ha hlt
    rw [← ha', ← hb', number_index, number_lastDescendant]
    omega
  union := by
    ext i
    rw [numbers_number, number_index, Set.mem_sdiff, Set.mem_singleton_iff, Set.mem_Ico]
    simp only [Set.mem_iUnion, exists_prop]
    constructor
    · rintro ⟨child, hchild, hi⟩
      obtain ⟨position, c, hc, rfl⟩ := mem_children_number.mp hchild
      have hwithin := childStart_add_size_le hc
      rw [numbers_number, Set.mem_Ico] at hi
      rw [size_eq]
      omega
    · rintro ⟨⟨hle, hlt⟩, hne⟩
      rw [size_eq] at hlt
      have hwithin : (i - (next + 1)).toNat < sizeAll n.children := by omega
      obtain ⟨position, c, hc, hstart, hend⟩ := exists_childStart_le hwithin
      refine ⟨_, mem_children_number.mpr ⟨position, c, hc, rfl⟩, ?_⟩
      rw [numbers_number, Set.mem_Ico]
      omega

/-! ## Numbered trees

A tree that is numbered has at each place the node that was there, numbered from the number of the place on. So all
that is known of the numbers of places is known of the numbers in the nodes. -/

/-- Are the numbers of a tree those of its nodes in order, `count` of them? Nodes are told apart by their places, and
the subtree of a node are the places that begin with its own. -/
structure IsNumbered (tree : Node) (count : Nat) : Prop where
  /-- So many nodes there are. -/
  count_eq : count = {place | (tree.at? place).isSome}.ncard
  /-- Each number below `count` is that of one node, and there are no others. -/
  bijOn : Set.BijOn (fun place => (tree.at? place).map index) {place | (tree.at? place).isSome}
    (some '' Set.Ico 0 (count : Int))
  /-- The walk meets the numbers in order. -/
  walk_index : tree.walk.map index = (List.range count).map fun i : Nat => (i : Int)
  /-- The walk meets each node at its number. -/
  walk_at : ∀ place n, tree.at? place = some n → tree.walk[n.index.toNat]? = some n
  /-- A node is in the subtree of another one if its number is in the range of that one. -/
  below_iff : ∀ place place' n m, tree.at? place = some n → tree.at? place' = some m →
    (place <+: place' ↔ n.index ≤ m.index ∧ m.index ≤ n.lastDescendant)
  /-- Two ranges are nested or have nothing in common. -/
  nested : ∀ place place' n m, tree.at? place = some n → tree.at? place' = some m →
    n.numbers ⊆ m.numbers ∨ m.numbers ⊆ n.numbers ∨ Disjoint n.numbers m.numbers
  /-- The ranges of children make up that of their parent. -/
  isSplit : ∀ place n, tree.at? place = some n → n.IsSplit

/-- The nodes of a numbered tree are those that were there, each numbered from the number of its place on. -/
theorem at?_numbered_eq_some_iff {root n : Node} {place : List Nat} :
    root.numbered.1.at? place = some n ↔
      ∃ m, root.at? place = some m ∧ (number (root.numberOf place) m).1 = n := by
  rw [numbered, at?_number, Option.map_eq_some_iff, Nat.zero_add]

/-- Numbering makes no place and takes none away. -/
theorem isSome_at?_numbered (root : Node) (place : List Nat) :
    (root.numbered.1.at? place).isSome = (root.at? place).isSome := by
  rw [numbered, at?_number, Option.isSome_map]

/-- The numbers of the places are the first ones, each of one place. -/
theorem bijOn_numberOf (root : Node) :
    Set.BijOn root.numberOf {place | (root.at? place).isSome} (Set.Iio root.size) := by
  refine ⟨?_, ?_, ?_⟩
  · intro place hplace
    obtain ⟨m, hm⟩ := Option.isSome_iff_exists.mp hplace
    have hrange := numberOf_add_size_le hm
    have hpos := m.size_pos
    rw [Set.mem_Iio]
    omega
  · intro place hplace place' hplace' h
    obtain ⟨m, hm⟩ := Option.isSome_iff_exists.mp hplace
    obtain ⟨m', hm'⟩ := Option.isSome_iff_exists.mp hplace'
    exact eq_of_numberOf_eq hm hm' h
  · intro i hi
    obtain ⟨place, m, hm, rfl⟩ := root.exists_numberOf_eq hi
    exact ⟨place, by simp [hm], rfl⟩

/-- The walk of a numbered tree meets each node at its number. -/
theorem getElem?_walk_numbered {root m : Node} {place : List Nat} (hm : root.at? place = some m) :
    root.numbered.1.walk[root.numberOf place]? = some (number (root.numberOf place) m).1 := by
  rw [← numberOf_number 0 root place]
  exact getElem?_walk (at?_numbered_eq_some_iff.mpr ⟨m, hm, by rw [numberOf_number]⟩)

/-- The walk of a numbered tree meets the numbers in order. -/
theorem map_index_walk_numbered (root : Node) :
    root.numbered.1.walk.map index = (List.range root.size).map fun i : Nat => (i : Int) := by
  have hlength : root.numbered.1.walk.length = root.size := by
    rw [walk_eq_preorder, length_preorder, numbered, size_number]
  apply List.ext_getElem?
  intro i
  rcases Nat.lt_or_ge i root.size with hlt | hge
  · obtain ⟨place, m, hm, rfl⟩ := root.exists_numberOf_eq hlt
    rw [List.getElem?_map, getElem?_walk_numbered hm, Option.map_some, number_index, List.getElem?_map,
      List.getElem?_range hlt, Option.map_some]
  · rw [List.getElem?_eq_none (by simpa [hlength]), List.getElem?_eq_none (by simpa)]

/-- Each number of a numbered tree is that of one node. -/
theorem bijOn_index_numbered (root : Node) :
    Set.BijOn (fun place => (root.numbered.1.at? place).map index) {place | (root.at? place).isSome}
      (some '' Set.Ico 0 (root.size : Int)) := by
  have hcast : Set.BijOn (fun i : Nat => some (i : Int)) (Set.Iio root.size) (some '' Set.Ico 0 (root.size : Int)) := by
    refine ⟨?_, ?_, ?_⟩
    · intro i hi
      exact ⟨i, by simpa using hi, rfl⟩
    · intro i _ j _ h
      simpa using h
    · rintro _ ⟨i, hi, rfl⟩
      rw [Set.mem_Ico] at hi
      refine ⟨i.toNat, ?_, ?_⟩
      · rw [Set.mem_Iio]
        omega
      · simp only [Option.some.injEq]
        omega
  refine (hcast.comp root.bijOn_numberOf).congr ?_
  intro place hplace
  obtain ⟨m, hm⟩ := Option.isSome_iff_exists.mp hplace
  have hnumbered := at?_numbered_eq_some_iff.mpr ⟨m, hm, rfl⟩
  simp only [Function.comp_apply, hnumbered, Option.map_some, number_index]

/-- **Numbering a tree numbers its nodes in order.** The numbers are those of `IsNumbered`, nothing else of the tree is
changed, and the numbers that it had before play no part. -/
theorem numbered_isNumbered (root : Node) :
    root.numbered.1.IsNumbered root.numbered.2 ∧ root.numbered.1.unnumbered = root.unnumbered ∧
      root.unnumbered.numbered = root.numbered := by
  refine ⟨?_, unnumbered_number 0 root, number_unnumbered 0 root⟩
  have hcount : root.numbered.2 = root.size := by rw [numbered, number_snd, Nat.zero_add]
  have hplaces : {place | (root.numbered.1.at? place).isSome} = {place | (root.at? place).isSome} := by
    ext place
    rw [Set.mem_ofPred_eq, Set.mem_ofPred_eq, isSome_at?_numbered]
  constructor
  case count_eq =>
    rw [hcount, hplaces, ← root.bijOn_numberOf.injOn.ncard_image, root.bijOn_numberOf.image_eq,
      Set.ncard_Iio_nat]
  case bijOn =>
    rw [hcount, hplaces]
    exact root.bijOn_index_numbered
  case walk_index => rw [hcount, map_index_walk_numbered]
  case walk_at =>
    intro place n hn
    obtain ⟨m, hm, rfl⟩ := at?_numbered_eq_some_iff.mp hn
    rw [number_index, Int.toNat_natCast, getElem?_walk_numbered hm]
  case below_iff =>
    intro place place' n m hn hm
    obtain ⟨a, ha, rfl⟩ := at?_numbered_eq_some_iff.mp hn
    obtain ⟨b, hb, rfl⟩ := at?_numbered_eq_some_iff.mp hm
    rw [prefix_iff ha hb, number_index, number_index, number_lastDescendant]
    omega
  case nested =>
    intro place place' n m hn hm
    obtain ⟨a, ha, rfl⟩ := at?_numbered_eq_some_iff.mp hn
    obtain ⟨b, hb, rfl⟩ := at?_numbered_eq_some_iff.mp hm
    exact numbers_nested_or_disjoint ha hb
  case isSplit =>
    intro place n hn
    obtain ⟨m, -, rfl⟩ := at?_numbered_eq_some_iff.mp hn
    exact isSplit_number _ m

end Node

end BodyLength
