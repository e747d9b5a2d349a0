import BodyLength.Proofs.Source.Covering
import BodyLength.Proofs.Tree.Places
import Mathlib.Data.Set.Function
import Mathlib.Tactic.Choose

/-!
# Where the nodes of a program come from

The tree of a program holds one node for each kept piece, right below the node for the nearest kept piece above it.
This is said by a bijection of places: the origin of a node is the place of the piece that it is for.

* `IsOrigin`: the origins of the nodes below a node are the kept places below several fragments, each once, and
  every node stands below the one for the nearest fragment above.
* `isOrigin_assemble`: origins below the children of a node make up origins below the node. The first kept place on
  the way to a kept place tells which child it is below.
* `Covers.exists_isOrigin`: there are origins below a node whose children cover some fragments.
* `root_keeps_every_piece`: the same for the tree of a program, with what it says about functions, classes, calls,
  names and accesses.
-/

namespace BodyLength

/-! ## The origins of nodes

An origin is a function from the places of nodes to the places of fragments. It is put together from the root down. The
children of a node have first kept places as origins, and below a child the origins are those of the child with its own
origin in front. That this is a bijection is shown in three steps: every node has a kept place, no two have the same
one, and every kept place has a node. Each of these looks at the first kept place on the way, of which there is exactly
one. -/

namespace Fragment

/-- `origin` leads from the places of nodes below `n` to those of the fragments that they are for: every kept
fragment is met once, the node at a place is for the fragment at its origin, and the node above it is for the
nearest kept fragment above. -/
structure IsOrigin (lines : SourceLines) (xs : List Fragment) (n : Node) (origin : List Nat → List Nat) : Prop where
  nil : origin [] = []
  bijOn : Set.BijOn origin {place | (n.at? place).isSome} {place | place = [] ∨ KeptAt xs place}
  describes : ∀ place m, place ≠ [] → n.at? place = some m →
    ∃ y, among? xs (origin place) = some y ∧ y.Describes lines m
  nearest : ∀ place, place ≠ [] → (n.at? place).isSome → IsNearest xs (origin place.dropLast) (origin place)

/-- Only the root comes of the pieces as a whole, so what comes of one of them is not the root. -/
theorem IsOrigin.ne_nil {lines : SourceLines} {xs : List Fragment} {n : Node} {origin : List Nat → List Nat}
    {place : List Nat} (h : IsOrigin lines xs n origin) (hne : origin place ≠ []) : place ≠ [] := by
  rintro rfl
  exact hne h.nil

/-- The origins below a node, from those of its children and those below each child. -/
def assemble (origins : List (List Nat)) (below : Nat → List Nat → List Nat) : List Nat → List Nat
  | [] => []
  | position :: rest => origins[position]?.getD [] ++ below position rest

section Assemble

variable {lines : SourceLines} {xs : List Fragment} {n : Node} {origins : List (List Nat)}
  {below : Nat → List Nat → List Nat}

variable (lines xs n origins) in
/-- The child at a position is for the fragment at the origin with this position, and `under` leads from what is
below the child to what is below that fragment. -/
structure ChildOrigin (under : List Nat → List Nat) (position : Nat) (child : Node) (top : List Nat) (y : Fragment) :
    Prop where
  here : n.children[position]? = some child
  origin : origins[position]? = some top
  isTop : IsTop xs top
  fragment : among? xs top = some y
  describes : y.Describes lines child
  isOrigin : IsOrigin lines y.piece.inner child under

/-- Below a child the assembled origins are those of the child, behind its place. -/
theorem ChildOrigin.assemble_cons {position : Nat} {child : Node} {top : List Nat} {y : Fragment}
    (h : ChildOrigin lines xs n origins (below position) position child top y) (rest : List Nat) :
    assemble origins below (position :: rest) = top ++ below position rest := by
  rw [assemble, h.origin, Option.getD_some]

variable (hchildren : ∀ position child, n.children[position]? = some child →
  ∃ top y, ChildOrigin lines xs n origins (below position) position child top y)

include hchildren in
/-- A place below the root is a place in a child, and the child has its origin. -/
theorem exists_childOrigin {position : Nat} {rest : List Nat} {m : Node} (h : n.at? (position :: rest) = some m) :
    ∃ child top y, child.at? rest = some m ∧ ChildOrigin lines xs n origins (below position) position child top y := by
  rw [Node.at?_cons, Option.bind_eq_some_iff] at h
  obtain ⟨child, hchild, hm⟩ := h
  obtain ⟨top, y, hy⟩ := hchildren position child hchild
  exact ⟨child, top, y, hm, hy⟩

include hchildren in
/-- Every node comes of the whole or of something kept. -/
theorem assemble_mapsTo : Set.MapsTo (assemble origins below) {place | (n.at? place).isSome}
    {place | place = [] ∨ KeptAt xs place} := by
  rintro (_ | ⟨position, rest⟩) hplace
  · exact Or.inl rfl
  · obtain ⟨m, hm⟩ := Option.isSome_iff_exists.mp hplace
    obtain ⟨child, top, y, hrest, hy⟩ := exists_childOrigin hchildren hm
    right
    rw [hy.assemble_cons]
    rcases hy.isOrigin.bijOn.mapsTo (Option.isSome_iff_exists.mpr ⟨m, hrest⟩) with hnil | hkept
    · rw [hnil, List.append_nil]
      exact hy.isTop.keptAt
    · have hne : below position rest ≠ [] := fun hnil => not_keptAt_nil _ (hnil ▸ hkept)
      exact (keptAt_append hy.fragment hne).mpr hkept

include hchildren in
/-- No two nodes come of one piece: children that come of different pieces have nothing in common, since no kept piece
on top is within another. -/
theorem assemble_injOn (hnodup : origins.Nodup) :
    Set.InjOn (assemble origins below) {place | (n.at? place).isSome} := by
  have hcons : ∀ position rest, (n.at? (position :: rest)).isSome → assemble origins below (position :: rest) ≠ [] := by
    intro position rest hplace hnil
    obtain ⟨m, hm⟩ := Option.isSome_iff_exists.mp hplace
    obtain ⟨child, top, y, -, hy⟩ := exists_childOrigin hchildren hm
    rw [hy.assemble_cons] at hnil
    have htop := hy.isTop
    rw [(List.append_eq_nil_iff.mp hnil).1] at htop
    exact htop
  rintro (_ | ⟨position, rest⟩) hplace (_ | ⟨position', rest'⟩) hplace' heq
  · rfl
  · exact absurd heq.symm (hcons position' rest' hplace')
  · exact absurd heq (hcons position rest hplace)
  · obtain ⟨m, hm⟩ := Option.isSome_iff_exists.mp hplace
    obtain ⟨m', hm'⟩ := Option.isSome_iff_exists.mp hplace'
    obtain ⟨child, top, y, hrest, hy⟩ := exists_childOrigin hchildren hm
    obtain ⟨child', top', y', hrest', hy'⟩ := exists_childOrigin hchildren hm'
    rw [hy.assemble_cons, hy'.assemble_cons] at heq
    -- Both origins are the first kept place on the way to one place, and each child has an origin of its own.
    have htop : top = top' :=
      hy.isTop.eq_of_prefix hy'.isTop (List.prefix_append top (below position rest)) ⟨_, heq.symm⟩
    subst htop
    have hposition : position = position' :=
      (List.getElem?_inj (List.getElem?_eq_some_iff.mp hy.origin).1 hnodup).mp (hy.origin.trans hy'.origin.symm)
    subst hposition
    have hchild : child = child' := Option.some.inj (hy.here.symm.trans hy'.here)
    subst hchild
    rw [hy.isOrigin.bijOn.injOn (Option.isSome_iff_exists.mpr ⟨m, hrest⟩) (Option.isSome_iff_exists.mpr ⟨m', hrest'⟩)
      (List.append_cancel_left heq)]

include hchildren in
/-- Every kept piece has a node: it is one of those on top, or below one of them. -/
theorem assemble_surjOn (htops : ∀ place, place ∈ origins ↔ IsTop xs place)
    (hlength : origins.length = n.children.length) :
    Set.SurjOn (assemble origins below) {place | (n.at? place).isSome} {place | place = [] ∨ KeptAt xs place} := by
  rintro place (rfl | hkept)
  · exact ⟨[], rfl, rfl⟩
  · obtain ⟨top, ⟨more, rfl⟩, htop⟩ := exists_isTop_prefix hkept
    obtain ⟨position, hposition⟩ := List.mem_iff_getElem?.mp ((htops top).mpr htop)
    have hlt : position < n.children.length := hlength ▸ (List.getElem?_eq_some_iff.mp hposition).1
    obtain ⟨top', y, hy⟩ := hchildren position _ (List.getElem?_eq_getElem hlt)
    obtain rfl : top' = top := Option.some.inj (hy.origin.symm.trans hposition)
    have hmore : more = [] ∨ KeptAt y.piece.inner more := by
      by_cases hnil : more = []
      · exact Or.inl hnil
      · exact Or.inr ((keptAt_append hy.fragment hnil).mp hkept)
    obtain ⟨rest, hrest, rfl⟩ := hy.isOrigin.bijOn.surjOn hmore
    exact ⟨position :: rest, by simpa [hy.here] using hrest, hy.assemble_cons rest⟩

include hchildren in
/-- Origins below the children make up origins below the node. -/
theorem isOrigin_assemble (hnodup : origins.Nodup) (htops : ∀ place, place ∈ origins ↔ IsTop xs place)
    (hlength : origins.length = n.children.length) : IsOrigin lines xs n (assemble origins below) where
  nil := rfl
  bijOn := ⟨assemble_mapsTo hchildren, assemble_injOn hchildren hnodup, assemble_surjOn hchildren htops hlength⟩
  describes := by
    rintro (_ | ⟨position, rest⟩) m hne hm
    · exact absurd rfl hne
    · obtain ⟨child, top, y, hrest, hy⟩ := exists_childOrigin hchildren hm
      rw [hy.assemble_cons]
      by_cases hnil : rest = []
      · subst hnil
        obtain rfl : child = m := Option.some.inj hrest
        exact ⟨y, by rw [hy.isOrigin.nil, List.append_nil, hy.fragment], hy.describes⟩
      · obtain ⟨z, hz, hdescribes⟩ := hy.isOrigin.describes rest m hnil hrest
        have hne : below position rest ≠ [] := by
          intro heq
          rw [heq] at hz
          exact absurd hz (by simp)
        exact ⟨z, by rw [among?_append hy.fragment, at?_eq_among? y hne, hz], hdescribes⟩
  nearest := by
    rintro (_ | ⟨position, rest⟩) hne hplace
    · exact absurd rfl hne
    · obtain ⟨m, hm⟩ := Option.isSome_iff_exists.mp hplace
      obtain ⟨child, top, y, hrest, hy⟩ := exists_childOrigin hchildren hm
      rw [hy.assemble_cons]
      by_cases hnil : rest = []
      · subst hnil
        rw [hy.isOrigin.nil, List.append_nil]
        exact hy.isTop.isNearest
      · rw [List.dropLast_cons_of_ne_nil hnil, hy.assemble_cons]
        have hnearest := hy.isOrigin.nearest rest hnil (Option.isSome_iff_exists.mpr ⟨m, hrest⟩)
        exact hnearest.append hy.isTop.keptAt hy.fragment

end Assemble

/-- Origins below a node that covers several fragments with its children, if there are some below each child. -/
theorem exists_isOrigin {lines : SourceLines} {xs : List Fragment} {n : Node} {origins : List (List Nat)}
    (hnodup : origins.Nodup) (htops : ∀ place, place ∈ origins ↔ IsTop xs place)
    (hlength : origins.length = n.children.length)
    (hchildren : ∀ place child, (place, child) ∈ origins.zip n.children → ∃ y, among? xs place = some y ∧
      y.Describes lines child ∧ ∃ origin, IsOrigin lines y.piece.inner child origin) :
    ∃ origin, IsOrigin lines xs n origin := by
  have hunder : ∀ position, ∃ under, ∀ child, n.children[position]? = some child →
      ∃ top y, ChildOrigin lines xs n origins under position child top y := by
    intro position
    rcases hchild : n.children[position]? with _ | child
    · exact ⟨id, nofun⟩
    · have hlt : position < origins.length := hlength ▸ (List.getElem?_eq_some_iff.mp hchild).1
      have htop := List.getElem?_eq_getElem hlt
      obtain ⟨y, hy, hdescribes, under, hunder⟩ :=
        hchildren _ child (List.mem_of_getElem? (List.getElem?_zip_eq_some.mpr ⟨htop, hchild⟩))
      refine ⟨under, ?_⟩
      rintro _ ⟨⟩
      exact ⟨_, y, hchild, htop, (htops _).mp (List.mem_of_getElem? htop), hy, hdescribes, hunder⟩
  choose below hbelow using hunder
  exact ⟨assemble origins below, isOrigin_assemble hbelow hnodup htops hlength⟩

/-- A node that stems from a piece is described by it. -/
theorem Stems.describes {lines : SourceLines} {x : Fragment} {n : Node} (h : Stems lines x n) :
    x.Describes lines n := by
  cases h
  assumption

/-- Below a node that stems from a fragment every node has its origin below the fragment. -/
theorem Stems.exists_isOrigin {lines : SourceLines} {x : Fragment} {n : Node} (h : Stems lines x n) :
    ∃ origin, IsOrigin lines x.piece.inner n origin := by
  induction h with
  | intro origins hdescribes hnodup htops hlength hchildren ih =>
      refine Fragment.exists_isOrigin hnodup htops hlength fun place child hmem => ?_
      obtain ⟨y, hy, -⟩ := ((htops place).mp (List.of_mem_zip hmem).1).keptAt
      exact ⟨y, hy, (hchildren place child y hmem hy).describes, ih place child y hmem hy⟩

/-- Below a node whose children cover several fragments every node has its origin among them. -/
theorem Covers.exists_isOrigin {lines : SourceLines} {xs : List Fragment} {n : Node} (h : Covers lines xs n.children) :
    ∃ origin, IsOrigin lines xs n origin := by
  obtain ⟨origins, hnodup, htops, hnodes⟩ := h
  obtain ⟨hlength, hnodes⟩ := List.forall₂_iff_zip.mp hnodes
  refine Fragment.exists_isOrigin hnodup htops hlength fun place child hmem => ?_
  obtain ⟨y, hy, hstems⟩ := hnodes hmem
  exact ⟨y, hy, hstems.describes, hstems.exists_isOrigin⟩

end Fragment

/-! ## The tree of a program

The statements of a program are covered by the children of the root, so there are origins for the tree of the program.
Whether a piece is a function, a class, a call, a name or an access can be told from the kind of its node, and all
pieces of these forms are kept. So the bijection of all places is one for each of these forms. -/

/-- What is told apart both in programs and in trees. -/
inductive Form where
  | functionLike
  | classLike
  | call
  | name
  | access
  | other
deriving DecidableEq, Repr

/-- What a kind of node is for. -/
def Kind.form (k : Kind) : Form :=
  match k with
  | .classDeclaration => .classLike
  | .callExpression => .call
  | .identifier => .name
  | .propertyAccess => .access
  | k => if k.isFunctionLike then .functionLike else .other

/-- A kind has the form of functions exactly if it is one of those that are checked. -/
theorem Kind.form_eq_functionLike_iff (k : Kind) : k.form = .functionLike ↔ k.isFunctionLike := by
  cases k <;> decide

namespace Ast

/-- What a piece of a program is. -/
def form : Ast → Form
  | function _ _ _ _ _ _ => .functionLike
  | lambda _ _ _ => .functionLike
  | classDef _ _ _ _ _ _ => .classLike
  | call _ _ _ _ => .call
  | name _ _ => .name
  | access _ _ _ => .access
  | _ => .other

/-- The kind of a node has the form of the piece that it is made of. -/
theorem form_kind (x : Fragment) : x.kind.form = x.piece.form := by
  obtain ⟨role, piece⟩ := x
  cases piece with
  | function =>
      simp only [Fragment.kind, functionKind]
      split_ifs <;> rfl
  | _ => rfl

/-- Pieces of all forms but the last are kept. -/
theorem isKept_of_form_ne_other {x : Fragment} (h : x.piece.form ≠ .other) : x.isKept := by
  obtain ⟨role, piece⟩ := x
  cases piece <;> simp_all [Fragment.isKept, extent?, isKeyword, form]

open Fragment

variable {lines : SourceLines} {program : List Ast} {origin : List Nat → List Nat}

/-- The children of the root cover the statements of the program. -/
theorem root_covers (lines : SourceLines) (program : List Ast) :
    Covers lines (ofProgram program) (root lines program).children :=
  lowerAll_covers lines .plain program (by decide)

/-- The node at a place says what the piece at its origin is. -/
theorem describes_of_isOrigin (h : IsOrigin lines (ofProgram program) (root lines program) origin) {place : List Nat}
    {n : Node} {y : Fragment} (hn : (root lines program).at? place = some n)
    (hy : among? (ofProgram program) (origin place) = some y) : y.Describes lines n := by
  have hne : place ≠ [] := by
    rintro rfl
    rw [h.nil] at hy
    exact absurd hy (by simp)
  obtain ⟨z, hz, hdescribes⟩ := h.describes place n hne hn
  rw [hy, Option.some.injEq] at hz
  exact hz ▸ hdescribes

/-- Each function, class, call, name and access of a program has one node of its own, and there is no other node of
such a kind. -/
theorem bijOn_form (h : IsOrigin lines (ofProgram program) (root lines program) origin) {form : Form}
    (hform : form ≠ .other) :
    Set.BijOn origin {place | ∃ n, (root lines program).at? place = some n ∧ n.kind.form = form}
      {place | ∃ y, among? (ofProgram program) place = some y ∧ y.piece.form = form} := by
  refine ⟨?_, h.bijOn.injOn.mono ?_, ?_⟩
  · rintro place ⟨n, hn, rfl⟩
    have hne : place ≠ [] := by
      rintro rfl
      obtain rfl : root lines program = n := Option.some.inj hn
      exact hform rfl
    obtain ⟨y, hy, hdescribes⟩ := h.describes place n hne hn
    exact ⟨y, hy, by rw [hdescribes.kind, form_kind]⟩
  · rintro place ⟨n, hn, -⟩
    exact Option.isSome_iff_exists.mpr ⟨n, hn⟩
  · rintro place ⟨y, hy, rfl⟩
    obtain ⟨place, hplace, rfl⟩ := h.bijOn.surjOn (Or.inr ⟨y, hy, isKept_of_form_ne_other hform⟩)
    obtain ⟨n, hn⟩ := Option.isSome_iff_exists.mp hplace
    exact ⟨place, ⟨n, hn, by rw [(describes_of_isOrigin h hn hy).kind, form_kind]⟩, rfl⟩

/-- The three kinds of named functions, by the name and by whether the function is a member of a class. -/
theorem functionKind_eq_iff (isMember : Bool) (id : String) :
    (functionKind isMember id = .constructorDeclaration ↔ isMember ∧ id = constructorName) ∧
      (functionKind isMember id = .methodDeclaration ↔ isMember ∧ id ≠ constructorName) ∧
      (functionKind isMember id = .functionDeclaration ↔ isMember = false) := by
  unfold functionKind
  split_ifs <;> simp_all

/-- The tree of a program loses and duplicates nothing. There are origins of its nodes under which each kept piece
is met once and each node stands right below that for the nearest kept piece above its own; functions, classes,
calls, names and accesses are met by the nodes of their kinds; and a named function is a constructor or a method as
a direct statement of a class, the constructor if it is named so, and a plain function anywhere else. -/
theorem root_keeps_every_piece (lines : SourceLines) (program : List Ast) :
    ∃ origin : List Nat → List Nat,
      IsOrigin lines (ofProgram program) (root lines program) origin ∧
      (∀ form, form ≠ Form.other →
        Set.BijOn origin {place | ∃ n, (root lines program).at? place = some n ∧ n.kind.form = form}
          {place | ∃ y, among? (ofProgram program) place = some y ∧ y.piece.form = form}) ∧
      ∀ place n role extent id parameters body decorators returns,
        (root lines program).at? place = some n →
        among? (ofProgram program) (origin place) =
          some ⟨role, .function extent id parameters body decorators returns⟩ →
        (n.kind = .constructorDeclaration ↔
          IsClassStatement (ofProgram program) (origin place) ∧ id = "__init__") ∧
        (n.kind = .methodDeclaration ↔ IsClassStatement (ofProgram program) (origin place) ∧ id ≠ "__init__") ∧
        (n.kind = .functionDeclaration ↔ ¬IsClassStatement (ofProgram program) (origin place)) := by
  obtain ⟨origin, horigin⟩ := (root_covers lines program).exists_isOrigin
  refine ⟨origin, horigin, fun form hform => bijOn_form horigin hform, ?_⟩
  intro place n role extent id parameters body decorators returns hn hy
  have hkind : n.kind = functionKind (role == .member) id := (describes_of_isOrigin horigin hn hy).kind
  have hmember := role_eq_member_iff hy
  simp only at hmember
  rw [hkind, ← hmember]
  simpa [constructorName] using functionKind_eq_iff (role == .member) id

/-- A class with a constructor, in which a function of the same name is defined, and with one more under a condition. -/
def nestedConstructors : List Ast :=
  [.classDef default "C" [] []
    [.function default "__init__" [] [.function default "__init__" [] [] [] []] [] [],
      .construct default .plain [.function default "__init__" [] [] [] []]] []]

/-- The other two are plain functions. -/
example : (root (SourceLines.ofChars []) nestedConstructors).preorder.map (·.kind) =
    [.sourceFile, .classDeclaration, .constructorDeclaration, .functionDeclaration, .other, .functionDeclaration] := by
  decide

end Ast

end BodyLength
