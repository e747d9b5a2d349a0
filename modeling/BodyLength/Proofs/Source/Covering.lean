import BodyLength.Proofs.Source.Pieces
import BodyLength.Source.Lowering
import Mathlib.Data.List.Forall2
import Mathlib.Data.List.Nodup
import Mathlib.Data.List.Perm.Basic

/-!
# What pieces of a program become

The nodes that pieces become are those for the first kept fragments among them, each once, and so on below each
node. This is all that the three functions for lowering have in common: one puts the nodes of some pieces behind
those of others, one leaves a piece out and passes on what is below it, and one reorders.

* `Covers`: several nodes are those for the first kept ones of several fragments, each once; `Stems`: a node is for
  a fragment, and the nodes below it cover those below the fragment.
* `Covers.append`, `Covers.perm`, `covers_singleton_of_isKept` and `covers_singleton_of_not_isKept`: covering is
  kept by appending and by reordering, and a fragment is covered by its node or else by what covers the fragments
  below it.
* `lower_covers`: what a piece becomes covers it, by induction along the functions for lowering.
-/

namespace BodyLength

/-! ## What a node says about its piece

A node says the kind, the name, the range and the range of the body, all of which are told by the piece and its role.
What is below the node is told by what is below the piece. Since a piece that is left out passes on what is below it,
this cannot be said child by child: it is said of all first kept fragments at once, by a list of their places, without
an order. -/

/-- The name that a piece gives to its node. -/
def Ast.nodeName? : Ast → Option String
  | function _ id _ _ _ _ => some id
  | classDef _ id _ _ _ _ => some id
  | name _ id => some id
  | access _ _ member => some member
  | _ => none

/-- The positions of the body of a function. -/
def Ast.bodySpan? (lines : SourceLines) : Ast → Option Span
  | function _ _ _ body _ _ => some (bodySpan lines body)
  | lambda _ _ body => some (span lines body.extent)
  | _ => none

namespace Fragment

/-- The kind of the node for a fragment. -/
def kind (x : Fragment) : Kind :=
  match x.piece with
  | .function _ id _ _ _ _ => Ast.functionKind (x.role == .member) id
  | .lambda _ _ _ => .arrowFunction
  | .classDef _ _ _ _ _ _ => .classDeclaration
  | .call _ _ _ _ => .callExpression
  | .name _ _ => .identifier
  | .access _ _ _ => .propertyAccess
  | _ => .other

/-- Is a node one for a fragment, apart from what is below it? -/
structure Describes (lines : SourceLines) (x : Fragment) (n : Node) : Prop where
  kind : n.kind = x.kind
  start : n.start = (Ast.span lines x.piece.extent).start
  stop : n.stop = (Ast.span lines x.piece.extent).stop
  name : n.name = x.piece.nodeName?
  body : n.body = x.piece.bodySpan? lines

/-- Is a node one for a fragment, with the nodes below it being those for the first kept fragments below, each once? -/
inductive Stems (lines : SourceLines) : Fragment → Node → Prop where
  | intro {x : Fragment} {n : Node} (origins : List (List Nat)) (describes : x.Describes lines n)
      (nodup : origins.Nodup) (tops : ∀ place, place ∈ origins ↔ IsTop x.piece.inner place)
      (length : origins.length = n.children.length)
      (children : ∀ place child y, (place, child) ∈ origins.zip n.children →
        among? x.piece.inner place = some y → Stems lines y child) : Stems lines x n

/-- Are nodes those for the first kept ones of several fragments, each once? -/
def Covers (lines : SourceLines) (xs : List Fragment) (nodes : List Node) : Prop :=
  ∃ origins : List (List Nat), origins.Nodup ∧ (∀ place, place ∈ origins ↔ IsTop xs place) ∧
    List.Forall₂ (fun place n => ∃ y, among? xs place = some y ∧ Stems lines y n) origins nodes

variable {lines : SourceLines} {xs ys : List Fragment} {x y : Fragment} {n : Node} {nodes more : List Node}

/-- A node that is described by a piece, with children that cover what is in the piece, stems from it. -/
theorem stems_of_covers (h : x.Describes lines n) (hcovers : Covers lines x.piece.inner n.children) :
    Stems lines x n := by
  obtain ⟨origins, hnodup, htops, hnodes⟩ := hcovers
  obtain ⟨hlength, hnodes⟩ := List.forall₂_iff_zip.mp hnodes
  refine .intro origins h hnodup htops hlength fun place child y hmem hy => ?_
  obtain ⟨z, hz, hstems⟩ := hnodes hmem
  rw [hy, Option.some.injEq] at hz
  exact hz ▸ hstems

/-! ## Covering, piece by piece

There are three ways in which nodes for several pieces are put together, and each is a lemma. The places of the pieces
behind others are shifted by the number of those in front; a kept piece is one place and one node; and below a piece
that is left out all places become longer by one position. -/

/-- No pieces are covered by no nodes. -/
theorem covers_nil : Covers lines [] [] :=
  ⟨[], List.nodup_nil, fun place => by cases place <;> simp [IsTop], .nil⟩

/-- The place of a fragment that comes behind others. -/
def shift (count : Nat) : List Nat → List Nat
  | [] => []
  | position :: rest => (count + position) :: rest

/-- Places that are shifted stay apart. -/
theorem shift_injective (count : Nat) : Function.Injective (shift count) := by
  intro first second h
  cases first <;> cases second <;> simp_all [shift]

/-- What stands at a place among some pieces stands there if more follow. -/
theorem among?_append_left {place : List Nat} (h : among? xs place = some y) : among? (xs ++ ys) place = some y := by
  cases place with
  | nil => simp at h
  | cons position rest =>
      rw [among?_cons, Option.bind_eq_some_iff] at h ⊢
      obtain ⟨z, hz, hy⟩ := h
      have hlt := (List.getElem?_eq_some_iff.mp hz).1
      exact ⟨z, by rw [List.getElem?_append_left hlt, hz], hy⟩

/-- And what stands at a place among those that follow stands there, shifted by as many as are in front. -/
theorem among?_append_shift (xs ys : List Fragment) (place : List Nat) :
    among? (xs ++ ys) (shift xs.length place) = among? ys place := by
  cases place with
  | nil => rfl
  | cons position rest => simp [shift, List.getElem?_append_right]

/-- The first kept places of fragments in a row are those of the first ones and the shifted ones of the others. -/
theorem isTop_append {place : List Nat} :
    IsTop (xs ++ ys) place ↔ IsTop xs place ∨ ∃ place', IsTop ys place' ∧ shift xs.length place' = place := by
  cases place with
  | nil =>
      simp only [not_isTop_nil, false_or, false_iff, not_exists, not_and]
      rintro (_ | ⟨position, rest⟩) h heq
      · exact h
      · simp [shift] at heq
  | cons position rest =>
      by_cases hlt : position < xs.length
      · have hright : ¬∃ place', IsTop ys place' ∧ shift xs.length place' = position :: rest := by
          rintro ⟨_ | ⟨position', rest'⟩, -, heq⟩
          · simp [shift] at heq
          · simp only [shift, List.cons.injEq] at heq
            omega
        simp only [IsTop, List.getElem?_append_left hlt, hright, or_false]
      · have hleft : ¬IsTop xs (position :: rest) := by
          rintro ⟨y, hy, -⟩
          exact hlt (List.getElem?_eq_some_iff.mp hy).1
        rw [or_iff_right hleft]
        constructor
        · rintro ⟨y, hy, hrest⟩
          rw [List.getElem?_append_right (by omega)] at hy
          refine ⟨(position - xs.length) :: rest, ⟨y, hy, hrest⟩, ?_⟩
          simp only [shift, List.cons.injEq, and_true]
          omega
        · rintro ⟨_ | ⟨position', rest'⟩, h, heq⟩
          · exact h.elim
          · obtain ⟨y, hy, hrest⟩ := h
            simp only [shift, List.cons.injEq] at heq
            obtain ⟨rfl, rfl⟩ := heq
            exact ⟨y, by rw [List.getElem?_append_right (by omega)]; simpa using hy, hrest⟩

/-- What covers fragments and what covers others covers both in a row. -/
theorem Covers.append (h : Covers lines xs nodes) (h' : Covers lines ys more) :
    Covers lines (xs ++ ys) (nodes ++ more) := by
  obtain ⟨origins, hnodup, htops, hnodes⟩ := h
  obtain ⟨origins', hnodup', htops', hmore⟩ := h'
  refine ⟨origins ++ origins'.map (shift xs.length), ?_, fun place => ?_, ?_⟩
  · refine hnodup.append (hnodup'.map (shift_injective _)) ?_
    intro place hplace hshifted
    obtain ⟨place', -, rfl⟩ := List.mem_map.mp hshifted
    have hleft := (htops _).mp hplace
    cases place' with
    | nil => exact hleft
    | cons position rest =>
        obtain ⟨y, hy, -⟩ := hleft
        have := (List.getElem?_eq_some_iff.mp hy).1
        omega
  · rw [List.mem_append, List.mem_map, isTop_append, htops]
    simp only [htops']
  · refine List.rel_append ?_ ?_
    · refine hnodes.imp fun place n hn => ?_
      obtain ⟨y, hy, hstems⟩ := hn
      exact ⟨y, among?_append_left hy, hstems⟩
    · rw [List.forall₂_map_left_iff]
      refine hmore.imp fun place n hn => ?_
      rw [among?_append_shift]
      exact hn

/-- A kept fragment is covered by its node. -/
theorem covers_singleton_of_isKept (hkept : x.isKept) (h : Stems lines x n) : Covers lines [x] [n] := by
  refine ⟨[[0]], List.nodup_singleton _, fun place => ?_, .cons ⟨x, by simp, h⟩ .nil⟩
  rw [List.mem_singleton]
  rcases place with _ | ⟨_ | position, rest⟩
  · simp
  · rw [isTop_cons_of_isKept (y := x) (by simp) hkept]
    simp
  · simp [IsTop]

/-- A fragment that is left out is covered by the nodes for those below it. -/
theorem covers_singleton_of_not_isKept (hkept : x.isKept = false) (h : Covers lines x.piece.inner nodes) :
    Covers lines [x] nodes := by
  obtain ⟨origins, hnodup, htops, hnodes⟩ := h
  refine ⟨origins.map (0 :: ·), hnodup.map List.cons_injective, fun place => ?_, ?_⟩
  · rw [List.mem_map]
    simp only [htops]
    rcases place with _ | ⟨_ | position, rest⟩
    · simp
    · rw [isTop_cons_of_not_isKept (y := x) (by simp) hkept]
      simp
    · simp [IsTop]
  · rw [List.forall₂_map_left_iff]
    refine hnodes.imp fun place n hn => ?_
    obtain ⟨y, hy, hstems⟩ := hn
    have hne : place ≠ [] := by
      rintro rfl
      simp at hy
    exact ⟨y, by simp [at?_eq_among? x hne, hy], hstems⟩

/-- The order of the nodes does not matter. -/
theorem Covers.perm (h : Covers lines xs nodes) (hperm : nodes.Perm more) : Covers lines xs more := by
  obtain ⟨origins, hnodup, htops, hnodes⟩ := h
  have hcomp : Relation.Comp (List.Forall₂ fun place n => ∃ y, among? xs place = some y ∧ Stems lines y n)
      List.Perm origins more := ⟨nodes, hnodes, hperm⟩
  rw [List.forall₂_comp_perm_eq_perm_comp_forall₂] at hcomp
  obtain ⟨origins', horigins, hmore⟩ := hcomp
  exact ⟨origins', horigins.nodup_iff.mp hnodup, fun place => by rw [← horigins.mem_iff, htops], hmore⟩

end Fragment

/-! ## Lowering covers

The three functions for lowering are defined by each other, along the pieces of a program, and so is the proof. In most
cases the parts of a piece are lowered one list behind the other. A call is the one that has its arguments put in
order, which covering allows for. -/

namespace Ast

open Fragment

mutual

/-- What a piece becomes covers it. The keyword of an argument is left out where the call is lowered, not here. -/
theorem lower_covers (lines : SourceLines) (role : Role) :
    (a : Ast) → (role = .passed → a.isKeyword = false) → Covers lines [⟨role, a⟩] (lower lines (role == .member) a)
  | function extent id parameters body decorators returns, _ => by
      rw [lower]
      refine covers_singleton_of_isKept (by simp [isKept, extent?, isKeyword])
        (stems_of_covers ⟨rfl, rfl, rfl, rfl, rfl⟩ ?_)
      rw [inner]
      simp only [List.map_append]
      exact (((lowerAll_covers lines .plain parameters nofun).append
        (lowerAll_covers lines .plain body nofun)).append
        (lowerAll_covers lines .plain decorators nofun)).append
        (lowerAll_covers lines .plain returns nofun)
  | lambda extent parameters body, _ => by
      rw [lower]
      refine covers_singleton_of_isKept (by simp [isKept, extent?, isKeyword])
        (stems_of_covers ⟨rfl, rfl, rfl, rfl, rfl⟩ ?_)
      rw [inner]
      simp only [List.map_append]
      exact (lowerAll_covers lines .plain parameters nofun).append (lower_covers lines .plain body nofun)
  | classDef extent id bases keywords body decorators, _ => by
      rw [lower]
      refine covers_singleton_of_isKept (by simp [isKept, extent?, isKeyword])
        (stems_of_covers ⟨rfl, rfl, rfl, rfl, rfl⟩ ?_)
      rw [inner]
      simp only [List.map_append]
      exact (((lowerAll_covers lines .plain bases nofun).append
        (lowerAll_covers lines .plain keywords nofun)).append
        (lowerAll_covers lines .member body nofun)).append
        (lowerAll_covers lines .plain decorators nofun)
  | call extent callee arguments keywords, _ => by
      rw [lower]
      refine covers_singleton_of_isKept (by simp [isKept, extent?, isKeyword])
        (stems_of_covers ⟨rfl, rfl, rfl, rfl, rfl⟩ ?_)
      have hpassed : Covers lines ((arguments ++ keywords).map (Fragment.mk .passed))
          ((lowerPassed lines arguments ++ lowerPassed lines keywords).flatMap (·.2)) := by
        rw [List.map_append, List.flatMap_append]
        exact (lowerPassed_covers lines arguments).append (lowerPassed_covers lines keywords)
      -- The arguments are put in order together with their nodes, so only the order of the nodes changes.
      refine (lower_covers lines .plain callee nofun).append (hpassed.perm ?_)
      exact ((List.mergeSort_perm _ _).symm.flatMap_right _)
  | name extent id, _ => by
      rw [lower]
      exact covers_singleton_of_isKept (by simp [isKept, extent?, isKeyword])
        (stems_of_covers ⟨rfl, rfl, rfl, rfl, rfl⟩ covers_nil)
  | access extent value member, _ => by
      rw [lower]
      exact covers_singleton_of_isKept (by simp [isKept, extent?, isKeyword])
        (stems_of_covers ⟨rfl, rfl, rfl, rfl, rfl⟩ (lower_covers lines .plain value nofun))
  | keyword extent isUnpacking value, hrole => by
      have hrole : role ≠ .passed := fun h => by simpa [isKeyword] using hrole h
      rw [lower]
      exact covers_singleton_of_isKept (by simp [isKept, extent?, isKeyword, hrole])
        (stems_of_covers ⟨rfl, rfl, rfl, rfl, rfl⟩ (lower_covers lines .plain value nofun))
  | construct extent shape parts, _ => by
      rw [lower]
      exact covers_singleton_of_isKept (by simp [isKept, extent?, isKeyword])
        (stems_of_covers ⟨rfl, rfl, rfl, rfl, rfl⟩ (lowerAll_covers lines .plain parts nofun))
  | group parts, _ => by
      rw [lower]
      exact covers_singleton_of_not_isKept rfl (lowerAll_covers lines .plain parts nofun)

/-- What several pieces become covers them. -/
theorem lowerAll_covers (lines : SourceLines) (role : Role) :
    (as : List Ast) → role ≠ .passed → Covers lines (as.map (Fragment.mk role)) (lowerAll lines (role == .member) as)
  | [], _ => by
      rw [lowerAll]
      exact covers_nil
  | a :: rest, hrole => by
      rw [lowerAll]
      exact (lower_covers lines role a fun h => absurd h hrole).append (lowerAll_covers lines role rest hrole)

/-- What several arguments become covers them, with the keywords among them left out. -/
theorem lowerPassed_covers (lines : SourceLines) :
    (as : List Ast) → Covers lines (as.map (Fragment.mk .passed)) ((lowerPassed lines as).flatMap (·.2))
  | [] => by
      rw [lowerPassed]
      exact covers_nil
  | a :: rest => by
      have ha := lower_covers lines .passed a
      have hrest := lowerPassed_covers lines rest
      cases a with
      | keyword extent isUnpacking value =>
          rw [lowerPassed]
          exact (covers_singleton_of_not_isKept (x := ⟨.passed, keyword extent isUnpacking value⟩) rfl
            (lower_covers lines .plain value nofun)).append hrest
      | function | lambda | classDef | call | name | access | construct | group =>
        simp only [lowerPassed, List.flatMap_cons]
        exact (ha fun _ => rfl).append hrest

end

end Ast

end BodyLength
