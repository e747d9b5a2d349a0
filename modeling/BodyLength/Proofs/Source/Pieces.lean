import BodyLength.Source.Ast
import Mathlib.Data.List.Infix

/-!
# The pieces of a program

A *place* in a program is the list of positions that lead from its statements to a piece of it, as a place in a tree
is the list of child positions that lead to a node. A piece is met together with the role that it has in the piece
around it, because two roles matter to what becomes of it: a direct statement of a class is a member of it, and what
is passed to a call gets a node for the value alone, never for the keyword before it.

* `Fragment.isKept`: there is a node for the piece itself. Anything without a range of text is left out, and the
  keyword of an argument of a call is.
* `IsNearest`: one place is the nearest kept place above another one; the place of the whole program is the empty
  one.
* `IsTop`: the place is kept and no place on the way to it is (`IsTop.keptAt`, `IsTop.not_keptAt`).
* `exists_isTop_prefix` and `IsTop.eq_of_prefix`: exactly one of them lies on the way to a kept place.
* `Fragment.role_eq_member_iff`: the members are the direct statements of classes.
-/

namespace BodyLength

/-- What a piece is to the piece around it. -/
inductive Role where
  /-- A direct statement of a class. -/
  | member
  /-- An argument of a call, with a keyword or without one. -/
  | passed
  | plain
deriving DecidableEq, Repr

/-- A piece of a program with its role in the piece around it. -/
structure Fragment where
  role : Role
  piece : Ast

/-- The pieces right below a piece, in the order of its fields. -/
def Ast.inner : Ast → List Fragment
  | function _ _ parameters body decorators returns =>
    (parameters ++ body ++ decorators ++ returns).map (Fragment.mk .plain)
  | lambda _ parameters body => (parameters ++ [body]).map (Fragment.mk .plain)
  | classDef _ _ bases keywords body decorators =>
    (bases ++ keywords).map (Fragment.mk .plain) ++ body.map (Fragment.mk .member) ++
      decorators.map (Fragment.mk .plain)
  | call _ callee arguments keywords => ⟨.plain, callee⟩ :: (arguments ++ keywords).map (Fragment.mk .passed)
  | name _ _ => []
  | access _ value _ => [⟨.plain, value⟩]
  | keyword _ _ value => [⟨.plain, value⟩]
  | construct _ _ parts => parts.map (Fragment.mk .plain)
  | group parts => parts.map (Fragment.mk .plain)

/-- Is a piece a class with a statement at a position among the pieces below it? -/
def Ast.HasStatementAt (position : Nat) : Ast → Prop
  | .classDef _ _ bases keywords body _ =>
    (bases ++ keywords).length ≤ position ∧ position < (bases ++ keywords).length + body.length
  | _ => False

namespace Fragment

/-- The statements of a program. -/
def ofProgram (program : List Ast) : List Fragment :=
  program.map (Fragment.mk .plain)

/-- Is there a node for the piece itself? -/
def isKept (x : Fragment) : Bool :=
  x.piece.extent?.isSome && !(x.role == .passed && x.piece.isKeyword)

/-! ## The fragment at a place

A place leads first to one of several fragments and then down. Taking all fragments at once is what makes a program and
the inside of a piece alike: a program is its statements, and a piece is what is right below it. -/

/-- The fragment at the end of some positions below a fragment. -/
def at? : Fragment → List Nat → Option Fragment
  | x, [] => some x
  | x, position :: rest => x.piece.inner[position]?.bind fun y => at? y rest

/-- The fragment at a place that leads through one of several fragments. -/
def among? (xs : List Fragment) : List Nat → Option Fragment
  | [] => none
  | position :: rest => xs[position]?.bind fun y => y.at? rest

variable {xs ys : List Fragment} {x y : Fragment} {place rest : List Nat} {position : Nat}

@[simp] theorem at?_nil (x : Fragment) : x.at? [] = some x := rfl

@[simp] theorem among?_nil (xs : List Fragment) : among? xs [] = none := rfl

@[simp] theorem among?_cons (xs : List Fragment) (position : Nat) (rest : List Nat) :
    among? xs (position :: rest) = xs[position]?.bind fun y => y.at? rest := rfl

/-- Below a fragment a place leads through the fragments right below it. -/
theorem at?_eq_among? (x : Fragment) (h : rest ≠ []) : x.at? rest = among? x.piece.inner rest := by
  cases rest with
  | nil => exact absurd rfl h
  | cons position rest => rfl

/-- What stands at a place is reached step by step. -/
theorem at?_append (x : Fragment) (first second : List Nat) :
    x.at? (first ++ second) = (x.at? first).bind fun y => y.at? second := by
  induction first generalizing x with
  | nil => rfl
  | cons position first ih =>
      simp only [List.cons_append, at?]
      cases x.piece.inner[position]? with
      | none => rfl
      | some y => simp only [Option.bind_some, ih]

/-- A place that goes on below a fragment. -/
theorem among?_append (h : among? xs place = some x) (rest : List Nat) :
    among? xs (place ++ rest) = x.at? rest := by
  cases place with
  | nil => simp at h
  | cons position place =>
      rw [among?_cons, Option.bind_eq_some_iff] at h
      obtain ⟨y, hy, hx⟩ := h
      rw [List.cons_append, among?_cons, hy, Option.bind_some, at?_append, hx, Option.bind_some]

/-- A place leads to one of the fragments themselves, or right below the fragment at the place above it. -/
theorem among?_concat {above : List Nat} (h : among? xs (above ++ [position]) = some y) :
    above = [] ∧ xs[position]? = some y ∨
      ∃ x, among? xs above = some x ∧ x.piece.inner[position]? = some y := by
  by_cases hnil : above = []
  · subst hnil
    exact Or.inl ⟨rfl, by simpa using h⟩
  · right
    obtain ⟨first, rest, rfl⟩ := List.exists_cons_of_ne_nil hnil
    rw [List.cons_append, among?_cons, Option.bind_eq_some_iff] at h
    obtain ⟨z, hz, hy⟩ := h
    rw [at?_append, Option.bind_eq_some_iff] at hy
    obtain ⟨x, hx, hy⟩ := hy
    exact ⟨x, by rw [among?_cons, hz, Option.bind_some, hx], by simpa [at?] using hy⟩

/-- Does something hold of several fragments and of everything below them? -/
def Everywhere (P : Fragment → Prop) (xs : List Fragment) : Prop :=
  ∀ place y, among? xs place = some y → P y

/-- What is said everywhere among no pieces is said of nothing. -/
theorem everywhere_nil (P : Fragment → Prop) : Everywhere P [] := by
  rintro (_ | ⟨position, rest⟩) y h <;> simp at h

/-- What holds of a fragment, of everything below it and of the fragments behind it holds everywhere. -/
theorem Everywhere.cons {P : Fragment → Prop} (hx : P x) (hinner : Everywhere P x.piece.inner) (hxs : Everywhere P xs) :
    Everywhere P (x :: xs) := by
  rintro (_ | ⟨_ | position, rest⟩) y h
  · simp at h
  · rw [among?_cons, List.getElem?_cons_zero, Option.bind_some] at h
    by_cases hnil : rest = []
    · subst hnil
      obtain rfl : x = y := Option.some.inj h
      exact hx
    · exact hinner rest y (at?_eq_among? x hnil ▸ h)
  · exact hxs (position :: rest) y (by simpa using h)

/-! ## Members of classes

Which fragments are members is told where they are listed. A class lists its bases and keywords in front of its
statements and its decorators behind them, so it takes a range of positions to say which of the fragments are
statements. -/

/-- Is a place that of a direct statement of a class? -/
def IsClassStatement (xs : List Fragment) (place : List Nat) : Prop :=
  ∃ above position x, place = above ++ [position] ∧ among? xs above = some x ∧ x.piece.HasStatementAt position

/-- A fragment of a list that was given one role has this role. -/
theorem role_of_getElem?_map {role : Role} {as : List Ast} (h : (as.map (Fragment.mk role))[position]? = some y) :
    y.role = role := by
  rw [List.getElem?_map, Option.map_eq_some_iff] at h
  obtain ⟨a, -, rfl⟩ := h
  rfl

/-- Right below a piece, the members are the statements of a class. -/
theorem role_inner_eq_member_iff {a : Ast} (h : a.inner[position]? = some y) :
    y.role = .member ↔ a.HasStatementAt position := by
  cases a with
  | classDef extent id bases keywords body decorators =>
      rw [Ast.inner, List.append_assoc, List.getElem?_append, List.length_map] at h
      rw [Ast.HasStatementAt]
      split at h
      · simp only [role_of_getElem?_map h, reduceCtorEq, false_iff]
        omega
      · rw [List.getElem?_append, List.length_map] at h
        split at h
        · simp only [role_of_getElem?_map h, true_iff]
          omega
        · simp only [role_of_getElem?_map h, reduceCtorEq, false_iff]
          omega
  | call extent callee arguments keywords =>
      cases position with
      | zero =>
          obtain rfl : ⟨.plain, callee⟩ = y := by simpa [Ast.inner] using h
          simp [Ast.HasStatementAt]
      | succ position => simp [role_of_getElem?_map h, Ast.HasStatementAt]
  | function | lambda | construct | group => simp [role_of_getElem?_map h, Ast.HasStatementAt]
  | access | keyword =>
    have := List.mem_of_getElem? h
    simp_all [Ast.inner, Ast.HasStatementAt]
  | name => simp [Ast.inner] at h

/-- The members of a program are the direct statements of its classes. -/
theorem role_eq_member_iff {program : List Ast} (h : among? (ofProgram program) place = some y) :
    y.role = .member ↔ IsClassStatement (ofProgram program) place := by
  obtain rfl | ⟨above, position, rfl⟩ := place.eq_nil_or_concat'
  · simp at h
  have hclass : IsClassStatement (ofProgram program) (above ++ [position]) ↔
      ∃ x, among? (ofProgram program) above = some x ∧ x.piece.HasStatementAt position := by
    constructor
    · rintro ⟨above', position', x, heq, hx, hat⟩
      obtain ⟨rfl, rfl⟩ := List.append_singleton_inj.mp heq
      exact ⟨x, hx, hat⟩
    · rintro ⟨x, hx, hat⟩
      exact ⟨above, position, x, rfl, hx, hat⟩
  rw [hclass]
  rcases among?_concat h with ⟨rfl, hy⟩ | ⟨x, hx, hy⟩
  · simp [role_of_getElem?_map hy]
  · rw [role_inner_eq_member_iff hy, hx]
    simp

/-! ## Kept places

A place is kept if there is a node for the fragment. The nearest kept place above another one and the first kept place
on the way to it are looked for from the two ends. The first one tells which child of a node a piece comes to be below,
and the nearest one tells the node right above it. -/

/-- Is the fragment at a place kept? -/
def KeptAt (xs : List Fragment) (place : List Nat) : Prop :=
  ∃ y, among? xs place = some y ∧ y.isKept

/-- `above` is the nearest place above `place` that is kept or the place of the whole program. -/
structure IsNearest (xs : List Fragment) (above place : List Nat) : Prop where
  prefix_of : above <+: place
  ne : above ≠ place
  kept : above = [] ∨ KeptAt xs above
  none_between : ∀ between, above <+: between → between <+: place → between ≠ above → between ≠ place →
    ¬KeptAt xs between

/-- Is the place the first kept one on its way, along the fragments? -/
def IsTop : List Fragment → List Nat → Prop
  | _, [] => False
  | xs, position :: rest => ∃ y, xs[position]? = some y ∧ if y.isKept then rest = [] else IsTop y.piece.inner rest

@[simp] theorem not_keptAt_nil (xs : List Fragment) : ¬KeptAt xs [] := by
  simp [KeptAt]

@[simp] theorem not_isTop_nil (xs : List Fragment) : ¬IsTop xs [] := id

/-- Nothing stands above a kept piece but what is above all: its own place is the only one on top. -/
theorem isTop_cons_of_isKept (h : xs[position]? = some y) (hkept : y.isKept) :
    IsTop xs (position :: rest) ↔ rest = [] := by
  simp [IsTop, h, hkept]

/-- Where a piece is not kept the kept ones on top are those within it. -/
theorem isTop_cons_of_not_isKept (h : xs[position]? = some y) (hkept : y.isKept = false) :
    IsTop xs (position :: rest) ↔ IsTop y.piece.inner rest := by
  simp [IsTop, h, hkept]

/-- A place that goes on below a fragment is kept if it is among the fragments below that fragment. -/
theorem keptAt_append (h : among? xs place = some x) (hrest : rest ≠ []) :
    KeptAt xs (place ++ rest) ↔ KeptAt x.piece.inner rest := by
  rw [KeptAt, KeptAt, among?_append h, at?_eq_among? x hrest]

/-- A piece is kept at its own place exactly if it is one of those that are kept. -/
theorem keptAt_singleton (h : xs[position]? = some y) : KeptAt xs [position] ↔ y.isKept := by
  simp [KeptAt, h]

/-- Further down, what is kept is what is kept within the piece. -/
theorem keptAt_cons (h : xs[position]? = some y) (hrest : rest ≠ []) :
    KeptAt xs (position :: rest) ↔ KeptAt y.piece.inner rest := by
  have hy : among? xs [position] = some y := by simp [h]
  exact keptAt_append hy hrest

/-- There is a piece wherever something is kept. -/
theorem exists_of_keptAt_cons (h : KeptAt xs (position :: rest)) : ∃ y, xs[position]? = some y := by
  obtain ⟨y, hy, -⟩ := h
  rw [among?_cons, Option.bind_eq_some_iff] at hy
  obtain ⟨x, hx, -⟩ := hy
  exact ⟨x, hx⟩

/-- What is on top is kept. -/
theorem IsTop.keptAt {xs : List Fragment} : {place : List Nat} → IsTop xs place → KeptAt xs place
  | [], h => h.elim
  | position :: rest, h => by
      obtain ⟨y, hy, hrest⟩ := h
      cases hkept : y.isKept with
      | true =>
          rw [if_pos hkept] at hrest
          subst hrest
          exact (keptAt_singleton hy).mpr hkept
      | false =>
          rw [if_neg (by simp [hkept])] at hrest
          have hne : rest ≠ [] := by
            rintro rfl
            exact hrest
          exact (keptAt_cons hy hne).mpr hrest.keptAt

/-- No place on the way to a first kept one is kept. -/
theorem IsTop.not_keptAt {xs : List Fragment} : {place before : List Nat} → IsTop xs place → before <+: place →
    before ≠ place → ¬KeptAt xs before
  | _, [], _, _, _ => not_keptAt_nil xs
  | [], _ :: _, h, _, _ => h.elim
  | position :: rest, position' :: before, h, hbefore, hne => by
      obtain ⟨rfl, htail⟩ := List.cons_prefix_cons.mp hbefore
      have hne : before ≠ rest := fun heq => hne (by rw [heq])
      obtain ⟨y, hy, hrest⟩ := h
      cases hkept : y.isKept with
      | true =>
          rw [if_pos hkept] at hrest
          subst hrest
          exact absurd (List.prefix_nil.mp htail) hne
      | false =>
          rw [if_neg (by simp [hkept])] at hrest
          by_cases hnil : before = []
          · subst hnil
            rw [keptAt_singleton hy, hkept]
            exact Bool.false_ne_true
          · rw [keptAt_cons hy hnil]
            exact hrest.not_keptAt htail hne

/-- On the way to a kept place there is a first kept one. -/
theorem exists_isTop_prefix {xs : List Fragment} : {place : List Nat} → KeptAt xs place →
    ∃ top, top <+: place ∧ IsTop xs top
  | [], h => absurd h (not_keptAt_nil xs)
  | position :: rest, h => by
      obtain ⟨y, hy⟩ := exists_of_keptAt_cons h
      cases hkept : y.isKept with
      | true => exact ⟨[position], by simp, (isTop_cons_of_isKept hy hkept).mpr rfl⟩
      | false =>
          have hne : rest ≠ [] := by
            rintro rfl
            rw [keptAt_singleton hy, hkept] at h
            exact Bool.false_ne_true h
          obtain ⟨top, hbegins, htop⟩ := exists_isTop_prefix ((keptAt_cons hy hne).mp h)
          exact ⟨position :: top, List.cons_prefix_cons.mpr ⟨rfl, hbegins⟩,
            (isTop_cons_of_not_isKept hy hkept).mpr htop⟩

/-- Two first kept places on the way to one place are the same. -/
theorem IsTop.eq_of_prefix {first second : List Nat} (hfirst : IsTop xs first) (hsecond : IsTop xs second)
    (hbegins : first <+: place) (hbegins' : second <+: place) : first = second := by
  by_contra hne
  rcases List.prefix_or_prefix_of_prefix hbegins hbegins' with h | h
  · exact hsecond.not_keptAt h hne hfirst.keptAt
  · exact hfirst.not_keptAt h (Ne.symm hne) hsecond.keptAt

/-- Above a first kept place there is only the whole program. -/
theorem IsTop.isNearest (h : IsTop xs place) : IsNearest xs [] place where
  prefix_of := List.nil_prefix
  ne := by
    rintro rfl
    exact h
  kept := Or.inl rfl
  none_between between _ hbetween _ hne := h.not_keptAt hbetween hne

/-- What is nearest below a kept fragment is nearest in the whole. -/
theorem IsNearest.append {above rest : List Nat} (hplace : KeptAt xs place) (hx : among? xs place = some x)
    (h : IsNearest x.piece.inner above rest) : IsNearest xs (place ++ above) (place ++ rest) where
  prefix_of := List.prefix_append_right_inj _ |>.mpr h.prefix_of
  ne := fun heq => h.ne (List.append_cancel_left heq)
  kept := by
    right
    by_cases hnil : above = []
    · rw [hnil, List.append_nil]
      exact hplace
    · exact (keptAt_append hx hnil).mpr (h.kept.resolve_left hnil)
  none_between := by
    rintro between ⟨more, rfl⟩ hbetween hne hne'
    rw [List.append_assoc] at hbetween hne hne' ⊢
    have hne : above ++ more ≠ above := fun heq => hne (by rw [heq])
    have hnil : above ++ more ≠ [] := by
      intro hnil
      obtain ⟨rfl, rfl⟩ := List.append_eq_nil_iff.mp hnil
      exact hne rfl
    rw [keptAt_append hx hnil]
    exact h.none_between _ (List.prefix_append _ _) ((List.prefix_append_right_inj _).mp hbetween) hne
      fun heq => hne' (by rw [heq])

end Fragment

end BodyLength
