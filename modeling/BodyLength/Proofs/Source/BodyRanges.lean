import BodyLength.Proofs.Outcome
import BodyLength.Proofs.Text.LineAgreement
import BodyLength.Proofs.Tree.BodyLengths
import Mathlib.Data.Prod.Lex

/-!
# What the range of a body covers

The body of a function reaches from the start of its first statement to the end of its last one. The reader of the
language gives the range of a function or class from its keyword on, behind its decorators. So a body covers everything
that belongs to it, unless its first statement is decorated: then the decorators stand in front of the body, their lines
are not counted, and a function in them may well be longer than the function around it.

* `Fragment.IsLaidOut`: what the reader documents about the ranges of a piece and of its parts.
* `IsLaidOut.isWithin_body`: all parts of a body, but for the decorators of its first statement, are within its range.
* `bodies_cover_iff`: the node of each function covers its body exactly if the first statement has no decorators.
-/

namespace BodyLength

/-! ## Ranges by their places

The reader of the language gives a place by a line and a column in bytes, and places are compared by the line first.
Turning places into positions keeps their order, so that what is shown of ranges by their places holds by their
positions, too. -/

/-- The place where a range starts. -/
def Extent.first (e : Extent) : ℕ ×ₗ ℕ :=
  toLex (e.line, e.column)

/-- The place where a range ends. -/
def Extent.last (e : Extent) : ℕ ×ₗ ℕ :=
  toLex (e.endLine, e.endColumn)

/-- Is a range within another one? -/
structure Extent.IsWithin (inner outer : Extent) : Prop where
  first : outer.first ≤ inner.first
  last : inner.last ≤ outer.last

/-- What is within a part is within the whole. -/
theorem Extent.IsWithin.trans {a b c : Extent} (h : a.IsWithin b) (h' : b.IsWithin c) : a.IsWithin c :=
  ⟨h'.first.trans h.first, h.last.trans h'.last⟩

/-- Is a range of positions within another one? -/
structure Span.IsWithin (inner outer : Span) : Prop where
  start : outer.start ≤ inner.start
  stop : inner.stop ≤ outer.stop

/-- What is within a range by its places is so by its positions. -/
theorem Ast.span_isWithin (text : List Char) {inner outer : Extent} (h : inner.IsWithin outer) :
    (Ast.span (.ofChars text) inner).IsWithin (Ast.span (.ofChars text) outer) where
  start := Int.ofNat_le.mpr (SourceLines.offset_mono text (Prod.Lex.toLex_le_toLex.mp h.first))
  stop := Int.ofNat_le.mpr (SourceLines.offset_mono text (Prod.Lex.toLex_le_toLex.mp h.last))

/-! ## Bodies and decorators

What is right below a definition are the parts of its body, its decorators and more, one behind the other. Whether a
place below a definition is in its body or in a decorator is told by its first position. -/

namespace Ast

/-- The statements of the body of a function, or the expression that is the body of a lambda. -/
def bodyParts : Ast → List Ast
  | function _ _ _ body _ _ => body
  | lambda _ _ body => [body]
  | _ => []

/-- The position of the first part of a body among what is right below a function. -/
def bodyPosition : Ast → Nat
  | function _ _ parameters _ _ _ => parameters.length
  | lambda _ parameters _ => parameters.length
  | _ => 0

/-- The decorators of a function or class. -/
def decorators : Ast → List Ast
  | function _ _ _ _ decorators _ => decorators
  | classDef _ _ _ _ _ decorators => decorators
  | _ => []

/-- The position of the first decorator among what is right below a function or class. -/
def decoratorPosition : Ast → Nat
  | function _ _ parameters body _ _ => (parameters ++ body).length
  | classDef _ _ bases keywords body _ => (bases ++ keywords ++ body).length
  | _ => 0

/-- Does a place below a piece lead through its body? -/
def IsInBody (a : Ast) (below : List Nat) : Prop :=
  ∃ i part rest, a.bodyParts[i]? = some part ∧ below = (a.bodyPosition + i) :: rest

/-- Does a place below a piece lead through one of its decorators? -/
def IsInDecorator (a : Ast) (below : List Nat) : Prop :=
  ∃ j decorator rest, a.decorators[j]? = some decorator ∧ below = (a.decoratorPosition + j) :: rest

/-- Does a place below a function lead through a decorator of the first statement of its body? -/
def IsInFirstDecorator (a : Ast) (below : List Nat) : Prop :=
  ∃ first rest, a.bodyParts.head? = some first ∧ below = a.bodyPosition :: rest ∧ first.IsInDecorator rest

variable {a part decorator : Ast} {i j : Nat}

/-- The parts of a body stand among the pieces within a definition, from a certain position on. -/
theorem getElem?_inner_bodyPosition (h : a.bodyParts[i]? = some part) :
    a.inner[a.bodyPosition + i]? = some ⟨.plain, part⟩ := by
  cases a with
  | function extent id parameters body decorators returns =>
      have hi := (List.getElem?_eq_some_iff.mp h).1
      rw [bodyParts] at h hi
      rw [inner, bodyPosition, List.getElem?_map, List.append_assoc, List.append_assoc,
        List.getElem?_append_right (Nat.le_add_right _ _), Nat.add_sub_cancel_left, List.getElem?_append_left hi, h]
      rfl
  | lambda extent parameters body =>
      rw [bodyParts] at h
      rw [inner, bodyPosition, List.getElem?_map, List.getElem?_append_right (Nat.le_add_right _ _),
        Nat.add_sub_cancel_left, h]
      rfl
  | _ => exact absurd h (by simp [bodyParts])

/-- So do its decorators. -/
theorem getElem?_inner_decoratorPosition (h : a.decorators[j]? = some decorator) :
    a.inner[a.decoratorPosition + j]? = some ⟨.plain, decorator⟩ := by
  -- definitions have their decorators behind their statements, and classes behind all else; nothing else has any
  cases a with
  | function extent id parameters body decorators returns =>
      have hj := (List.getElem?_eq_some_iff.mp h).1
      rw [Ast.decorators] at h hj
      rw [inner, decoratorPosition, List.getElem?_map, List.append_assoc,
        List.getElem?_append_right (Nat.le_add_right _ _), Nat.add_sub_cancel_left, List.getElem?_append_left hj, h]
      rfl
  | classDef extent id bases keywords body decorators =>
      rw [Ast.decorators] at h
      have hlength : (bases ++ keywords ++ body).length =
          ((bases ++ keywords).map (Fragment.mk .plain) ++ body.map (Fragment.mk .member)).length := by
        simp
      rw [inner, decoratorPosition, hlength, List.getElem?_append_right (Nat.le_add_right _ _), Nat.add_sub_cancel_left,
        List.getElem?_map, h]
      rfl
  | _ => exact absurd h (by simp [Ast.decorators])

/-- The body of a function is none of its decorators. -/
theorem IsInBody.not_isInDecorator {below : List Nat} (h : a.IsInBody below) : ¬a.IsInDecorator below := by
  obtain ⟨i, part, rest, hpart, rfl⟩ := h
  rintro ⟨j, decorator, rest', hdecorator, heq⟩
  have hposition := (List.cons.inj heq).1
  cases a with
  | function extent id parameters body decorators returns =>
      have hi : i < body.length := (List.getElem?_eq_some_iff.mp hpart).1
      simp only [bodyPosition, decoratorPosition, List.length_append] at hposition
      omega
  | lambda extent parameters body => exact absurd hdecorator (by simp [Ast.decorators])
  | _ => exact absurd hpart (by simp [bodyParts])

/-- The range of a body is told by its first and its last part. -/
theorem exists_bodyExtent? (h : a.bodyParts ≠ []) :
    ∃ first last e, a.bodyParts.head? = some first ∧ a.bodyParts.getLast? = some last ∧ a.bodyExtent? = some e ∧
      e.first = first.extent.first ∧ e.last = last.extent.last := by
  obtain ⟨first, hfirst⟩ : ∃ first, a.bodyParts.head? = some first := ⟨_, List.head?_eq_some_head h⟩
  obtain ⟨last, hlast⟩ : ∃ last, a.bodyParts.getLast? = some last := ⟨_, List.getLast?_eq_some_getLast h⟩
  refine ⟨first, last, ⟨first.extent.line, first.extent.column, last.extent.endLine, last.extent.endColumn⟩, hfirst,
    hlast, ?_, rfl, rfl⟩
  cases a with
  | function extent id parameters body decorators returns =>
      rw [bodyParts] at hfirst hlast
      simp [bodyExtent?, hfirst, hlast]
  | lambda extent parameters body =>
      obtain rfl : body = first := Option.some.inj hfirst
      obtain rfl : body = last := Option.some.inj hlast
      rfl
  | _ => exact absurd rfl h

end Ast

/-! ## What the reader documents

What counts of the ranges is that a piece contains its parts, its own decorators left out, and that the parts of a body
follow each other, each with its decorators in front. From this it follows for all depths that a piece in a body is
within the range of the body, unless the way to it leads through the decorators of the first part. Those end in front
of the part that they belong to, and so in front of the body. -/

namespace Fragment

/-- Are the ranges of a piece, of its decorators and of the parts of its body as the reader of the language documents
them? The range of a piece contains those of all its parts, but for its own decorators, which are expressions on lines
above it. The body of a function has a part, its parts have ranges, and they and their decorators follow each other. -/
structure IsLaidOut (lines : SourceLines) (x : Fragment) : Prop where
  contains : ∀ below y, x.at? below = some y → ¬x.piece.IsInDecorator below → x.piece.extent?.isSome →
    y.piece.extent?.isSome → y.piece.extent.IsWithin x.piece.extent
  placed : x.piece.extent?.isSome → lines.HasPlace x.piece.extent.line x.piece.extent.column
  decorators : ∀ d ∈ x.piece.decorators, d.extent?.isSome ∧ d.decorators = [] ∧ d.extent.line < x.piece.extent.line ∧
    d.extent.last ≤ x.piece.extent.first
  body_ne_nil : x.piece.form = .functionLike → x.piece.bodyParts ≠ []
  parts : ∀ part ∈ x.piece.bodyParts, part.extent?.isSome ∧ part.extent.first ≤ part.extent.last
  inOrder : x.piece.bodyParts.Pairwise fun a b => a.extent.last ≤ b.extent.first ∧
    ∀ d ∈ b.decorators, a.extent.last ≤ d.extent.first

namespace IsLaidOut

variable {lines : SourceLines} {x : Fragment} {e : Extent} {part decorator : Ast} {i : Nat}

/-- A part of a body ends before a later one and its decorators start. -/
theorem last_le_first (h : x.IsLaidOut lines) {a b : Ast} {i j : Nat} (ha : x.piece.bodyParts[i]? = some a)
    (hb : x.piece.bodyParts[j]? = some b) (hlt : i < j) :
    a.extent.last ≤ b.extent.first ∧ ∀ d ∈ b.decorators, a.extent.last ≤ d.extent.first := by
  obtain ⟨hi, rfl⟩ := List.getElem?_eq_some_iff.mp ha
  obtain ⟨hj, rfl⟩ := List.getElem?_eq_some_iff.mp hb
  exact List.pairwise_iff_getElem.mp h.inOrder i j hi hj hlt

/-- A part of a body does not end before it begins. -/
theorem first_le_last (h : x.IsLaidOut lines) (hpart : x.piece.bodyParts[i]? = some part) :
    part.extent.first ≤ part.extent.last :=
  (h.parts part (List.mem_of_getElem? hpart)).2

/-- The parts of a body are within its range. -/
theorem part_isWithin (h : x.IsLaidOut lines) (hpart : x.piece.bodyParts[i]? = some part)
    (he : x.piece.bodyExtent? = some e) : part.extent.IsWithin e := by
  have hne := List.ne_nil_of_mem (List.mem_of_getElem? hpart)
  obtain ⟨first, last, e', hfirst, hlast, he', hfirst', hlast'⟩ := Ast.exists_bodyExtent? hne
  obtain rfl : e = e' := Option.some.inj (he.symm.trans he')
  rw [List.head?_eq_getElem?] at hfirst
  rw [List.getLast?_eq_getElem?] at hlast
  -- the parts of a body stand one behind the other, so each is between the first and the last
  constructor
  case first =>
    rcases Nat.eq_zero_or_pos i with rfl | hpos
    · obtain rfl : first = part := Option.some.inj (hfirst.symm.trans hpart)
      exact hfirst'.le
    · calc e.first = first.extent.first := hfirst'
        _ ≤ first.extent.last := h.first_le_last hfirst
        _ ≤ part.extent.first := (h.last_le_first hfirst hpart hpos).1
  case last =>
    have hi := (List.getElem?_eq_some_iff.mp hpart).1
    rcases Nat.lt_or_eq_of_le (show i ≤ x.piece.bodyParts.length - 1 by omega) with hlt | rfl
    · calc part.extent.last ≤ last.extent.first := (h.last_le_first hpart hlast hlt).1
        _ ≤ last.extent.last := h.first_le_last hlast
        _ = e.last := hlast'.symm
    · obtain rfl : last = part := Option.some.inj (hlast.symm.trans hpart)
      exact hlast'.ge

/-- So are the decorators of all parts but the first one. -/
theorem decorator_isWithin (h : x.IsLaidOut lines) (hpart : x.piece.bodyParts[i + 1]? = some part)
    (hlaid : (⟨.plain, part⟩ : Fragment).IsLaidOut lines) (hdecorator : decorator ∈ part.decorators)
    (he : x.piece.bodyExtent? = some e) : decorator.extent.IsWithin e := by
  have hi := (List.getElem?_eq_some_iff.mp hpart).1
  have hbefore := List.getElem?_eq_getElem (Nat.lt_of_succ_lt hi)
  have hwithin := h.part_isWithin hpart he
  constructor
  case first =>
    calc e.first ≤ (x.piece.bodyParts[i]).extent.first := (h.part_isWithin hbefore he).first
      _ ≤ (x.piece.bodyParts[i]).extent.last := h.first_le_last hbefore
      _ ≤ decorator.extent.first := (h.last_le_first hbefore hpart (Nat.lt_succ_self i)).2 decorator hdecorator
  case last =>
    calc decorator.extent.last ≤ part.extent.first := (hlaid.decorators decorator hdecorator).2.2.2
      _ ≤ part.extent.last := h.first_le_last hpart
      _ ≤ e.last := hwithin.last

end IsLaidOut

variable {lines : SourceLines} {xs : List Fragment} {x y : Fragment} {e : Extent} {above below : List Nat}

/-- What is within a piece stands one step below it. -/
theorem among?_inner {position : Nat} (hx : among? xs above = some x) (hy : x.piece.inner[position]? = some y) :
    among? xs (above ++ [position]) = some y := by
  rw [among?_append hx, at?, hy]
  rfl

/-- What is in the body of a function is within its range, unless it is in a decorator of the first part. -/
theorem isWithin_body (hlaid : Everywhere (IsLaidOut lines) xs) (hx : among? xs above = some x)
    (hy : x.at? below = some y) (hbody : x.piece.IsInBody below) (hnot : ¬x.piece.IsInFirstDecorator below)
    (hextent : y.piece.extent?.isSome) (he : x.piece.bodyExtent? = some e) : y.piece.extent.IsWithin e := by
  obtain ⟨i, part, rest, hpart, rfl⟩ := hbody
  have hinner := Ast.getElem?_inner_bodyPosition hpart
  have hxpart := among?_inner hx hinner
  have hlaidx := hlaid _ x hx
  have hlaidpart := hlaid _ _ hxpart
  rw [at?, hinner, Option.bind_some] at hy
  by_cases hdecorated : part.IsInDecorator rest
  · obtain ⟨j, decorator, rest', hdecorator, rfl⟩ := hdecorated
    have hinner' := Ast.getElem?_inner_decoratorPosition hdecorator
    have hlaiddecorator := hlaid _ _ (among?_inner hxpart hinner')
    have hmem := List.mem_of_getElem? hdecorator
    obtain ⟨hsome, hnone, -, -⟩ := hlaidpart.decorators decorator hmem
    rw [at?, hinner', Option.bind_some] at hy
    -- a decorator has none of its own, so its range contains all that is below it
    have hundecorated : ¬decorator.IsInDecorator rest' := by
      rintro ⟨j', decorator', -, hdecorator', -⟩
      rw [hnone] at hdecorator'
      cases hdecorator'
    have hwithin := hlaiddecorator.contains rest' y hy hundecorated hsome hextent
    cases i with
    | zero => exact absurd ⟨part, _, by rw [List.head?_eq_getElem?, hpart], rfl, j, decorator, rest', hdecorator, rfl⟩ hnot
    | succ i => exact hwithin.trans (hlaidx.decorator_isWithin hpart hlaidpart hmem he)
  · have hwithin := hlaidpart.contains rest y hy hdecorated (hlaidx.parts part (List.mem_of_getElem? hpart)).1 hextent
    exact hwithin.trans (hlaidx.part_isWithin hpart he)

/-- The body of a function is within the range of the function. -/
theorem IsLaidOut.bodyExtent_isWithin (h : x.IsLaidOut lines) (he : x.piece.bodyExtent? = some e) :
    e.IsWithin x.piece.extent := by
  have hform := Ast.form_of_bodyExtent? he
  have hsome : x.piece.extent?.isSome := by
    have hkept := Ast.isKept_of_form_ne_other (x := x) (by rw [hform]; decide)
    exact (Bool.and_eq_true_iff.mp hkept).1
  obtain ⟨first, last, e', hfirst, hlast, he', hfirst', hlast'⟩ := Ast.exists_bodyExtent? (h.body_ne_nil hform)
  obtain rfl : e = e' := Option.some.inj (he.symm.trans he')
  have hpart : ∀ (i : Nat) (part : Ast), x.piece.bodyParts[i]? = some part →
      part.extent.IsWithin x.piece.extent := by
    intro i part hpart
    have hinner := Ast.getElem?_inner_bodyPosition hpart
    have hbody : x.piece.IsInBody [x.piece.bodyPosition + i] := ⟨i, part, [], hpart, rfl⟩
    exact h.contains _ ⟨.plain, part⟩ (by rw [at?, hinner]; rfl) hbody.not_isInDecorator hsome
      (h.parts part (List.mem_of_getElem? hpart)).1
  rw [List.head?_eq_getElem?] at hfirst
  rw [List.getLast?_eq_getElem?] at hlast
  exact ⟨hfirst' ▸ (hpart _ first hfirst).first, hlast' ▸ (hpart _ last hlast).last⟩

/-- A range contains what is below a fragment if it does so from the fragment on. -/
theorem isWithin_of_everywhere {outer : Extent}
    (h : Everywhere (fun z => z.piece.extent?.isSome → z.piece.extent.IsWithin outer) [x]) (hy : x.at? below = some y)
    (hextent : y.piece.extent?.isSome) : y.piece.extent.IsWithin outer :=
  h (0 :: below) y hy hextent

/-- A construct has no body and no decorators. -/
theorem isLaidOut_construct {extent : Extent} {shape : Construct} {parts : List Ast}
    (hplace : lines.HasPlace extent.line extent.column)
    (h : Everywhere (fun z => z.piece.extent?.isSome → z.piece.extent.IsWithin extent)
      [⟨.plain, .construct extent shape parts⟩]) :
    (⟨.plain, .construct extent shape parts⟩ : Fragment).IsLaidOut lines where
  contains _ _ hy _ _ hextent := isWithin_of_everywhere h hy hextent
  placed _ := hplace
  decorators _ hd := absurd hd List.not_mem_nil
  body_ne_nil hform := absurd hform (by simp [Ast.form])
  parts _ hpart := absurd hpart List.not_mem_nil
  inOrder := .nil

end Fragment

/-! ## The bodies of a file

A node is for the fragment at its origin, and the origins of the nodes below it are below its own. So what is shown of
fragments by their places is shown of nodes. What the node of a function covers is a matter of positions, and then of
lines, and then of the lengths of bodies, each of which follows from the one before. -/

/-- Is a node within a body with all its lines, and is its own body no longer than this one? -/
structure SourceFile.IsCovered (file : SourceFile) (n : Node) (body : Span) (m : Node) : Prop where
  isWithin : (⟨m.start, m.stop⟩ : Span).IsWithin body
  lines : (file.lineMap.lineOf m.stop : Int) - file.lineMap.lineOf m.start ≤ file.bodyLength n
  bodyLength : file.bodyLength m ≤ file.bodyLength n

open Fragment

section Covering

variable {filename text : String} {program : List Ast} {n m : Node} {x y : Fragment} {body : Span}

/-- A node that is for a part within the range of a body is covered by it, as is its own body. -/
theorem isCovered_of_isWithin {e : Extent} (hn : x.Describes (.ofChars text.toList) n)
    (hm : y.Describes (.ofChars text.toList) m) (he : x.piece.bodyExtent? = some e)
    (hlaid : y.IsLaidOut (.ofChars text.toList)) (hwithin : y.piece.extent.IsWithin e) :
    (SourceFile.ofProgram filename text program).IsCovered n (Ast.span (.ofChars text.toList) e) m := by
  have hnbody : n.body = some (Ast.span (.ofChars text.toList) e) := by
    rw [hn.body, Ast.bodySpan?_eq, he, Option.map_some]
  have hspan : (⟨m.start, m.stop⟩ : Span).IsWithin (Ast.span (.ofChars text.toList) e) := by
    rw [hm.start, hm.stop]
    exact Ast.span_isWithin text.toList hwithin
  refine ⟨hspan, ?_, ?_⟩
  · have hmap : (SourceFile.ofProgram filename text program).lineMap = .ofChars text.toList := rfl
    have hfirst : (LineMap.ofChars text.toList).lineOf _ ≤ (LineMap.ofChars text.toList).lineOf m.start :=
      LineMap.lineOf_mono text.toList hspan.start
    have hlast : (LineMap.ofChars text.toList).lineOf m.stop ≤ (LineMap.ofChars text.toList).lineOf _ :=
      LineMap.lineOf_mono text.toList hspan.stop
    simp only [SourceFile.bodyLength, hnbody, hmap]
    omega
  · cases hebody : y.piece.bodyExtent? with
    | none =>
        have hmbody : m.body = none := by rw [hm.body, Ast.bodySpan?_eq, hebody, Option.map_none]
        rw [SourceFile.bodyLength_of_body_eq_none hmbody]
        exact SourceFile.bodyLength_nonneg _ n
    | some e' =>
        have hmbody : m.body = some (Ast.span (.ofChars text.toList) e') := by
          rw [hm.body, Ast.bodySpan?_eq, hebody, Option.map_some]
        have hinner := Ast.span_isWithin text.toList ((hlaid.bodyExtent_isWithin hebody).trans hwithin)
        exact SourceFile.bodyLength_mono rfl hmbody hnbody (Set.Ico_subset_Ico hinner.start hinner.stop)

/-- A function whose first statement is decorated has a node in front of its body. -/
theorem start_lt_of_decorated {e : Extent} {first decorator : Ast} {text : List Char}
    (hdescribes : (⟨.plain, decorator⟩ : Fragment).Describes (.ofChars text) m)
    (hfirst : (⟨.plain, first⟩ : Fragment).IsLaidOut (.ofChars text)) (hsome : first.extent?.isSome)
    (hlaid : (⟨.plain, decorator⟩ : Fragment).IsLaidOut (.ofChars text)) (hdecorator : decorator ∈ first.decorators)
    (he : e.first = first.extent.first) : m.start < (Ast.span (.ofChars text) e).start := by
  obtain ⟨hextent, -, hline, -⟩ := hfirst.decorators decorator hdecorator
  obtain ⟨hline', hcolumn'⟩ := Prod.mk.inj (toLex_inj.mp he)
  rw [hdescribes.start, Ast.span, Ast.span, hline', hcolumn']
  exact Int.ofNat_lt.mpr (SourceLines.offset_lt (hlaid.placed hextent) (hfirst.placed hsome) hline)

/-- A node of a file, but for its root, is for the kept fragment at its origin. -/
theorem exists_describes_of_origin {origin : List Nat → List Nat} {place : List Nat}
    (horigin : IsOrigin (.ofChars text.toList) (ofProgram program) (Ast.root (.ofChars text.toList) program) origin)
    (hn : (SourceFile.ofProgram filename text program).root.at? place = some n) (hne : place ≠ []) :
    ∃ x, among? (ofProgram program) (origin place) = some x ∧ x.Describes (.ofChars text.toList) n ∧ x.isKept := by
  obtain ⟨m, first, hm, rfl⟩ := SourceFile.exists_of_at?_root hn
  obtain ⟨x, hx, hdescribes⟩ := horigin.describes place m hne hm
  refine ⟨x, hx, SourceFile.describes_number hdescribes first, ?_⟩
  rcases horigin.bijOn.mapsTo (Option.isSome_iff_exists.mpr ⟨m, hm⟩) with hnil | ⟨y, hy, hkept⟩
  · rw [hnil] at hx
    cases hx
  · obtain rfl : x = y := Option.some.inj (hx.symm.trans hy)
    exact hkept

/-- Every kept fragment has a node in the file. -/
theorem exists_at?_of_keptAt (filename : String) {origin : List Nat → List Nat} {place : List Nat}
    (horigin : IsOrigin (.ofChars text.toList) (ofProgram program) (Ast.root (.ofChars text.toList) program) origin)
    (hkept : KeptAt (ofProgram program) place) :
    ∃ place' m, (SourceFile.ofProgram filename text program).root.at? place' = some m ∧ origin place' = place := by
  obtain ⟨place', hplace', rfl⟩ := horigin.bijOn.surjOn (Or.inr hkept)
  obtain ⟨m, hm⟩ := Option.isSome_iff_exists.mp hplace'
  obtain ⟨first, hfirst⟩ := Node.exists_at?_number (Ast.root (.ofChars text.toList) program) 0 place'
  rw [hm, Option.map_some] at hfirst
  exact ⟨place', _, hfirst, rfl⟩

/-- A function, method or lambda has a node, which is function-like. -/
theorem exists_functionLike_of_form (filename : String) {origin : List Nat → List Nat} {place : List Nat}
    (horigin : IsOrigin (.ofChars text.toList) (ofProgram program) (Ast.root (.ofChars text.toList) program) origin)
    (hx : among? (ofProgram program) place = some x) (hform : x.piece.form = .functionLike) :
    ∃ place' n, (SourceFile.ofProgram filename text program).root.at? place' = some n ∧ n.isFunctionLike ∧
      origin place' = place := by
  have hbij := Ast.bijOn_form horigin (show Form.functionLike ≠ .other by decide)
  rw [← SourceFile.setOf_isFunctionLike_eq filename] at hbij
  obtain ⟨place', ⟨n, hn, hfunction⟩, hplace⟩ := hbij.surjOn ⟨x, hx, hform⟩
  exact ⟨place', n, hn, hfunction, hplace⟩

variable {origin : List Nat → List Nat} {place place' below : List Nat} {e : Extent}

/-- The node of a function covers the nodes for what is in its body, but not in the decorators of its first part. -/
theorem isCovered_of_isInBody
    (horigin : IsOrigin (.ofChars text.toList) (ofProgram program) (Ast.root (.ofChars text.toList) program) origin)
    (hlaid : Everywhere (IsLaidOut (.ofChars text.toList)) (ofProgram program))
    (hx : among? (ofProgram program) (origin place) = some x) (hn : x.Describes (.ofChars text.toList) n)
    (he : x.piece.bodyExtent? = some e)
    (hm : (SourceFile.ofProgram filename text program).root.at? place' = some m)
    (hbelow : origin place' = origin place ++ below) (hbody : x.piece.IsInBody below)
    (hnot : ¬x.piece.IsInFirstDecorator below) :
    (SourceFile.ofProgram filename text program).IsCovered n (Ast.span (.ofChars text.toList) e) m := by
  have hne : origin place' ≠ [] := by
    obtain ⟨i, part, rest, -, rfl⟩ := hbody
    simp [hbelow]
  obtain ⟨y, hy, hdescribes, hkept⟩ := exists_describes_of_origin horigin hm (horigin.ne_nil hne)
  have hat : x.at? below = some y := by rw [← among?_append hx, ← hbelow, hy]
  have hwithin := isWithin_body hlaid hx hat hbody hnot (Bool.and_eq_true_iff.mp hkept).1 he
  exact isCovered_of_isWithin hn hdescribes he (hlaid _ y hy) hwithin

/-- If the first part of a body is decorated, the node for a decorator is in the body and starts in front of it. -/
theorem exists_start_lt_of_decorated
    (horigin : IsOrigin (.ofChars text.toList) (ofProgram program) (Ast.root (.ofChars text.toList) program) origin)
    (hlaid : Everywhere (IsLaidOut (.ofChars text.toList)) (ofProgram program))
    (hx : among? (ofProgram program) (origin place) = some x) {first : Ast}
    (hfirst : x.piece.bodyParts.head? = some first) (hdecorated : first.decorators ≠ [])
    (he : e.first = first.extent.first) (filename : String) :
    ∃ place' m below, (SourceFile.ofProgram filename text program).root.at? place' = some m ∧
      origin place' = origin place ++ below ∧ x.piece.IsInBody below ∧
      m.start < (Ast.span (.ofChars text.toList) e).start := by
  obtain ⟨decorator, hdecorator⟩ := List.exists_mem_of_ne_nil _ hdecorated
  obtain ⟨j, hj⟩ := List.mem_iff_getElem?.mp hdecorator
  have hpart : x.piece.bodyParts[0]? = some first := by rw [← List.head?_eq_getElem?, hfirst]
  have hxfirst := among?_inner hx (Ast.getElem?_inner_bodyPosition hpart)
  have hxdecorator := among?_inner hxfirst (Ast.getElem?_inner_decoratorPosition hj)
  have hsome := ((hlaid _ x hx).parts first (List.mem_of_getElem? hpart)).1
  obtain ⟨hextent, -, -, -⟩ := (hlaid _ _ hxfirst).decorators decorator hdecorator
  -- the decorator has an extent, so it is kept, and a node comes of it
  have hkept : KeptAt (ofProgram program) _ := ⟨_, hxdecorator, by simp [isKept, hextent]⟩
  obtain ⟨place', m, hm, hbelow⟩ := exists_at?_of_keptAt filename horigin hkept
  have hne : origin place' ≠ [] := by simp [hbelow]
  obtain ⟨y, hy, hdescribes, -⟩ := exists_describes_of_origin horigin hm (horigin.ne_nil hne)
  -- that node is described by the decorator, which stands in front of the statement
  rw [hbelow, hxdecorator] at hy
  obtain rfl := Option.some.inj hy
  rw [List.append_assoc] at hbelow
  exact ⟨place', m, _, hm, hbelow, ⟨0, first, _, hpart, rfl⟩,
    start_lt_of_decorated hdescribes (hlaid _ _ hxfirst) hsome (hlaid _ _ hxdecorator) hdecorator he⟩

end Covering

/-- **The body of a function covers all that belongs to it, unless its first statement is decorated.** Let a reader of
the language give ranges as documented. Then the node of each function covers the nodes of all parts of its body, with
their lines and the lengths of their own bodies, exactly if the first part of the body has no decorators; and what is
not in those decorators it covers in any case. -/
theorem bodies_cover_iff {filename text : String} {program : List Ast} {file : SourceFile}
    (hfile : file = SourceFile.ofProgram filename text program)
    (h : Everywhere (IsLaidOut (.ofChars text.toList)) (ofProgram program)) :
    ∃ origin, IsOrigin (.ofChars text.toList) (ofProgram program) (Ast.root (.ofChars text.toList) program) origin ∧
      ∀ place n, file.root.at? place = some n → n.isFunctionLike →
        ∃ x body, among? (ofProgram program) (origin place) = some x ∧ x.piece.form = .functionLike ∧
          n.body = some body ∧
          ((∀ place' m below, file.root.at? place' = some m → origin place' = origin place ++ below →
            x.piece.IsInBody below → file.IsCovered n body m) ↔
              ∀ first, x.piece.bodyParts.head? = some first → first.decorators = []) ∧
          ∀ place' m below, file.root.at? place' = some m → origin place' = origin place ++ below →
            x.piece.IsInBody below → ¬x.piece.IsInFirstDecorator below → file.IsCovered n body m := by
  subst hfile
  obtain ⟨origin, horigin⟩ := (Ast.root_covers (.ofChars text.toList) program).exists_isOrigin
  refine ⟨origin, horigin, fun place n hn hfunction => ?_⟩
  -- the root is no function
  have hne : place ≠ [] := by
    rintro rfl
    obtain rfl := Option.some.inj hn
    exact absurd hfunction (by simp [SourceFile.ofProgram, SourceFile.ofTree, Node.isFunctionLike, Node.numbered,
      Ast.root, Ast.node, Kind.isFunctionLike])
  obtain ⟨x, hx, hdescribes, -⟩ := exists_describes_of_origin horigin hn hne
  have hform : x.piece.form = .functionLike := by
    rw [← Ast.form_kind, ← hdescribes.kind]
    exact (Kind.form_eq_functionLike_iff n.kind).mpr hfunction
  obtain ⟨first, last, e, hfirst, -, he, hfirst', -⟩ := Ast.exists_bodyExtent? ((h _ x hx).body_ne_nil hform)
  have hbody : n.body = some (Ast.span (.ofChars text.toList) e) := by
    rw [hdescribes.body, Ast.bodySpan?_eq, he, Option.map_some]
  refine ⟨x, _, hx, hform, hbody, ⟨?_, ?_⟩, fun _ _ _ => isCovered_of_isInBody horigin h hx hdescribes he⟩
  · intro hall first' hfirst''
    obtain rfl : first = first' := Option.some.inj (hfirst.symm.trans hfirst'')
    -- a decorator of the first statement is a part of the body, and it starts before the body does
    by_contra hdecorated
    obtain ⟨place', m, below, hm, hbelow, hin, hbefore⟩ :=
      exists_start_lt_of_decorated horigin h hx hfirst hdecorated hfirst' filename
    exact absurd hbefore (not_lt.mpr (hall place' m below hm hbelow hin).isWithin.start)
  · intro hnone place' m below hm hbelow hin
    refine isCovered_of_isInBody horigin h hx hdescribes he hm hbelow hin ?_
    rintro ⟨first', rest, hfirst'', -, j, decorator, rest', hdecorator, -⟩
    rw [hnone first' hfirst''] at hdecorator
    cases hdecorator

/-- A function whose first statement is decorated with a function. -/
def decoratedSource : String :=
  "def f():\n @lambda:[\n ]\n def g():0\n"

/-- The function in the decorator. -/
def decoratedSourceDecorator : Ast :=
  .lambda ⟨2, 2, 3, 2⟩ [] (.construct ⟨2, 9, 3, 2⟩ .list [])

/-- The only statement of the body. -/
def decoratedSourceStatement : Ast :=
  .function ⟨4, 1, 4, 10⟩ "g" [] [.construct ⟨4, 9, 4, 10⟩ .plain [.construct ⟨4, 9, 4, 10⟩ .plain []]]
    [decoratedSourceDecorator] []

/-- The function that it is read as. -/
def decoratedSourceFunction : Ast :=
  .function ⟨1, 0, 4, 10⟩ "f" [] [decoratedSourceStatement] [] []

/-- The grammar gives the function, its statement and the decorator these places. -/
example : (readProgram (withFinalNewline decoratedSource.toList)).toOption.map (fun program =>
      (program ++ program.flatMap Ast.bodyParts ++ (program.flatMap Ast.bodyParts).flatMap Ast.decorators).map
        fun a => (a.form, a.extent)) =
    some ([decoratedSourceFunction, decoratedSourceStatement, decoratedSourceDecorator].map
      fun a => (a.form, a.extent)) := by
  decide +kernel

/-- The outer function is laid out as the reader documents it: its body ends with it and begins where its only statement
does. -/
theorem decoratedSourceFunction_isLaidOut :
    (⟨.plain, decoratedSourceFunction⟩ : Fragment).IsLaidOut (.ofChars decoratedSource.toList) where
  contains := by
    intro below y hy _ _ hextent
    refine isWithin_of_everywhere ?_ hy hextent
    repeat' first | exact everywhere_nil _ | refine .cons (fun _ => ⟨by decide, by decide⟩) ?_ ?_
  placed _ := ⟨0, 0, "def f():\n".toList, rfl, by decide, by decide⟩
  decorators := by decide
  body_ne_nil := by decide
  parts := by decide
  inOrder := by decide

/-- So is the inner function, the decorated statement. Its decorator stands before it. -/
theorem decoratedSourceStatement_isLaidOut :
    (⟨.plain, decoratedSourceStatement⟩ : Fragment).IsLaidOut (.ofChars decoratedSource.toList) where
  contains := by
    rintro (_ | ⟨_ | _ | position, rest⟩) y hy hnot - hextent
    · obtain rfl := Option.some.inj hy
      exact ⟨le_rfl, le_rfl⟩
    · refine isWithin_of_everywhere ?_ (show Fragment.at? ⟨.plain, _⟩ rest = some y from hy) hextent
      repeat' first | exact everywhere_nil _ | refine .cons (fun _ => ⟨by decide, by decide⟩) ?_ ?_
    · exact absurd ⟨0, decoratedSourceDecorator, rest, rfl, rfl⟩ hnot
    · cases hy
  placed _ := ⟨3, 23, " def g():0\n".toList, rfl, by decide, by decide⟩
  decorators := by decide
  body_ne_nil := by decide
  parts := by decide
  inOrder := by decide

/-- So is the decorator, whose own body is on another line. -/
theorem decoratedSourceDecorator_isLaidOut :
    (⟨.plain, decoratedSourceDecorator⟩ : Fragment).IsLaidOut (.ofChars decoratedSource.toList) where
  contains := by
    intro below y hy _ _ hextent
    refine isWithin_of_everywhere ?_ hy hextent
    repeat' first | exact everywhere_nil _ | refine .cons (fun _ => ⟨by decide, by decide⟩) ?_ ?_
  placed _ := ⟨1, 9, " @lambda:[\n".toList, rfl, by decide, by decide⟩
  decorators := by decide
  body_ne_nil := by decide
  parts := by decide
  inOrder := by decide

/-- So is everything in the program. -/
theorem decoratedSource_isLaidOut :
    Everywhere (IsLaidOut (.ofChars decoratedSource.toList)) (ofProgram [decoratedSourceFunction]) := by
  have hlast : (SourceLines.ofChars decoratedSource.toList).HasPlace 4 9 :=
    ⟨3, 23, " def g():0\n".toList, rfl, by decide, by decide⟩
  have hsecond : (SourceLines.ofChars decoratedSource.toList).HasPlace 2 9 :=
    ⟨1, 9, " @lambda:[\n".toList, rfl, by decide, by decide⟩
  refine .cons decoratedSourceFunction_isLaidOut (.cons decoratedSourceStatement_isLaidOut (.cons ?statement
    (.cons ?value ?_ ?_) (.cons decoratedSourceDecorator_isLaidOut (.cons ?list ?_ ?_) ?_)) ?_) ?_
  case statement | value =>
    refine isLaidOut_construct hlast ?_
    repeat' first | exact everywhere_nil _ | refine .cons (fun _ => ⟨by decide, by decide⟩) ?_ ?_
  case list =>
    refine isLaidOut_construct hsecond ?_
    repeat' first | exact everywhere_nil _ | refine .cons (fun _ => ⟨by decide, by decide⟩) ?_ ?_
  all_goals exact everywhere_nil _

/-- The file with the source. -/
def decoratedSourceFile : SourceFile :=
  .ofProgram "m.py" decoratedSource [decoratedSourceFunction]

/-- There is a node for the function that does not cover its body, and one for the second function that does. -/
theorem decoratedSource_bodies :
    ∃ origin : List Nat → List Nat,
      (∃ place n body place' m below, decoratedSourceFile.root.at? place = some n ∧ origin place = [0] ∧
        n.body = some body ∧ decoratedSourceFile.root.at? place' = some m ∧ origin place' = [0] ++ below ∧
        decoratedSourceFunction.IsInBody below ∧ ¬decoratedSourceFile.IsCovered n body m) ∧
      ∃ place n body, decoratedSourceFile.root.at? place = some n ∧ origin place = [0, 0] ∧ n.body = some body ∧
        ∀ place' m below, decoratedSourceFile.root.at? place' = some m → origin place' = [0, 0] ++ below →
          decoratedSourceStatement.IsInBody below → decoratedSourceFile.IsCovered n body m := by
  have hfile : decoratedSourceFile = .ofProgram "m.py" decoratedSource [decoratedSourceFunction] := rfl
  obtain ⟨origin, horigin, hcovers⟩ := bodies_cover_iff hfile decoratedSource_isLaidOut
  refine ⟨origin, ?_, ?_⟩
  · obtain ⟨place, n, hn, hfunction, hplace⟩ := exists_functionLike_of_form "m.py" horigin
      (show among? _ [0] = some ⟨.plain, decoratedSourceFunction⟩ from rfl) rfl
    obtain ⟨x, body, hx, -, hbody, hcovered, -⟩ := hcovers place n hn hfunction
    rw [hplace] at hx hcovered
    obtain rfl : ⟨.plain, decoratedSourceFunction⟩ = x := Option.some.inj hx
    -- the first statement of the outer function is decorated, so something is not covered
    have hnot : ¬∀ place' m below, decoratedSourceFile.root.at? place' = some m → origin place' = [0] ++ below →
        decoratedSourceFunction.IsInBody below → decoratedSourceFile.IsCovered n body m :=
      fun hall => absurd (hcovered.mp hall decoratedSourceStatement rfl) (List.cons_ne_nil _ _)
    push Not at hnot
    obtain ⟨place', m, below, hm, hbelow, hin, hnot⟩ := hnot
    exact ⟨place, n, body, place', m, below, hn, hplace, hbody, hm, hbelow, hin, hnot⟩
  · obtain ⟨place, n, hn, hfunction, hplace⟩ := exists_functionLike_of_form "m.py" horigin
      (show among? _ [0, 0] = some ⟨.plain, decoratedSourceStatement⟩ from rfl) rfl
    obtain ⟨x, body, hx, -, hbody, hcovered, -⟩ := hcovers place n hn hfunction
    rw [hplace] at hx hcovered
    obtain rfl : ⟨.plain, decoratedSourceStatement⟩ = x := Option.some.inj hx
    refine ⟨place, n, body, hn, hplace, hbody, hcovered.mpr ?_⟩
    rintro first hfirst
    obtain rfl := Option.some.inj hfirst
    rfl

/-- The range of its body is that of the second function, and the function in the decorator is longer. -/
theorem decorator_is_longer_than_body :
    ∃ file f g, SourceFile.ofSource "m.py" decoratedSource = .ok file ∧ file.root.at? [0] = some f ∧
      file.root.at? [0, 0, 1] = some g ∧ f.body = some ⟨24, 33⟩ ∧ g.start = 11 ∧
      file.bodyLength f = 0 ∧ file.bodyLength g = 1 := by
  have hrun : ((SourceFile.ofSource "m.py" decoratedSource).toOption.bind fun file =>
      (file.root.at? [0]).bind fun f => (file.root.at? [0, 0, 1]).map fun g =>
        (f.body, g.start, file.bodyLength f, file.bodyLength g)) = some (some ⟨24, 33⟩, 11, 0, 1) := by
    decide +kernel
  obtain ⟨file, hfile, hrun⟩ := Option.bind_eq_some_iff.mp hrun
  obtain ⟨f, hf, hrun⟩ := Option.bind_eq_some_iff.mp hrun
  obtain ⟨g, hg, heq⟩ := Option.map_eq_some_iff.mp hrun
  simp only [Prod.mk.injEq] at heq
  obtain ⟨hbody, hstart, hlength, hlength'⟩ := heq
  exact ⟨file, f, g, toOption_eq_some_iff.mp hfile, hf, hg, hbody, hstart, hlength, hlength'⟩

end BodyLength
