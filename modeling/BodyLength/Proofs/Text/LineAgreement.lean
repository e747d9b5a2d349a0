import BodyLength.Limits.Failure
import BodyLength.Proofs.Source.Origins
import BodyLength.Proofs.Text.Lines
import BodyLength.Proofs.Tree.Numbering

/-!
# Lines as the reader of the language gives them

The reader of source code gives places by `SourceLines`, and a report names lines by `LineMap`. The two agree on
every place of a text exactly when the text holds none of the two separators that only the second counts as line
endings.

* `position_start_add`: without separators a character of a line is on the line with the same number.
* `position_of_isSeparator`: the position behind a separator has the column zero, which the line that it stands in
  denies.
* `lineOf_offset`: a place that the reader gives is looked up to be on the line that the reader gave.
* `lineMap_agrees_iff`: the agreement, and what follows from it for the line of a function and the length of its
  body.
-/

namespace BodyLength

variable {text : List Char}

namespace SourceLines

/-- The lines of a source, each with its start. -/
theorem getElem?_lines_ofChars (text : List Char) (l : Nat) :
    (ofChars text).lines[l]? = (withStarts 0 (splitSourceLines text))[l]? := by
  simp [ofChars]

/-- The position of a place on a line that there is. -/
theorem offset_eq {s : SourceLines} {l start : Nat} {cs : List Char} (h : s.lines[l]? = some (start, cs))
    (column : Nat) : s.offset ((l : Int) + 1) column = start + charsWithin column cs := by
  have hline : ¬(l : Int) + 1 < 1 := by omega
  have hindex : ((l : Int) + 1 - 1).toNat = l := by omega
  rw [offset, if_neg hline, hindex, h]
  simp only [byteBudget_natCast]

/-- The position of a place behind the last line. -/
theorem offset_of_none {s : SourceLines} {l : Nat} (h : s.lines[l]? = none) (column : Nat) :
    s.offset ((l : Int) + 1) column = s.length := by
  have hline : ¬(l : Int) + 1 < 1 := by omega
  have hindex : ((l : Int) + 1 - 1).toNat = l := by omega
  rw [offset, if_neg hline, hindex, h]

/-- A place that comes before another one, or is the same, has no later position. -/
theorem offset_mono (text : List Char) {line column line' column' : Nat}
    (h : line < line' ∨ line = line' ∧ column ≤ column') :
    (ofChars text).offset line column ≤ (ofChars text).offset line' column' := by
  rcases line with _ | l
  · exact Nat.zero_le _
  obtain ⟨l', rfl⟩ : ∃ l', line' = l' + 1 := Nat.exists_eq_add_one.mpr (by omega)
  push_cast
  rcases hline : (ofChars text).lines[l]? with _ | ⟨start, cs⟩
  · -- behind the last line every place is the end of the text
    have hline' : (ofChars text).lines[l']? = none := by
      rw [Array.getElem?_eq_none_iff] at hline ⊢
      omega
    rw [offset_of_none hline, offset_of_none hline']
  · have hwithin := charsWithin_le_length column cs
    rw [offset_eq hline]
    rcases hline' : (ofChars text).lines[l']? with _ | ⟨start', cs'⟩
    · have hend := start_add_length_le (getElem?_lines_ofChars text l ▸ hline)
      rw [offset_of_none hline']
      exact (Nat.add_le_add_left hwithin start).trans hend
    · rw [offset_eq hline']
      rcases h with hlt | ⟨heq, hle⟩
      · have hbehind := start_add_length_le_start (getElem?_lines_ofChars text l ▸ hline)
          (getElem?_lines_ofChars text l' ▸ hline') (by omega)
        omega
      · obtain rfl : l = l' := by omega
        obtain ⟨rfl, rfl⟩ := Prod.mk.inj (Option.some.inj (hline.symm.trans hline'))
        exact Nat.add_le_add_left (charsWithin_mono hle cs) start

/-- Is there a place with a line counted from one and a column in bytes, no further than to the end of the line
without its ending? -/
def HasPlace (s : SourceLines) (line column : Nat) : Prop :=
  ∃ l start cs, line = l + 1 ∧ s.lines[l]? = some (start, cs) ∧ column ≤ utf8Length (lineContent cs)

/-- A place on an earlier line has an earlier position. -/
theorem offset_lt {text : List Char} {line column line' column' : Nat} (h : (ofChars text).HasPlace line column)
    (h' : (ofChars text).HasPlace line' column') (hlt : line < line') :
    (ofChars text).offset line column < (ofChars text).offset line' column' := by
  obtain ⟨l, start, cs, rfl, hline, hcolumn⟩ := h
  obtain ⟨l', start', cs', rfl, hline', -⟩ := h'
  push_cast
  rw [offset_eq hline, offset_eq hline']
  rw [getElem?_lines_ofChars] at hline hline'
  have hending : (lineContent cs).length < cs.length := by
    have hcount : l + 1 < (splitSourceLines text).length := by
      rw [getElem?_withStarts, Option.map_eq_some_iff] at hline'
      obtain ⟨_, hcs', -⟩ := hline'
      have := (List.getElem?_eq_some_iff.mp hcs').1
      omega
    rw [getElem?_withStarts, Option.map_eq_some_iff] at hline
    obtain ⟨_, hcs, heq⟩ := hline
    obtain ⟨-, rfl⟩ := Prod.mk.inj heq
    exact length_lineContent_lt hcs (List.getElem?_eq_getElem hcount)
  have hwithin := charsWithin_le_of_le hcolumn
  have hbehind := start_add_length_le_start hline hline' (by omega)
  omega

end SourceLines

open SourceLines

/-! ## Both tables on one text

In one direction, a text without separators has the same starts in both tables, and a position is looked up by the
starts alone. In the other direction one separator is enough: the character behind it is in the middle of a source
line, and at the start of a line of the text. -/

/-- Without separators a character of a line is on the line with the same number, in its own column. -/
theorem position_start_add (hsep : ∀ c ∈ text, isSeparator c = false) {l start k : Nat} {cs : List Char}
    (h : (ofChars text).lines[l]? = some (start, cs)) (hk : k ≤ (lineContent cs).length) :
    (LineMap.ofChars text).position ((start + k : Nat) : Int) = (l, k) := by
  rw [getElem?_lines_ofChars] at h
  have hstarts : (LineMap.ofChars text).lineStarts = (withStarts 0 (splitSourceLines text)).map (·.1) :=
    (starts_eq hsep 0).symm
  have hcontent := length_lineContent_le cs
  have hstart : (LineMap.ofChars text).lineStarts[l]? = some start := by
    rw [hstarts, List.getElem?_map, h, Option.map_some]
  have hnext : ∀ next, (LineMap.ofChars text).lineStarts[l + 1]? = some next → start + k < next := by
    intro next hnext
    rw [hstarts, List.getElem?_map, Option.map_eq_some_iff] at hnext
    obtain ⟨⟨next, cs'⟩, hline, rfl⟩ := hnext
    have hending : (lineContent cs).length < cs.length := by
      have h' := h
      have hline' := hline
      rw [getElem?_withStarts, Option.map_eq_some_iff] at h' hline'
      obtain ⟨_, hcs, heq⟩ := h'
      obtain ⟨_, hcs', -⟩ := hline'
      obtain ⟨-, rfl⟩ := Prod.mk.inj heq
      exact length_lineContent_lt hcs hcs'
    rw [start_succ_eq h hline]
    omega
  have hlength : start + k ≤ (LineMap.ofChars text).length := by
    have hle := start_add_length_le h
    simp only [LineMap.ofChars]
    omega
  rw [LineMap.position_eq (LineMap.lineStarts_pairwise_lt text) hstart (Nat.le_add_right _ _) hnext hlength,
    Nat.add_sub_cancel_left]

/-- Behind a separator a line of the text starts. -/
theorem position_of_isSeparator {i : Nat} {c : Char} (h : text[i]? = some c) (hc : isSeparator c) :
    ((LineMap.ofChars text).position ((i + 1 : Nat) : Int)).2 = 0 := by
  have hlt := (List.getElem?_eq_some_iff.mp h).1
  refine LineMap.position_of_mem_lineStarts (LineMap.lineStarts_pairwise_lt text) ?_ hlt
  rw [LineMap.ofChars, List.mem_cons]
  right
  simpa using mem_breakEnds_of_isSeparator 0 h hc

variable (text) in
/-- Do both tables agree on every place of a text? -/
def TablesAgree : Prop :=
  ∀ (l k start : Nat) (cs : List Char), (ofChars text).lines[l]? = some (start, cs) → k ≤ (lineContent cs).length →
    (LineMap.ofChars text).position ((ofChars text).offset ((l : Int) + 1) (utf8Length (cs.take k))) = (l, k)

/-- The two tables of lines agree on a text exactly if it has neither of the two separators. -/
theorem tablesAgree_iff : TablesAgree text ↔ ∀ c ∈ text, isSeparator c = false := by
  constructor
  · intro h c hc
    by_contra hsep
    rw [Bool.not_eq_false] at hsep
    have hends := endsSourceLine_of_isSeparator hsep
    obtain ⟨i, hi⟩ := List.mem_iff_getElem?.mp hc
    obtain ⟨l, start, cs, hline, hle, hlt⟩ := exists_line_of_getElem? 0 hi hends
    rw [← getElem?_lines_ofChars] at hline
    -- The character after the separator is in column zero for one table and behind the separator for the other.
    have hk : i + 1 - start ≤ (lineContent cs).length := by omega
    have hposition := h l (i + 1 - start) start cs hline hk
    rw [offset_eq hline, charsWithin_utf8Length_take (hk.trans (length_lineContent_le cs)),
      show start + (i + 1 - start) = i + 1 by omega] at hposition
    have hzero := position_of_isSeparator hi hsep
    rw [hposition] at hzero
    simp only at hzero
    omega
  · intro hsep l k start cs hline hk
    rw [offset_eq hline, charsWithin_utf8Length_take (hk.trans (length_lineContent_le cs))]
    exact position_start_add hsep hline hk

/-- A place that the reader gives is looked up to be on the line that the reader gave. -/
theorem lineOf_offset (hsep : ∀ c ∈ text, isSeparator c = false) {line column : Nat}
    (h : (ofChars text).HasPlace line column) :
    (LineMap.ofChars text).lineOf ((ofChars text).offset line column) + 1 = line := by
  obtain ⟨l, start, cs, rfl, hline, hcolumn⟩ := h
  rw [LineMap.lineOf, Int.natCast_add, Int.natCast_one, offset_eq hline,
    position_start_add hsep hline (charsWithin_le_of_le hcolumn)]

/-! ## The functions of a program

The reader of the language gives a function by its range and the places of its body, and the node of the function has
the positions of both. Turning a place into a position and looking it up again gives the line back. So the line in a
report is the one that the reader gave, and the length of a body is the distance of two lines that it gave. -/

/-- From the start of the first statement to the end of the last one, or the range of the expression of a lambda. -/
def Ast.bodyExtent? : Ast → Option Extent
  | function _ _ _ body _ _ =>
    let first := (body.head?.map extent).getD default
    let last := (body.getLast?.map extent).getD default
    some ⟨first.line, first.column, last.endLine, last.endColumn⟩
  | lambda _ _ body => some body.extent
  | _ => none

/-- The range of a body is that of its extent. -/
theorem Ast.bodySpan?_eq (lines : SourceLines) (a : Ast) :
    a.bodySpan? lines = a.bodyExtent?.map (Ast.span lines) := by
  cases a <;> rfl

/-- Only functions have bodies. -/
theorem Ast.form_of_bodyExtent? {a : Ast} {body : Extent} (h : a.bodyExtent? = some body) : a.form = .functionLike := by
  cases a with
  | function => rfl
  | lambda => rfl
  | _ => exact absurd h (by simp [bodyExtent?])

/-- Are the start of a function and both ends of its body places of a text, the end of the body on no earlier line
than its start? The reader of the language documents this of all that it reads: a line is counted from one, and a
column is the number of bytes before a token of the line. -/
structure Ast.IsPlacedIn (lines : SourceLines) (a : Ast) : Prop where
  start : lines.HasPlace a.extent.line a.extent.column
  bodyStart : ∀ body, a.bodyExtent? = some body → lines.HasPlace body.line body.column
  bodyStop : ∀ body, a.bodyExtent? = some body → lines.HasPlace body.endLine body.endColumn
  le : ∀ body, a.bodyExtent? = some body → body.line ≤ body.endLine

namespace SourceFile

open Fragment

/-- The file with a name, a text and what a reader of the language makes of the text. -/
def ofProgram (filename text : String) (program : List Ast) : SourceFile :=
  ofTree filename text (Ast.root (SourceLines.ofChars text.toList) program)

/-- A source is read as the program that the grammar makes of it. -/
theorem ofSource_eq_ok_iff {filename source : String} {file : SourceFile} :
    ofSource filename source = .ok file ↔ '\x00' ∉ source.toList ∧
      ∃ program, readProgram (withFinalNewline source.toList) = .ok program ∧
        file = ofProgram filename source program := by
  simp only [ofSource]
  split
  · next hnull => simp_all
  · next hnull =>
      cases readProgram (withFinalNewline source.toList) with
      | error line => simp
      | ok program =>
          simp only [Except.ok.injEq, exists_eq_left', ofProgram]
          simp_all [eq_comm]

variable {filename text : String} {program : List Ast}

/-- The nodes of a file are those of its tree, numbered. -/
theorem exists_of_at?_root {place : List Nat} {n : Node}
    (h : (ofProgram filename text program).root.at? place = some n) :
    ∃ m first, (Ast.root (SourceLines.ofChars text.toList) program).at? place = some m ∧
      n = (Node.number first m).1 := by
  obtain ⟨first, hfirst⟩ := Node.exists_at?_number (Ast.root (SourceLines.ofChars text.toList) program) 0 place
  have hn : (Node.number 0 (Ast.root (SourceLines.ofChars text.toList) program)).1.at? place = some n := h
  rw [hfirst, Option.map_eq_some_iff] at hn
  obtain ⟨m, hm, rfl⟩ := hn
  exact ⟨m, first, hm, rfl⟩

/-- Numbering does not change what a node says about its piece. -/
theorem describes_number {lines : SourceLines} {y : Fragment} {m : Node} (h : y.Describes lines m) (first : Nat) :
    y.Describes lines (Node.number first m).1 where
  kind := (Node.number_kind first m).trans h.kind
  start := (Node.number_start first m).trans h.start
  stop := (Node.number_stop first m).trans h.stop
  name := (Node.number_name first m).trans h.name
  body := (Node.number_body first m).trans h.body

/-- The nodes with a body stand at the same places in the file and in the tree without numbers. -/
theorem setOf_isFunctionLike_eq (filename text : String) (program : List Ast) :
    {place | ∃ n, (ofProgram filename text program).root.at? place = some n ∧ n.isFunctionLike} =
      {place | ∃ m, (Ast.root (SourceLines.ofChars text.toList) program).at? place = some m ∧
        m.kind.form = .functionLike} := by
  ext place
  constructor
  · rintro ⟨n, hn, hkind⟩
    obtain ⟨m, first, hm, rfl⟩ := exists_of_at?_root hn
    rw [Node.isFunctionLike, Node.number_kind] at hkind
    exact ⟨m, hm, (Kind.form_eq_functionLike_iff m.kind).mpr hkind⟩
  · rintro ⟨m, hm, hform⟩
    obtain ⟨first, hfirst⟩ := Node.exists_at?_number (Ast.root (SourceLines.ofChars text.toList) program) 0 place
    rw [hm, Option.map_some] at hfirst
    refine ⟨(Node.number first m).1, hfirst, ?_⟩
    rw [Node.isFunctionLike, Node.number_kind]
    exact (Kind.form_eq_functionLike_iff m.kind).mp hform

/-- The line of a function and the length of its body are those that the reader gave. -/
theorem line_and_bodyLength_of_describes (hsep : ∀ c ∈ text.toList, isSeparator c = false) {n : Node} {y : Fragment}
    (h : y.Describes (SourceLines.ofChars text.toList) n)
    (hplaced : y.piece.IsPlacedIn (SourceLines.ofChars text.toList)) {body : Extent}
    (hbody : y.piece.bodyExtent? = some body) :
    ((ofProgram filename text program).position n.start).1 + 1 = y.piece.extent.line ∧
      (ofProgram filename text program).bodyLength n = body.endLine - body.line := by
  have hmap : (ofProgram filename text program).lineMap = LineMap.ofChars text.toList := rfl
  constructor
  · rw [position, hmap, h.start]
    exact lineOf_offset hsep hplaced.start
  · have hstart := lineOf_offset hsep (hplaced.bodyStart body hbody)
    have hstop := lineOf_offset hsep (hplaced.bodyStop body hbody)
    have hle := hplaced.le body hbody
    have hspan : n.body = some (Ast.span (SourceLines.ofChars text.toList) body) := by
      rw [h.body, Ast.bodySpan?_eq, hbody, Option.map_some]
    simp only [bodyLength, hspan, hmap, Ast.span]
    omega

end SourceFile

/-! ## The agreement

Which node is for which function is known by the origins of nodes. Numbering changes neither the places of nodes nor
what they say of their pieces, so the bijection of the tree is one of the file. -/

open SourceFile Fragment

/-- The table of the reader and that of the reports agree on a text exactly when it holds neither a line separator
nor a paragraph separator. In a file with such a text each function of the program has one node, the reports name
the line that the reader gave for it, and the length of its body is the line of the end of the last statement less
the line of the start of the first one, as long as the reader gives places that there are in the text. -/
theorem lineMap_agrees_iff (text : String) :
    (('\u2028' ∉ text.toList ∧ '\u2029' ∉ text.toList) ↔ TablesAgree text.toList) ∧
    ('\u2028' ∉ text.toList ∧ '\u2029' ∉ text.toList →
      ∀ filename program file, file = SourceFile.ofProgram filename text program →
      Everywhere (fun y => y.piece.form = .functionLike → y.piece.IsPlacedIn (SourceLines.ofChars text.toList))
        (ofProgram program) →
      ∃ origin : List Nat → List Nat,
        Set.BijOn origin {place | ∃ n, file.root.at? place = some n ∧ n.isFunctionLike}
          {place | ∃ y, among? (ofProgram program) place = some y ∧ y.piece.form = .functionLike} ∧
        ∀ place n y body, file.root.at? place = some n →
          among? (ofProgram program) (origin place) = some y → y.piece.bodyExtent? = some body →
          (∀ rule message length, (Failure.ofNode rule file n message length).line + 1 = y.piece.extent.line) ∧
          file.bodyLength n = body.endLine - body.line) := by
  have hsep : ('\u2028' ∉ text.toList ∧ '\u2029' ∉ text.toList) ↔ ∀ c ∈ text.toList, isSeparator c = false := by
    constructor
    · rintro ⟨hline, hparagraph⟩ c hc
      simp only [isSeparator, Bool.or_eq_false_iff, beq_eq_false_iff_ne]
      exact ⟨fun h => hline (h ▸ hc), fun h => hparagraph (h ▸ hc)⟩
    · intro h
      exact ⟨fun hline => absurd (h _ hline) (by decide), fun hparagraph => absurd (h _ hparagraph) (by decide)⟩
  rw [hsep, tablesAgree_iff]
  refine ⟨Iff.rfl, ?_⟩
  rintro hsep filename program _ rfl hplaced
  obtain ⟨origin, horigin⟩ := (Ast.root_covers (SourceLines.ofChars text.toList) program).exists_isOrigin
  refine ⟨origin, ?_, ?_⟩
  · rw [setOf_isFunctionLike_eq]
    exact Ast.bijOn_form horigin (by decide)
  · intro place n y body hn hy hbody
    obtain ⟨m, first, hm, rfl⟩ := exists_of_at?_root hn
    have hdescribes := describes_number (Ast.describes_of_isOrigin horigin hm hy) first
    obtain ⟨hline, hlength⟩ := line_and_bodyLength_of_describes hsep hdescribes
      (hplaced (origin place) y hy (Ast.form_of_bodyExtent? hbody)) hbody
    refine ⟨fun rule message length => ?_, hlength⟩
    rw [← hline]
    rfl

/-- A program whose lines end in three ways, with a character of two bytes. -/
def mixedEndings : String :=
  "def f():\r\n  'é'; a\r  b\n"

/-- The function that it is read as. -/
def mixedEndingsFunction : Ast :=
  .function ⟨1, 0, 3, 3⟩ "f" []
    [.construct ⟨2, 2, 2, 6⟩ .plain [.construct ⟨2, 2, 2, 6⟩ .plain []],
      .construct ⟨2, 8, 2, 9⟩ .plain [.name ⟨2, 8, 2, 9⟩ "a"],
      .construct ⟨3, 2, 3, 3⟩ .plain [.name ⟨3, 2, 3, 3⟩ "b"]] [] []

/-- The grammar gives the function these places. -/
example : (readProgram (withFinalNewline mixedEndings.toList)).toOption.map
      (·.map fun a => (a.form, a.extent, a.bodyExtent?)) =
    some [(mixedEndingsFunction.form, mixedEndingsFunction.extent, mixedEndingsFunction.bodyExtent?)] := by
  decide +kernel

/-- The function stands on two lines with different endings, and all its places are places of the text. -/
theorem mixedEndingsFunction_isPlacedIn :
    mixedEndingsFunction.IsPlacedIn (SourceLines.ofChars mixedEndings.toList) where
  start := ⟨0, 0, "def f():\r\n".toList, rfl, by decide, by decide⟩
  bodyStart := by
    rintro _ ⟨⟩
    exact ⟨1, 10, "  'é'; a\r".toList, rfl, by decide, by decide⟩
  bodyStop := by
    rintro _ ⟨⟩
    exact ⟨2, 19, "  b\n".toList, rfl, by decide, by decide⟩
  le := by
    rintro _ ⟨⟩
    decide

/-- The tables agree on the text, its function is reported on the first line, and its body has one line ending. -/
theorem mixedEndings_lines :
    TablesAgree mixedEndings.toList ∧
      ∃ place n, (SourceFile.ofProgram "m.py" mixedEndings [mixedEndingsFunction]).root.at? place = some n ∧
        (Failure.ofNode "r" (SourceFile.ofProgram "m.py" mixedEndings [mixedEndingsFunction]) n "m" 1).line + 1 = 1 ∧
        (SourceFile.ofProgram "m.py" mixedEndings [mixedEndingsFunction]).bodyLength n = 1 := by
  obtain ⟨hagree, hlines⟩ := lineMap_agrees_iff mixedEndings
  have hsep : '\u2028' ∉ mixedEndings.toList ∧ '\u2029' ∉ mixedEndings.toList := by decide
  have hplaced : Everywhere (fun y => y.piece.form = .functionLike →
      y.piece.IsPlacedIn (SourceLines.ofChars mixedEndings.toList)) (ofProgram [mixedEndingsFunction]) := by
    refine .cons (fun _ => mixedEndingsFunction_isPlacedIn) ?_ (everywhere_nil _)
    -- There is no further function below.
    repeat' first | exact everywhere_nil _ | refine .cons (fun h => absurd h (by decide)) ?_ ?_
  obtain ⟨origin, hbij, hline⟩ := hlines hsep "m.py" [mixedEndingsFunction] _ rfl hplaced
  have hfunction : among? (ofProgram [mixedEndingsFunction]) [0] = some ⟨.plain, mixedEndingsFunction⟩ := rfl
  obtain ⟨place, ⟨n, hn, -⟩, horigin⟩ := hbij.surjOn ⟨_, hfunction, rfl⟩
  obtain ⟨hstart, hlength⟩ := hline place n _ ⟨2, 2, 3, 3⟩ hn (horigin ▸ hfunction) rfl
  exact ⟨hagree.mp hsep, place, n, hn, hstart "r" "m" 1, hlength⟩

end BodyLength
