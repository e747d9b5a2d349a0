import BodyLength.Text.ByteColumn
import BodyLength.Text.LineMap
import Mathlib.Data.List.Basic
import Mathlib.Data.List.Infix
import Mathlib.Data.List.TakeWhile

/-!
# Lines of source code and lines of a text

Two tables say where the lines of a text start. `SourceLines` ends a line at a carriage return, a line feed or the
pair of both and keeps the characters of each line; `LineMap` also ends lines at two separators and keeps the starts
only. Each is taken apart here by itself, and then the first is compared with the second.

* `charsWithin_utf8Length_take`: the column in bytes of a character leads back to this character.
* `LineMap.position_eq`: a position from the start of a line on and before the start of the next one is on that
  line.
* `LineMap.position_of_mem_lineStarts`: a start of a line has the column zero.
* `exists_line_of_getElem?`: every character that ends no line stands in the content of a source line.
* `starts_eq`: without the two separators both tables hold the same starts.
-/

namespace BodyLength

/-! ## Columns in bytes

A line of source code has its ending with it, and `lineContent` is the line without it. Columns that do not reach into
the ending are those that the reader gives. Among these, the column of a character leads back to the character. -/

/-- Does a character end a line of source code? -/
def endsSourceLine (c : Char) : Bool :=
  c == '\r' || c == '\n'

/-- A line without its ending. -/
def lineContent (cs : List Char) : List Char :=
  cs.takeWhile fun c => !endsSourceLine c

/-- Nothing of a line stands behind the character that ends it. -/
theorem lineContent_cons_of_ends {c : Char} (h : endsSourceLine c) (cs : List Char) : lineContent (c :: cs) = [] := by
  simp [lineContent, h]

/-- A character that ends no line belongs to it. -/
theorem lineContent_cons_of_not_ends {c : Char} (h : endsSourceLine c = false) (cs : List Char) :
    lineContent (c :: cs) = c :: lineContent cs := by
  simp [lineContent, h]

/-- A line is no longer than the text it begins. -/
theorem length_lineContent_le (cs : List Char) : (lineContent cs).length ≤ cs.length :=
  (List.takeWhile_prefix _).length_le

@[simp] theorem utf8Length_nil : utf8Length [] = 0 := rfl

@[simp] theorem utf8Length_cons (c : Char) (cs : List Char) : utf8Length (c :: cs) = c.utf8Size + utf8Length cs := rfl

/-- A column that is no negative number is a number of bytes as it is. -/
theorem byteBudget_natCast (size column : Nat) : SourceLines.byteBudget size column = column := by
  have hcolumn : ¬(column : Int) < 0 := by omega
  rw [SourceLines.byteBudget, if_neg hcolumn, Int.toNat_natCast]

/-- The column in bytes of a character leads back to the character. -/
theorem charsWithin_utf8Length_take {k : Nat} {cs : List Char} (h : k ≤ cs.length) :
    charsWithin (utf8Length (cs.take k)) cs = k := by
  induction cs generalizing k with
  | nil =>
      rw [List.length_nil, Nat.le_zero] at h
      rw [h, charsWithin]
  | cons c cs ih =>
      cases k with
      | zero => simp [charsWithin, Nat.not_le.mpr c.utf8Size_pos]
      | succ k =>
          rw [List.take_succ_cons, utf8Length_cons, charsWithin, if_pos (Nat.le_add_right _ _),
            Nat.add_sub_cancel_left, ih (Nat.le_of_succ_le_succ h)]

/-- A column that does not reach into the ending of a line leads to a character of its content, or to its end. -/
theorem charsWithin_le_of_le {column : Nat} {cs : List Char} (h : column ≤ utf8Length (lineContent cs)) :
    charsWithin column cs ≤ (lineContent cs).length := by
  induction cs generalizing column with
  | nil => simp [charsWithin]
  | cons c cs ih =>
      cases hc : endsSourceLine c with
      | true =>
          have hpos := c.utf8Size_pos
          rw [lineContent_cons_of_ends hc, utf8Length_nil] at h
          rw [charsWithin, if_neg (by omega)]
          exact Nat.zero_le _
      | false =>
          rw [lineContent_cons_of_not_ends hc, utf8Length_cons] at h
          rw [lineContent_cons_of_not_ends hc, charsWithin, List.length_cons]
          split
          · exact Nat.succ_le_succ (ih (by omega))
          · exact Nat.zero_le _

/-- There are no more characters within a number of bytes than there are. -/
theorem charsWithin_le_length (budget : Nat) (cs : List Char) : charsWithin budget cs ≤ cs.length := by
  induction cs generalizing budget with
  | nil => simp [charsWithin]
  | cons c cs ih =>
      rw [charsWithin, List.length_cons]
      split
      · exact Nat.succ_le_succ (ih _)
      · exact Nat.zero_le _

/-- More bytes hold no fewer characters. -/
theorem charsWithin_mono {budget budget' : Nat} (h : budget ≤ budget') (cs : List Char) :
    charsWithin budget cs ≤ charsWithin budget' cs := by
  induction cs generalizing budget budget' with
  | nil => simp [charsWithin]
  | cons c cs ih =>
      rw [charsWithin, charsWithin]
      split
      · rw [if_pos (by omega)]
        exact Nat.succ_le_succ (ih (by omega))
      · exact Nat.zero_le _

/-! ## The starts of lines in a line map

The starts that a line map keeps are zero and those that the pass over the text collects, which are in strict order.
All that a look-up does can be told from that. -/

/-- The separators that end a line of a text but no line of source code. -/
def isSeparator (c : Char) : Bool :=
  c == '\u2028' || c == '\u2029'

/-- What ends a line of a line map ends a line of source code, or is one of the two separators. -/
theorem isLineBreak_eq (c : Char) : isLineBreak c = (endsSourceLine c || isSeparator c) := by
  simp only [isLineBreak, endsSourceLine, isSeparator]
  cases c == '\n' <;> cases c == '\r' <;> simp

/-- The separators end no line of source code. In this the two tables of lines differ. -/
theorem endsSourceLine_of_isSeparator {c : Char} (h : isSeparator c) : endsSourceLine c = false := by
  simp only [isSeparator, Bool.or_eq_true, beq_iff_eq] at h
  rcases h with rfl | rfl <;> decide

/-- Lines behind the first begin behind the beginning. -/
theorem lt_of_mem_breakEnds {pos start : Nat} {text : List Char} (h : start ∈ breakEnds pos text) : pos < start := by
  fun_induction breakEnds pos text with
  | case1 => simp at h
  | case2 pos rest ih =>
      rcases List.mem_cons.mp h with rfl | h
      · omega
      · have := ih h
        omega
  | case3 pos c rest _ _ ih =>
      rcases List.mem_cons.mp h with rfl | h
      · omega
      · have := ih h
        omega
  | case4 pos c rest _ _ ih =>
      have := ih h
      omega

/-- Later lines begin later. -/
theorem breakEnds_pairwise_lt (pos : Nat) (text : List Char) : (breakEnds pos text).Pairwise (· < ·) := by
  fun_induction breakEnds pos text with
  | case1 => exact .nil
  | case2 pos rest ih => exact .cons (fun _ h => lt_of_mem_breakEnds h) ih
  | case3 pos c rest _ _ ih => exact .cons (fun _ h => lt_of_mem_breakEnds h) ih
  | case4 pos c rest _ _ ih => exact ih

/-- Behind a separator a line starts. -/
theorem mem_breakEnds_of_isSeparator (pos : Nat) {text : List Char} {i : Nat} {c : Char} (h : text[i]? = some c)
    (hc : isSeparator c) : pos + i + 1 ∈ breakEnds pos text := by
  fun_induction breakEnds pos text generalizing i with
  | case1 => simp at h
  | case2 pos rest ih =>
      rcases i with _ | _ | i
      · obtain rfl : '\r' = c := by simpa using h
        exact absurd hc (by decide)
      · obtain rfl : '\n' = c := by simpa using h
        exact absurd hc (by decide)
      · have := ih (i := i) (by simpa using h)
        rw [List.mem_cons]
        right
        rwa [show pos + (i + 1 + 1) + 1 = pos + 2 + i + 1 by omega]
  | case3 pos d rest _ _ ih =>
      rcases i with _ | i
      · exact List.mem_cons_self
      · have := ih (i := i) (by simpa using h)
        rw [List.mem_cons]
        right
        rwa [show pos + (i + 1) + 1 = pos + 1 + i + 1 by omega]
  | case4 pos d rest _ hd ih =>
      rcases i with _ | i
      · obtain rfl : d = c := by simpa using h
        simp [isLineBreak_eq, hc] at hd
      · have := ih (i := i) (by simpa using h)
        rwa [show pos + (i + 1) + 1 = pos + 1 + i + 1 by omega]

namespace LineMap

variable {m : LineMap}

/-- The starts that a line map keeps are in order, none of them twice. -/
theorem lineStarts_pairwise_lt (text : List Char) : (ofChars text).lineStarts.Pairwise (· < ·) :=
  .cons (fun _ h => lt_of_mem_breakEnds h) (breakEnds_pairwise_lt 0 text)

/-- The starts that are not behind a position are those up to the one of its line. -/
theorem takeWhile_lineStarts {line start pos : Nat} (hsorted : m.lineStarts.Pairwise (· < ·))
    (hstart : m.lineStarts[line]? = some start) (hle : start ≤ pos)
    (hnext : ∀ next, m.lineStarts[line + 1]? = some next → pos < next) :
    m.lineStarts.takeWhile (· ≤ pos) = m.lineStarts.take (line + 1) := by
  have hbefore : ∀ a ∈ m.lineStarts.take (line + 1), decide (a ≤ pos) = true := by
    intro a ha
    obtain ⟨i, hi, rfl⟩ := List.mem_take_iff_getElem.mp ha
    obtain ⟨hline, rfl⟩ := List.getElem?_eq_some_iff.mp hstart
    have hai : m.lineStarts[i] ≤ m.lineStarts[line] := by
      rcases Nat.lt_or_eq_of_le (show i ≤ line by omega) with hlt | rfl
      · exact Nat.le_of_lt (List.pairwise_iff_getElem.mp hsorted i line _ hline hlt)
      · exact Nat.le_refl _
    simpa using Nat.le_trans hai hle
  have hbehind : (m.lineStarts.drop (line + 1)).takeWhile (· ≤ pos) = [] := by
    rcases hdrop : m.lineStarts.drop (line + 1) with _ | ⟨next, more⟩
    · rfl
    · have hnext := hnext next (by rw [← List.head?_drop, hdrop, List.head?_cons])
      simp [Nat.not_le.mpr hnext]
  calc m.lineStarts.takeWhile (· ≤ pos)
      = (m.lineStarts.take (line + 1) ++ m.lineStarts.drop (line + 1)).takeWhile (· ≤ pos) := by
        rw [List.take_append_drop]
    _ = m.lineStarts.take (line + 1) ++ (m.lineStarts.drop (line + 1)).takeWhile (· ≤ pos) :=
        List.takeWhile_append_of_pos hbefore
    _ = m.lineStarts.take (line + 1) := by rw [hbehind, List.append_nil]

/-- A position from the start of a line on and before the start of the next line is on this line. -/
theorem position_eq {line start pos : Nat} (hsorted : m.lineStarts.Pairwise (· < ·))
    (hstart : m.lineStarts[line]? = some start) (hle : start ≤ pos)
    (hnext : ∀ next, m.lineStarts[line + 1]? = some next → pos < next) (hlength : pos ≤ m.length) :
    m.position pos = (line, pos - start) := by
  have hclamp : m.clamp pos = pos := by
    rw [clamp]
    omega
  have hline : m.lineAt pos = line := by
    have hlt := (List.getElem?_eq_some_iff.mp hstart).1
    rw [lineAt, takeWhile_lineStarts hsorted hstart hle hnext, List.length_take]
    omega
  simp only [position, hclamp, hline, List.getD_eq_getElem?_getD, hstart, Option.getD_some]

/-- A start of a line has the column zero. -/
theorem position_of_mem_lineStarts {start : Nat} (hsorted : m.lineStarts.Pairwise (· < ·))
    (hstart : start ∈ m.lineStarts) (hlength : start ≤ m.length) : (m.position start).2 = 0 := by
  obtain ⟨line, hline⟩ := List.mem_iff_getElem?.mp hstart
  rw [position_eq hsorted hline (Nat.le_refl _) ?_ hlength, Nat.sub_self]
  intro next hnext
  obtain ⟨hlt, rfl⟩ := List.getElem?_eq_some_iff.mp hline
  obtain ⟨hlt', rfl⟩ := List.getElem?_eq_some_iff.mp hnext
  exact List.pairwise_iff_getElem.mp hsorted line (line + 1) hlt hlt' (Nat.lt_succ_self line)

end LineMap

/-! ## The lines of source code

The lines of source code are split off one by one, with a carriage return and a line feed taken together. Proofs go by
an induction of their own: a text is empty, or it begins with the ending of its first line, or with a character of it.
The two characters of a pair are one step in this. -/

open SourceLines (withStarts)

/-- Every text has a line, if only an empty one. -/
theorem splitSourceLines_ne_nil (text : List Char) : splitSourceLines text ≠ [] := by
  fun_cases splitSourceLines text with
  | case5 c rest =>
      intro h
      cases hrest : splitSourceLines rest <;> simp [hrest, consToFirst] at h
  | _ => simp

/-- A character that ends no line is put in front of the first line of what follows it. -/
theorem splitSourceLines_cons {c : Char} (hc : endsSourceLine c = false) (rest : List Char) :
    ∃ line lines, splitSourceLines rest = line :: lines ∧ splitSourceLines (c :: rest) = (c :: line) :: lines := by
  obtain ⟨line, lines, hrest⟩ := List.exists_cons_of_ne_nil (splitSourceLines_ne_nil rest)
  refine ⟨line, lines, hrest, ?_⟩
  have hreturn : c ≠ '\r' := by
    rintro rfl
    simp [endsSourceLine] at hc
  have hfeed : c ≠ '\n' := by
    rintro rfl
    simp [endsSourceLine] at hc
  rw [splitSourceLines, hrest, consToFirst]
  · exact fun _ h => absurd h hreturn
  · exact hreturn
  · exact hfeed

/-- What ends a line of source code. -/
def lineEndings : List (List Char) :=
  [['\r', '\n'], ['\r'], ['\n']]

/-- Induction along the lines of a text: it starts with the ending of its first line, which is empty without it, or
with a character of its first line. -/
@[elab_as_elim]
theorem splitSourceLines_induction {motive : List Char → Prop} (nil : motive [])
    (ending : ∀ e ∈ lineEndings, ∀ rest, splitSourceLines (e ++ rest) = e :: splitSourceLines rest → motive rest →
      motive (e ++ rest))
    (other : ∀ c rest line lines, endsSourceLine c = false → splitSourceLines rest = line :: lines →
      splitSourceLines (c :: rest) = (c :: line) :: lines → motive rest → motive (c :: rest))
    (text : List Char) : motive text := by
  fun_induction splitSourceLines text with
  | case1 => exact nil
  | case2 rest ih => exact ending ['\r', '\n'] (by decide) rest rfl ih
  | case3 rest hfeed ih =>
      refine ending ['\r'] (by decide) rest ?_ ih
      rw [List.singleton_append, splitSourceLines]
      exact hfeed
  | case4 rest ih => exact ending ['\n'] (by decide) rest rfl ih
  | case5 c rest hpair hreturn hfeed ih =>
      have hc : endsSourceLine c = false := by
        simp only [endsSourceLine, Bool.or_eq_false_iff, beq_eq_false_iff_ne]
        exact ⟨hreturn, hfeed⟩
      obtain ⟨line, lines, hrest, hlines⟩ := splitSourceLines_cons hc rest
      exact other c rest line lines hc hrest hlines ih

/-- An ending is not empty, and nothing of the line is in it. -/
theorem lineContent_of_mem_lineEndings {e : List Char} (h : e ∈ lineEndings) : lineContent e = [] ∧ e ≠ [] := by
  revert e
  decide

/-- An ending is made of characters that end lines. -/
theorem endsSourceLine_of_mem {e : List Char} (h : e ∈ lineEndings) {c : Char} (hc : c ∈ e) : endsSourceLine c := by
  have hall : ∀ e ∈ lineEndings, e.all endsSourceLine := by decide
  exact List.all_eq_true.mp (hall e h) c hc

/-- Behind the ending of a first line that is empty without it a line starts, and not before. -/
theorem breakEnds_ending {e rest : List Char} (h : e ∈ lineEndings)
    (hlines : splitSourceLines (e ++ rest) = e :: splitSourceLines rest) (pos : Nat) :
    breakEnds pos (e ++ rest) = (pos + e.length) :: breakEnds (pos + e.length) rest := by
  simp only [lineEndings, List.mem_cons, List.not_mem_nil, or_false] at h
  rcases h with rfl | rfl | rfl
  · rfl
  · -- A line feed behind the carriage return would be of the same ending.
    have hfeed : ∀ rest', '\r' = '\r' → rest = '\n' :: rest' → False := by
      rintro rest' - rfl
      simp [splitSourceLines] at hlines
    rw [List.singleton_append, breakEnds, if_pos (by decide), List.length_singleton]
    exact hfeed
  · rw [List.singleton_append, breakEnds, if_pos (by decide), List.length_singleton]
    nofun

/-- A character that ends no line begins none. -/
theorem breakEnds_cons_of_not_isLineBreak {c : Char} (h : isLineBreak c = false) (pos : Nat) (rest : List Char) :
    breakEnds pos (c :: rest) = breakEnds (pos + 1) rest := by
  rw [breakEnds, if_neg (by simp [h])]
  rintro rest' rfl
  simp [isLineBreak] at h

/-- The lines of a text are the text. -/
theorem flatten_splitSourceLines (text : List Char) : (splitSourceLines text).flatten = text := by
  induction text using splitSourceLines_induction with
  | nil => rfl
  | ending e _ rest hlines ih => rw [hlines, List.flatten_cons, ih]
  | other c rest line lines _ hrest hlines ih =>
      rw [hrest, List.flatten_cons] at ih
      rw [hlines, List.flatten_cons, List.cons_append, ih]

/-- A text is what is in front of a line, the line and what is behind it. -/
theorem flatten_take_append {text cs : List Char} {l : Nat} (h : (splitSourceLines text)[l]? = some cs) :
    ((splitSourceLines text).take l).flatten ++ (cs ++ ((splitSourceLines text).drop (l + 1)).flatten) = text := by
  conv_rhs => rw [← flatten_splitSourceLines text, ← List.take_append_drop (l + 1) (splitSourceLines text)]
  rw [List.take_add_one, h, Option.toList_some, List.append_assoc, List.flatten_append, List.singleton_append,
    List.flatten_cons]

/-- A line that another one follows has an ending. -/
theorem length_lineContent_lt {text cs cs' : List Char} {l : Nat} (h : (splitSourceLines text)[l]? = some cs)
    (h' : (splitSourceLines text)[l + 1]? = some cs') : (lineContent cs).length < cs.length := by
  induction text using splitSourceLines_induction generalizing l cs with
  | nil => simp [splitSourceLines] at h'
  | ending e he rest hlines ih =>
      rw [hlines] at h h'
      cases l with
      | zero =>
          obtain rfl : e = cs := Option.some.inj h
          obtain ⟨hcontent, hne⟩ := lineContent_of_mem_lineEndings he
          rw [hcontent]
          exact List.length_pos_iff.mpr hne
      | succ l => exact ih h h'
  | other c rest line lines hc hrest hlines ih =>
      rw [hlines] at h h'
      rw [hrest] at ih
      cases l with
      | zero =>
          obtain rfl : c :: line = cs := Option.some.inj h
          rw [lineContent_cons_of_not_ends hc]
          exact Nat.succ_lt_succ (ih rfl h')
      | succ l => exact ih (l := l + 1) h h'

/-! ## The starts of source lines

Each line starts where the lines before it end. So the starts are in order, every character stands in one of the lines,
and in a text without separators they are the starts that a line map keeps. -/

/-- Each line starts behind the lines before it. -/
theorem getElem?_withStarts (pos l : Nat) (lines : List (List Char)) :
    (withStarts pos lines)[l]? = lines[l]?.map fun cs => (pos + (lines.take l).flatten.length, cs) := by
  induction lines generalizing pos l with
  | nil => simp [withStarts]
  | cons line lines ih =>
      cases l with
      | zero => simp [withStarts]
      | succ l => simp [withStarts, ih, Nat.add_assoc]

/-- A line does not reach behind the text. -/
theorem start_add_length_le {text cs : List Char} {l start : Nat}
    (h : (withStarts 0 (splitSourceLines text))[l]? = some (start, cs)) : start + cs.length ≤ text.length := by
  rw [getElem?_withStarts, Option.map_eq_some_iff] at h
  obtain ⟨cs, hcs, heq⟩ := h
  obtain ⟨rfl, rfl⟩ := Prod.mk.inj heq
  have hlength := congrArg List.length (flatten_take_append hcs)
  rw [List.length_append, List.length_append] at hlength
  omega

/-- The next line starts where a line ends. -/
theorem start_succ_eq {pos l start start' : Nat} {lines : List (List Char)} {cs cs' : List Char}
    (h : (withStarts pos lines)[l]? = some (start, cs)) (h' : (withStarts pos lines)[l + 1]? = some (start', cs')) :
    start' = start + cs.length := by
  rw [getElem?_withStarts, Option.map_eq_some_iff] at h h'
  obtain ⟨cs, hcs, heq⟩ := h
  obtain ⟨cs', -, heq'⟩ := h'
  obtain ⟨rfl, rfl⟩ := Prod.mk.inj heq
  obtain ⟨rfl, rfl⟩ := Prod.mk.inj heq'
  rw [List.take_add_one, hcs]
  simp [Nat.add_assoc]

/-- A line has ended before a later one starts. -/
theorem start_add_length_le_start {pos l l' start start' : Nat} {lines : List (List Char)} {cs cs' : List Char}
    (h : (withStarts pos lines)[l]? = some (start, cs)) (h' : (withStarts pos lines)[l']? = some (start', cs'))
    (hlt : l < l') : start + cs.length ≤ start' := by
  rw [getElem?_withStarts, Option.map_eq_some_iff] at h h'
  obtain ⟨cs, hcs, heq⟩ := h
  obtain ⟨cs', -, heq'⟩ := h'
  obtain ⟨rfl, rfl⟩ := Prod.mk.inj heq
  obtain ⟨rfl, rfl⟩ := Prod.mk.inj heq'
  have hbegins : (lines.take (l + 1)).flatten <+: (lines.take l').flatten :=
    List.IsPrefix.flatten (List.take_prefix_take_left hlt)
  have hlength := hbegins.length_le
  rw [List.take_add_one, hcs, List.flatten_append, List.length_append] at hlength
  simpa [Nat.add_assoc] using hlength

/-- Every character that ends no line stands in the content of a line. -/
theorem exists_line_of_getElem? (pos : Nat) {text : List Char} {i : Nat} {c : Char} (h : text[i]? = some c)
    (hc : endsSourceLine c = false) :
    ∃ (l start : Nat) (cs : List Char), (withStarts pos (splitSourceLines text))[l]? = some (start, cs) ∧
      start ≤ pos + i ∧ pos + i < start + (lineContent cs).length := by
  induction text using splitSourceLines_induction generalizing pos i with
  | nil => simp at h
  | ending e he rest hlines ih =>
      have hi : e.length ≤ i := by
        by_contra hlt
        rw [List.getElem?_append_left (Nat.not_le.mp hlt)] at h
        have := endsSourceLine_of_mem he (List.mem_of_getElem? h)
        simp [hc] at this
      rw [List.getElem?_append_right hi] at h
      obtain ⟨l, start, cs, hline, hle, hlt⟩ := ih (pos + e.length) h
      refine ⟨l + 1, start, cs, ?_, by omega, by omega⟩
      rw [hlines, withStarts, List.getElem?_cons_succ, hline]
  | other d rest line lines hd hrest hlines ih =>
      rw [hlines]
      cases i with
      | zero =>
          refine ⟨0, pos, d :: line, rfl, Nat.le_refl _, ?_⟩
          rw [lineContent_cons_of_not_ends hd, List.length_cons]
          omega
      | succ i =>
          obtain ⟨l, start, cs, hline, hle, hlt⟩ := ih (pos + 1) (i := i) (by simpa using h)
          rw [hrest, withStarts] at hline
          cases l with
          | zero =>
              obtain ⟨rfl, rfl⟩ : pos + 1 = start ∧ line = cs := by simpa using hline
              refine ⟨0, pos, d :: line, rfl, by omega, ?_⟩
              rw [lineContent_cons_of_not_ends hd, List.length_cons]
              omega
          | succ l =>
              refine ⟨l + 1, start, cs, ?_, by omega, by omega⟩
              rw [withStarts, List.getElem?_cons_succ, List.length_cons, ← hline, List.getElem?_cons_succ]
              congr 2
              omega

/-- Without separators the lines of source code start where the lines of the text do. -/
theorem starts_eq {text : List Char} (h : ∀ c ∈ text, isSeparator c = false) (pos : Nat) :
    (withStarts pos (splitSourceLines text)).map (·.1) = pos :: breakEnds pos text := by
  induction text using splitSourceLines_induction generalizing pos with
  | nil => rfl
  | ending e he rest hlines ih =>
      rw [breakEnds_ending he hlines, hlines, withStarts, List.map_cons,
        ih (fun c hc => h c (List.mem_append_right e hc))]
  | other d rest line lines hd hrest hlines ih =>
      have hbreak : isLineBreak d = false := by
        rw [isLineBreak_eq, hd, h d List.mem_cons_self, Bool.or_false]
      have ih := ih (fun c hc => h c (List.mem_cons_of_mem d hc)) (pos + 1)
      rw [hrest, withStarts, List.map_cons, List.cons.injEq] at ih
      rw [hlines, withStarts, List.map_cons, breakEnds_cons_of_not_isLineBreak hbreak, ← ih.2, List.length_cons]
      congr 3
      omega

end BodyLength
