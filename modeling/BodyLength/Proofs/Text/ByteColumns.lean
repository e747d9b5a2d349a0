import BodyLength.Proofs.Text.Encoding
import BodyLength.Proofs.Text.LineAgreement
import Mathlib.Data.List.Sort
import Mathlib.Order.Bounds.Defs

/-!
# Columns in bytes

A place is given by a line and a number of bytes, and the position looked up for it is a number of characters. The table
of lines adds up the sizes of characters and never sees a byte. What that comes to is said here by the text and by its
encoding: at which positions lines start (`IsSourceLineStart`), and how many characters have an encoding within a column
(`IsFloor`).

* `isFloor_charsWithin`: of the first characters of a line, as many count as have an encoding within the column.
* `run_take_encode`: these are what a decoder makes of the bytes in front of the column, a character that the column
  cuts being left out.
* `starts_eq_sourceLineStarts`, `getElem?_lines`: the table holds the starts that the text has, in order, each with the
  characters up to the next one.
* `offset_rounds_down`: both together, with what follows for places that are turned into positions.
-/

namespace BodyLength

open SourceLines (withStarts)

/-! ## Characters and bytes

The table takes as many characters of a line as fit into a column, by adding up their sizes. A decoder is given the
bytes in front of the column and reads as many characters as are complete. Both give the greatest number of characters
whose encoding is within the column. -/

/-- The bound of a range of codes, as a number. -/
theorem val_le_ofNatLT_iff (c : Char) {n : Nat} (h : n < UInt32.size) : c.val ≤ UInt32.ofNatLT n h ↔ c.toNat < n + 1 := by
  rw [UInt32.le_iff_toNat_le, UInt32.toNat_ofNatLT, Nat.lt_succ_iff]
  rfl

/-- A character is encoded in as many bytes as are counted for it. -/
theorem length_encodeChar (c : Char) : (Utf8.encodeChar c).length = c.utf8Size := by
  unfold Utf8.encodeChar Char.utf8Size
  simp only [val_le_ofNatLT_iff]
  split_ifs <;> rfl

/-- So is a text. -/
theorem length_encode (cs : List Char) : (Utf8.encode cs).length = utf8Length cs := by
  induction cs with
  | nil => rfl
  | cons c rest ih => rw [Utf8.encode_cons, List.length_append, length_encodeChar, ih, utf8Length_cons]

/-- The first characters of a line have an encoding within some bytes exactly if no more than these are counted. -/
theorem utf8Length_take_le_iff {budget k : Nat} {cs : List Char} (hk : k ≤ cs.length) :
    utf8Length (cs.take k) ≤ budget ↔ k ≤ charsWithin budget cs := by
  induction cs generalizing budget k with
  | nil =>
      rw [List.length_nil, Nat.le_zero] at hk
      subst hk
      simp
  | cons c rest ih =>
      cases k with
      | zero => simp
      | succ k =>
          rw [List.length_cons] at hk
          rw [List.take_succ_cons, utf8Length_cons, charsWithin]
          have hrest := @ih (budget - c.utf8Size) k (by omega)
          split
          · omega
          · omega

/-- Is a number the greatest number of first characters of a line whose encoding has at most so many bytes? -/
def IsFloor (line : List Char) (column k : Nat) : Prop :=
  IsGreatest {k | k ≤ line.length ∧ (Utf8.encode (line.take k)).length ≤ column} k

/-- The characters that are counted for a column are the most that fit in front of it. -/
theorem isFloor_charsWithin (line : List Char) (column : Nat) : IsFloor line column (charsWithin column line) := by
  unfold IsFloor
  constructor
  · refine ⟨charsWithin_le_length column line, ?_⟩
    rw [length_encode, utf8Length_take_le_iff (charsWithin_le_length column line)]
  · rintro k ⟨hk, hle⟩
    rwa [length_encode, utf8Length_take_le_iff hk] at hle

/-- What is left of a character that is cut is shorter than the character. -/
theorem Utf8.IsCut.length_lt {cut back : List UInt8} {c : Char} {rest : List Char} (hcut : Utf8.IsCut cut)
    (h : cut ++ back = Utf8.encode (c :: rest)) : cut.length < (Utf8.encodeChar c).length := by
  by_contra hlong
  rw [Utf8.encode_cons] at h
  obtain ⟨after, rfl⟩ : Utf8.encodeChar c <+: cut :=
    List.prefix_of_prefix_length_le (List.prefix_append _ _) (h ▸ List.prefix_append _ _) (Nat.le_of_not_lt hlong)
  -- a character whose bytes are all there is read
  obtain ⟨b, tail, hc⟩ := List.exists_cons_of_ne_nil (Utf8.encodeChar_ne_nil c)
  rw [hc, List.cons_append, Utf8.IsCut, Utf8.step_of_encodeChar hc] at hcut
  contradiction

/-- A decoder makes the counted characters of the bytes in front of a column, and keeps back what it has of the next
one. -/
theorem run_take_encode (line : List Char) (column : Nat) :
    ∃ cut, Utf8.run 0 0 ((Utf8.encode line).take column) = .ok (line.take (charsWithin column line), cut) := by
  obtain ⟨first, second, cut, rfl, htake, hdrop, hcut⟩ :=
    Utf8.exists_encode_of_append_eq (List.take_append_drop column (Utf8.encode line))
  have hbytes := congrArg List.length htake
  rw [List.length_take, List.length_append, Utf8.encode_append, List.length_append] at hbytes
  have hcount : first.length = charsWithin column (first ++ second) := by
    apply le_antisymm
    · have hlength : first.length ≤ (first ++ second).length := by
        rw [List.length_append]
        exact Nat.le_add_right _ _
      rw [← utf8Length_take_le_iff hlength, List.take_left, ← length_encode]
      omega
    · have hall := charsWithin_le_length column (first ++ second)
      rw [List.length_append] at hall
      cases second with
      | nil => exact hall
      | cons c rest =>
          -- with one more character the encoding does not end before the column
          by_contra hmore
          have hlength : first.length + 1 ≤ (first ++ c :: rest).length := by
            rw [List.length_append, List.length_cons]
            omega
          have hwithin : utf8Length ((first ++ c :: rest).take (first.length + 1)) ≤ column := by
            rw [utf8Length_take_le_iff hlength]
            omega
          rw [List.take_length_add_append, List.take_succ_cons, List.take_zero, ← length_encode, Utf8.encode_append,
            List.length_append] at hwithin
          have hshort := hcut.length_lt hdrop
          rw [Utf8.encode_cons, List.length_append] at hwithin hbytes
          omega
  refine ⟨cut, ?_⟩
  rw [← hcount, List.take_left]
  exact Utf8.run_eq_ok_iff.mpr ⟨htake, hcut⟩

/-! ## Starts of lines

By the text alone, lines start at the beginning of the text and behind each carriage return and each line feed, but not
within a pair of both. Two lists with the same members that are both in strict order are one, so it is enough to show
that the table holds these positions and no others. -/

/-- Does a line start at a position, that is at the start of the text or right behind an ending? A carriage return with
a line feed behind it is no ending yet. -/
def IsSourceLineStart (text : List Char) : Nat → Prop
  | 0 => True
  | i + 1 => text[i]? = some '\n' ∨ text[i]? = some '\r' ∧ text[i + 1]? ≠ some '\n'

instance (text : List Char) : DecidablePred (IsSourceLineStart text)
  | 0 => isTrue trivial
  | i + 1 => inferInstanceAs (Decidable (text[i]? = some '\n' ∨ text[i]? = some '\r' ∧ text[i + 1]? ≠ some '\n'))

/-- The positions of a text at which lines start, in order. -/
def sourceLineStarts (text : List Char) : List Nat :=
  (List.range (text.length + 1)).filter (IsSourceLineStart text)

/-- No line begins behind the text. -/
theorem IsSourceLineStart.le_length {text : List Char} {p : Nat} (h : IsSourceLineStart text p) : p ≤ text.length := by
  cases p with
  | zero => exact Nat.zero_le _
  | succ i =>
      rcases h with h | ⟨h, -⟩
      · exact (List.getElem?_eq_some_iff.mp h).1
      · exact (List.getElem?_eq_some_iff.mp h).1

/-- The list of the starts has them all and nothing else. -/
theorem mem_sourceLineStarts {text : List Char} {p : Nat} : p ∈ sourceLineStarts text ↔ IsSourceLineStart text p := by
  rw [sourceLineStarts, List.mem_filter, List.mem_range, decide_eq_true_iff, Nat.lt_succ_iff]
  exact and_iff_right_of_imp IsSourceLineStart.le_length

/-- Behind the ending of a first line that is empty without it, the lines start that start behind it in the rest. -/
theorem isSourceLineStart_ending_iff {e rest : List Char} (h : e ∈ lineEndings)
    (hlines : splitSourceLines (e ++ rest) = e :: splitSourceLines rest) (i : Nat) :
    IsSourceLineStart (e ++ rest) (i + 1) ↔ e.length ≤ i + 1 ∧ IsSourceLineStart rest (i + 1 - e.length) := by
  simp only [lineEndings, List.mem_cons, List.not_mem_nil, or_false] at h
  rcases h with rfl | rfl | rfl
  · rcases i with _ | _ | i
    · simp [IsSourceLineStart]
    · simp [IsSourceLineStart]
    · simp [IsSourceLineStart]
  · have hfeed : rest[0]? ≠ some '\n' := by
      intro hfeed
      obtain ⟨rest, rfl⟩ : ∃ rest', rest = '\n' :: rest' := by
        cases rest with
        | nil => simp at hfeed
        | cons c rest' => exact ⟨rest', by simpa using hfeed⟩
      simp [splitSourceLines] at hlines
    rcases i with _ | i
    · simp [IsSourceLineStart, hfeed]
    · simp [IsSourceLineStart]
  · rcases i with _ | i
    · simp [IsSourceLineStart]
    · simp [IsSourceLineStart]

/-- In front of the first line's ending no line starts. -/
theorem isSourceLineStart_cons_iff {c : Char} (hc : endsSourceLine c = false) (rest : List Char) (i : Nat) :
    IsSourceLineStart (c :: rest) (i + 1) ↔ 0 < i ∧ IsSourceLineStart rest i := by
  rw [endsSourceLine, Bool.or_eq_false_iff, beq_eq_false_iff_ne, beq_eq_false_iff_ne] at hc
  cases i with
  | zero => simp [IsSourceLineStart, hc]
  | succ i => simp [IsSourceLineStart]

/-- Behind the first one, the starts are those that the text says. -/
theorem mem_tail_starts_iff (pos : Nat) {text : List Char} {p : Nat} :
    p ∈ ((withStarts pos (splitSourceLines text)).map (·.1)).tail ↔
      ∃ i, p = pos + (i + 1) ∧ IsSourceLineStart text (i + 1) := by
  induction text using splitSourceLines_induction generalizing pos with
  | nil => simp [splitSourceLines, withStarts, IsSourceLineStart]
  | ending e he rest hlines ih =>
      have hne := (lineContent_of_mem_lineEndings he).2
      have hpos := List.length_pos_iff.mpr hne
      have hhead : (withStarts (pos + e.length) (splitSourceLines rest)).map (·.1) =
          (pos + e.length) :: ((withStarts (pos + e.length) (splitSourceLines rest)).map (·.1)).tail := by
        obtain ⟨line, lines, hrest⟩ := List.exists_cons_of_ne_nil (splitSourceLines_ne_nil rest)
        rw [hrest]
        rfl
      rw [hlines, withStarts, List.map_cons, List.tail_cons, hhead, List.mem_cons, ih]
      simp only [isSourceLineStart_ending_iff he hlines]
      constructor
      · rintro (rfl | ⟨i, rfl, hi⟩)
        · refine ⟨e.length - 1, by omega, by omega, ?_⟩
          rw [Nat.sub_add_cancel hpos, Nat.sub_self]
          trivial
        · refine ⟨e.length + i, by omega, by omega, ?_⟩
          rwa [Nat.add_assoc, Nat.add_sub_cancel_left]
      · rintro ⟨i, rfl, hle, hi⟩
        rcases hle.eq_or_lt with heq | hlt
        · left
          rw [heq]
        · right
          refine ⟨i - e.length, by omega, ?_⟩
          rwa [← Nat.sub_add_comm (by omega)]
  | other c rest line lines hc hrest hlines ih =>
      have htail : ((withStarts pos (splitSourceLines (c :: rest))).map (·.1)).tail =
          ((withStarts (pos + 1) (splitSourceLines rest)).map (·.1)).tail := by
        rw [hlines, hrest, withStarts, withStarts, List.map_cons, List.map_cons, List.tail_cons, List.tail_cons,
          List.length_cons]
        congr 2
        omega
      rw [htail, ih]
      simp only [isSourceLineStart_cons_iff hc]
      constructor
      · rintro ⟨i, rfl, hi⟩
        exact ⟨i + 1, by omega, by omega, hi⟩
      · rintro ⟨i, rfl, hpos, hi⟩
        obtain ⟨j, rfl⟩ := Nat.exists_eq_add_one.mpr hpos
        exact ⟨j, by omega, hi⟩

/-- A line starts behind the start of the one before it. -/
theorem starts_pairwise_lt (text : List Char) :
    ((withStarts 0 (splitSourceLines text)).map (·.1)).Pairwise (· < ·) := by
  rw [List.pairwise_map, List.pairwise_iff_getElem]
  intro l l' hl hl' hlt
  obtain ⟨⟨start, cs⟩, hline⟩ : ∃ line, (withStarts 0 (splitSourceLines text))[l] = line := ⟨_, rfl⟩
  obtain ⟨⟨start', cs'⟩, hline'⟩ : ∃ line, (withStarts 0 (splitSourceLines text))[l'] = line := ⟨_, rfl⟩
  rw [hline, hline']
  have hget := List.getElem?_eq_some_iff.mpr ⟨hl, hline⟩
  have hget' := List.getElem?_eq_some_iff.mpr ⟨hl', hline'⟩
  have hbehind := start_add_length_le_start hget hget' hlt
  -- a line that another one follows has at least its ending
  have hpos : 0 < cs.length := by
    rw [getElem?_withStarts, Option.map_eq_some_iff] at hget hget'
    obtain ⟨_, hcs, heq⟩ := hget
    obtain ⟨_, hcs', -⟩ := hget'
    obtain ⟨-, rfl⟩ := Prod.mk.inj heq
    have hnext := (List.getElem?_eq_some_iff.mp hcs').1
    exact Nat.zero_lt_of_lt (length_lineContent_lt hcs (List.getElem?_eq_getElem (Nat.lt_of_le_of_lt hlt hnext)))
  show start < start'
  omega

/-- The table holds the positions at which lines start. -/
theorem starts_eq_sourceLineStarts (text : List Char) :
    (withStarts 0 (splitSourceLines text)).map (·.1) = sourceLineStarts text := by
  refine List.Pairwise.eq_of_mem_iff (starts_pairwise_lt text) (List.pairwise_lt_range.filter _) ?_
  intro p
  rw [mem_sourceLineStarts]
  obtain ⟨line, lines, hlines⟩ := List.exists_cons_of_ne_nil (splitSourceLines_ne_nil text)
  have htail := @mem_tail_starts_iff 0 text p
  rw [hlines, withStarts, List.map_cons, List.tail_cons] at htail
  rw [hlines, withStarts, List.map_cons, List.mem_cons, htail]
  cases p with
  | zero => simp [IsSourceLineStart]
  | succ i => simp

/-- The characters of a line with its ending, that is from its start to the start of the next one. -/
def sourceLine (text : List Char) (l : Nat) : List Char :=
  text.extract ((sourceLineStarts text)[l]?.getD text.length) ((sourceLineStarts text)[l + 1]?.getD text.length)

/-- The table holds each line with its start. -/
theorem getElem?_lines (text : List Char) (l : Nat) :
    (SourceLines.ofChars text).lines[l]? = (sourceLineStarts text)[l]?.map fun start => (start, sourceLine text l) := by
  have hstarts : ∀ i : Nat, (sourceLineStarts text)[i]? = (withStarts 0 (splitSourceLines text))[i]?.map (·.1) := by
    intro i
    rw [← starts_eq_sourceLineStarts, List.getElem?_map]
  rw [SourceLines.getElem?_lines_ofChars]
  rcases hline : (withStarts 0 (splitSourceLines text))[l]? with _ | ⟨start, cs⟩
  · rw [hstarts, hline]
    rfl
  · have hstart : (sourceLineStarts text)[l]? = some start := by
      rw [hstarts, hline]
      rfl
    have hcs := hline
    rw [getElem?_withStarts, Option.map_eq_some_iff] at hcs
    obtain ⟨cs, hcs, heq⟩ := hcs
    obtain ⟨hfront, rfl⟩ := Prod.mk.inj heq
    rw [Nat.zero_add] at hfront
    have htext := flatten_take_append hcs
    have hdrop : text.drop start = cs ++ ((splitSourceLines text).drop (l + 1)).flatten := by
      conv_lhs => rw [← htext]
      rw [← hfront, List.drop_left]
    have hstop : (sourceLineStarts text)[l + 1]?.getD text.length = start + cs.length := by
      rw [hstarts]
      rcases hnext : (withStarts 0 (splitSourceLines text))[l + 1]? with _ | ⟨next, cs'⟩
      · -- behind the last line there is no more of the text
        have hlast : (splitSourceLines text).length ≤ l + 1 := by
          rwa [getElem?_withStarts, Option.map_eq_none_iff, List.getElem?_eq_none_iff] at hnext
        have hlength := congrArg List.length htext
        rw [List.drop_of_length_le hlast, List.flatten_nil, List.append_nil, List.length_append, hfront] at hlength
        exact hlength.symm
      · exact start_succ_eq hline hnext
    rw [hstart, Option.map_some, sourceLine, hstart, hstop, Option.getD_some, List.extract_eq_take_drop,
      Nat.add_sub_cancel_left, hdrop, List.take_left]

/-! ## Positions of places

A line that there is gives its start and the characters of it that fit into the column, and a line behind the last one
gives the end of the text. Later places have no earlier positions. So no position is behind the end, since there is
always a line that is far enough behind. -/

namespace SourceLines

variable {text : List Char}

/-- The position of a place on a line that there is, by where its line starts. -/
theorem offset_of_start {l start : Nat} (h : (sourceLineStarts text)[l]? = some start) (column : Nat) :
    (ofChars text).offset ((l : Int) + 1) column = start + charsWithin column (sourceLine text l) := by
  apply offset_eq
  rw [getElem?_lines, h, Option.map_some]

/-- A line behind the last one stands at the end of the text, whatever the column is. -/
theorem offset_of_length_lt {line : Nat} (h : (sourceLineStarts text).length < line) (column : Nat) :
    (ofChars text).offset line column = text.length := by
  obtain ⟨l, rfl⟩ : ∃ l, line = l + 1 := Nat.exists_eq_add_one.mpr (by omega)
  have hline : (ofChars text).lines[l]? = none := by
    rw [getElem?_lines, Option.map_eq_none_iff, List.getElem?_eq_none_iff]
    omega
  push_cast
  rw [offset_of_none hline]
  rfl

/-- No place is behind the text. -/
theorem offset_le_length (text : List Char) (line column : Nat) : (ofChars text).offset line column ≤ text.length := by
  have hbehind : (sourceLineStarts text).length < max line (sourceLineStarts text).length + 1 := by omega
  rw [← offset_of_length_lt hbehind column]
  exact offset_mono text (Or.inl (by omega))

end SourceLines

open SourceLines

/-- A place given by a line and a column in bytes is looked up by rounding down. Line zero is the start of the text,
and lines behind the last one are its end. On each line that there is, the position is the start of the line and as
many characters as have an encoding within the column; a decoder makes just these characters of the bytes in front of
the column, so that no character is split, and a column that is the size of some first characters leads back to them.
No position is behind the end of the text, and a later place has no earlier position. -/
theorem offset_rounds_down (text : List Char) :
    (∀ column : Nat, (ofChars text).offset 0 column = 0) ∧
    (∀ line column : Nat, (sourceLineStarts text).length < line →
      (ofChars text).offset line column = text.length) ∧
    (∀ l start : Nat, (sourceLineStarts text)[l]? = some start →
      (∀ column : Nat, ∃ k, IsFloor (sourceLine text l) column k ∧
        (ofChars text).offset ((l : Int) + 1) column = start + k ∧
        ∃ cut, Utf8.run 0 0 ((Utf8.encode (sourceLine text l)).take column) = .ok ((sourceLine text l).take k, cut)) ∧
      ∀ k ≤ (sourceLine text l).length,
        (ofChars text).offset ((l : Int) + 1) (Utf8.encode ((sourceLine text l).take k)).length = start + k) ∧
    (∀ line column : Nat, (ofChars text).offset line column ≤ text.length) ∧
    ∀ line column line' column' : Nat, line < line' ∨ line = line' ∧ column ≤ column' →
      (ofChars text).offset line column ≤ (ofChars text).offset line' column' := by
  refine ⟨fun _ => rfl, fun line column h => offset_of_length_lt h column, ?_, offset_le_length text,
    fun line column line' column' h => offset_mono text h⟩
  intro l start hstart
  constructor
  · intro column
    exact ⟨charsWithin column (sourceLine text l), isFloor_charsWithin _ column, offset_of_start hstart column,
      run_take_encode _ column⟩
  · intro k hk
    rw [offset_of_start hstart, length_encode, charsWithin_utf8Length_take hk]

/-- A column within the four bytes of a character counts for the position in front of it. -/
theorem column_within_character_rounds_down :
    (sourceLineStarts ['é', '\r', '\n', '🎉', 'a']).length < 3 ∧
    (ofChars ['é', '\r', '\n', '🎉', 'a']).offset 3 0 = 5 ∧
    (sourceLineStarts ['é', '\r', '\n', '🎉', 'a'])[1]? = some 3 ∧
    (∃ k, IsFloor (sourceLine ['é', '\r', '\n', '🎉', 'a'] 1) 3 k ∧
      (ofChars ['é', '\r', '\n', '🎉', 'a']).offset 2 3 = 3 + k ∧
      ∃ cut, Utf8.run 0 0 ((Utf8.encode (sourceLine ['é', '\r', '\n', '🎉', 'a'] 1)).take 3) =
        .ok ((sourceLine ['é', '\r', '\n', '🎉', 'a'] 1).take k, cut)) ∧
    (ofChars ['é', '\r', '\n', '🎉', 'a']).offset 2 (Utf8.encode ['🎉']).length = 4 ∧
    (ofChars ['é', '\r', '\n', '🎉', 'a']).offset 1 9 ≤ (ofChars ['é', '\r', '\n', '🎉', 'a']).offset 2 3 := by
  obtain ⟨-, hbehind, hline, -, hmono⟩ := offset_rounds_down ['é', '\r', '\n', '🎉', 'a']
  obtain ⟨hcolumn, htake⟩ := hline 1 3 (by decide)
  exact ⟨by decide, hbehind 3 0 (by decide), by decide, hcolumn 3, htake 1 (by decide),
    hmono 1 9 2 3 (Or.inl (by decide))⟩

end BodyLength
