import BodyLength.Proofs.Text.Lines
import Mathlib.Data.Int.ConditionallyCompleteOrder
import Mathlib.Data.List.Sort
import Mathlib.Data.Set.Card

/-!
# Line endings and positions

A line map is made by one pass over a text, which takes the longest ending wherever one begins, and a position is looked
up by going through the starts of the lines. What comes out is said here by the text alone. `IsLineEnding` says from
where to where an ending reaches, without a pass, and the line of a position is the number of endings up to it.

* `mem_breakEnds_iff`, `exists_isLineEnding_iff`: the pass finds the endings that there are.
* `ncard_isLineEnding`: counting endings is counting what the pass finds.
* `LineMap.lineAt_eq_countP`, `LineMap.exists_start_lineAt`: the look-up counts the endings up to a position, and the
  line that it gives holds the position.
* `position_counts_lines`: both together, for every text and every offset.
-/

namespace BodyLength

/-! ## Line endings

An ending is told by where it starts and where it stops. Each stop belongs to one start, because the only endings of
two characters are the pairs, and the second character of a pair is no ending by itself. So endings can be counted by
their stops, and the stops are what the pass over the text collects. -/

/-- Does a line ending of a text reach from a position to another one? A carriage return and a line feed behind it are
one ending, each of the two is an ending where it stands alone, and so is a separator. -/
inductive IsLineEnding (text : List Char) (start : Nat) : Nat → Prop
  | pair (hreturn : text[start]? = some '\r') (hfeed : text[start + 1]? = some '\n') :
    IsLineEnding text start (start + 2)
  | loneReturn (hreturn : text[start]? = some '\r') (hfeed : text[start + 1]? ≠ some '\n') :
    IsLineEnding text start (start + 1)
  | loneFeed (hfeed : text[start]? = some '\n') (hreturn : ∀ before, before + 1 = start → text[before]? ≠ some '\r') :
    IsLineEnding text start (start + 1)
  | separator (c : Char) (hc : isSeparator c) (hstart : text[start]? = some c) : IsLineEnding text start (start + 1)

/-- Is the character at an index the last one of a line ending? A carriage return is not where a line feed follows. -/
def IsLastOfEnding (text : List Char) (i : Nat) : Prop :=
  ∃ c, text[i]? = some c ∧ isLineBreak c ∧ ¬(c = '\r' ∧ text[i + 1]? = some '\n')

/-- Whether an ending is over at a character is not up to what stands in front. -/
theorem isLastOfEnding_cons_succ {c : Char} {rest : List Char} {i : Nat} :
    IsLastOfEnding (c :: rest) (i + 1) ↔ IsLastOfEnding rest i := by
  simp [IsLastOfEnding]

/-- An ending is over at a character that ends lines, unless it is the first of a pair. -/
theorem isLastOfEnding_cons_zero {c : Char} {rest : List Char} :
    IsLastOfEnding (c :: rest) 0 ↔ isLineBreak c ∧ ¬(c = '\r' ∧ rest[0]? = some '\n') := by
  simp [IsLastOfEnding]

/-- The ends of lines are the positions behind the last characters of endings. -/
theorem mem_breakEnds_iff {pos stop : Nat} {text : List Char} :
    stop ∈ breakEnds pos text ↔ ∃ i, stop = pos + i + 1 ∧ IsLastOfEnding text i := by
  fun_induction breakEnds pos text with
  | case1 => simp [IsLastOfEnding]
  | case2 pos rest ih =>
      have hfirst : ¬IsLastOfEnding ('\r' :: '\n' :: rest) 0 := by simp [isLastOfEnding_cons_zero]
      have hsecond : IsLastOfEnding ('\n' :: rest) 0 := by simp [isLastOfEnding_cons_zero, isLineBreak]
      rw [← Nat.or_exists_add_one, ← Nat.or_exists_add_one, List.mem_cons, ih]
      simp only [isLastOfEnding_cons_succ, hfirst, hsecond, and_false, and_true, false_or]
      grind
  | case3 pos c rest hpair hbreak ih =>
      have hlast : IsLastOfEnding (c :: rest) 0 := by
        refine isLastOfEnding_cons_zero.mpr ⟨hbreak, ?_⟩
        rintro ⟨rfl, hfeed⟩
        obtain ⟨rest', rfl⟩ : ∃ rest', rest = '\n' :: rest' := by
          cases rest with
          | nil => simp at hfeed
          | cons d rest' => exact ⟨rest', by simpa using hfeed⟩
        exact hpair rest' rfl rfl
      rw [← Nat.or_exists_add_one, List.mem_cons, ih]
      simp only [isLastOfEnding_cons_succ, hlast, and_true]
      grind
  | case4 pos c rest hpair hbreak ih =>
      have hnot : ¬IsLastOfEnding (c :: rest) 0 := by simp [isLastOfEnding_cons_zero, hbreak]
      rw [← Nat.or_exists_add_one, ih]
      simp only [isLastOfEnding_cons_succ, hnot, and_false, false_or]
      grind

/-- No line ends behind the text. -/
theorem le_length_of_mem_breakEnds {stop : Nat} {text : List Char} (h : stop ∈ breakEnds 0 text) :
    stop ≤ text.length := by
  obtain ⟨i, rfl, c, hc, -⟩ := mem_breakEnds_iff.mp h
  have := (List.getElem?_eq_some_iff.mp hc).1
  omega

/-- An ending ends where its last character does. -/
theorem exists_isLineEnding_iff {text : List Char} {stop : Nat} :
    (∃ start, IsLineEnding text start stop) ↔ ∃ i, stop = i + 1 ∧ IsLastOfEnding text i := by
  constructor
  · rintro ⟨start, h⟩
    cases h with
    | pair hreturn hfeed => exact ⟨start + 1, rfl, '\n', hfeed, by decide, fun h => absurd h.1 (by decide)⟩
    | loneReturn hreturn hfeed => exact ⟨start, rfl, '\r', hreturn, by decide, fun h => hfeed h.2⟩
    | loneFeed hfeed hreturn => exact ⟨start, rfl, '\n', hfeed, by decide, fun h => absurd h.1 (by decide)⟩
    | separator c hc hstart =>
        refine ⟨start, rfl, c, hstart, by simp [isLineBreak_eq, hc], ?_⟩
        rintro ⟨rfl, -⟩
        exact absurd hc (by decide)
  · rintro ⟨i, rfl, c, hi, hbreak, hpair⟩
    simp only [isLineBreak_eq, endsSourceLine, Bool.or_eq_true, beq_iff_eq] at hbreak
    rcases hbreak with (rfl | rfl) | hc
    · exact ⟨i, .loneReturn hi fun hfeed => hpair ⟨rfl, hfeed⟩⟩
    · -- the line feed stands alone or closes a pair
      by_cases hreturn : ∃ before, before + 1 = i ∧ text[before]? = some '\r'
      · obtain ⟨before, rfl, hreturn⟩ := hreturn
        exact ⟨before, .pair hreturn hi⟩
      · exact ⟨i, .loneFeed hi fun before hbefore h => hreturn ⟨before, hbefore, h⟩⟩
    · exact ⟨i, .separator c hc hi⟩

/-- An ending is a pair, or a single character that is not the second one of a pair. -/
theorem IsLineEnding.stop_eq {text : List Char} {start stop : Nat} (h : IsLineEnding text start stop) :
    (stop = start + 2 ∧ text[start]? = some '\r' ∧ text[start + 1]? = some '\n') ∨
      (stop = start + 1 ∧
        ∀ before, before + 1 = start → text[before]? = some '\r' → text[start]? ≠ some '\n') := by
  cases h with
  | pair hreturn hfeed => exact Or.inl ⟨rfl, hreturn, hfeed⟩
  | loneReturn hreturn hfeed => exact Or.inr ⟨rfl, fun _ _ _ => by simp [hreturn]⟩
  | loneFeed hfeed hreturn => exact Or.inr ⟨rfl, fun before hbefore h => absurd h (hreturn before hbefore)⟩
  | separator c hc hstart =>
      refine Or.inr ⟨rfl, fun _ _ _ => ?_⟩
      rw [hstart]
      rintro ⟨⟩
      exact absurd hc (by decide)

/-- No two endings end at the same position. -/
theorem IsLineEnding.start_eq {text : List Char} {start start' stop : Nat} (h : IsLineEnding text start stop)
    (h' : IsLineEnding text start' stop) : start = start' := by
  rcases h.stop_eq with ⟨hstop, hreturn, hfeed⟩ | ⟨hstop, hsingle⟩ <;>
    rcases h'.stop_eq with ⟨hstop', hreturn', hfeed'⟩ | ⟨hstop', hsingle'⟩
  · omega
  · obtain rfl : start' = start + 1 := by omega
    exact absurd hfeed (hsingle' start rfl hreturn)
  · obtain rfl : start = start' + 1 := by omega
    exact absurd hfeed' (hsingle start' rfl hreturn')
  · omega

/-- Counting the endings with a property of their ends is counting the ends. -/
theorem ncard_isLineEnding (text : List Char) (p : Nat → Bool) :
    {e : Nat × Nat | IsLineEnding text e.1 e.2 ∧ p e.2}.ncard = (breakEnds 0 text).countP p := by
  have hinj : Set.InjOn Prod.snd {e : Nat × Nat | IsLineEnding text e.1 e.2 ∧ p e.2} := by
    rintro ⟨start, stop⟩ ⟨h, -⟩ ⟨start', stop'⟩ ⟨h', -⟩ (rfl : stop = stop')
    exact Prod.ext (h.start_eq h') rfl
  have himage : Prod.snd '' {e : Nat × Nat | IsLineEnding text e.1 e.2 ∧ p e.2} =
      ((breakEnds 0 text).filter p).toFinset := by
    ext stop
    simp only [Set.mem_image, Set.mem_ofPred_eq, Prod.exists, exists_eq_right, List.coe_toFinset, List.mem_filter,
      mem_breakEnds_iff, Nat.zero_add, ← exists_isLineEnding_iff]
    constructor
    · rintro ⟨start, h, hp⟩
      exact ⟨⟨start, h⟩, hp⟩
    · rintro ⟨⟨start, h⟩, hp⟩
      exact ⟨start, h, hp⟩
  have hnodup : (breakEnds 0 text).Nodup := (breakEnds_pairwise_lt 0 text).imp Nat.ne_of_lt
  rw [← hinj.ncard_image, himage, Set.ncard_coe_finset, List.toFinset_card_of_nodup (hnodup.filter _),
    List.countP_eq_length_filter]

/-! ## Positions

The starts of lines are zero and the stops of endings, in strict order. Looking a position up means to count the starts
that are not behind it, and the last one of these is the start of its line. An offset outside of the text counts for
the nearest end of the text, and all else follows from that. -/

namespace LineMap

/-- What follows the longest beginning with a property does not have it. -/
theorem eq_false_of_getElem?_length_takeWhile {p : Nat → Bool} {xs : List Nat} {x : Nat}
    (h : xs[(xs.takeWhile p).length]? = some x) : p x = false := by
  induction xs with
  | nil => simp at h
  | cons y xs ih =>
      cases hy : p y with
      | false =>
          rw [List.takeWhile_cons_of_neg (by simp [hy]), List.length_nil, List.getElem?_cons_zero] at h
          rwa [← Option.some.inj h]
      | true =>
          rw [List.takeWhile_cons_of_pos hy, List.length_cons, List.getElem?_cons_succ] at h
          exact ih h

/-- In an increasing list the numbers up to one of them are those in front. -/
theorem length_takeWhile_eq_countP {xs : List Nat} (h : xs.Pairwise (· < ·)) (pos : Nat) :
    (xs.takeWhile (· ≤ pos)).length = xs.countP (· ≤ pos) := by
  induction h with
  | nil => rfl
  | @cons x xs hx _ ih =>
      by_cases hle : x ≤ pos
      · simp [hle, ih]
      · have hnone : xs.countP (· ≤ pos) = 0 := by
          rw [List.countP_eq_zero]
          intro y hy
          have := hx y hy
          simp
          omega
        simp [hle, hnone]

/-- The line of a position is the number of lines that end before it or at it. -/
theorem lineAt_eq_countP (text : List Char) (pos : Nat) :
    (ofChars text).lineAt pos = (breakEnds 0 text).countP (· ≤ pos) := by
  rw [lineAt, ofChars, List.takeWhile_cons_of_pos (by simp), List.length_cons, Nat.add_sub_cancel,
    length_takeWhile_eq_countP (breakEnds_pairwise_lt 0 text)]

/-- The line of a position starts before it or at it, and the next line starts behind it. -/
theorem exists_start_lineAt (text : List Char) (pos : Nat) :
    ∃ start, (ofChars text).lineStarts[(ofChars text).lineAt pos]? = some start ∧ start ≤ pos ∧
      ∀ next, (ofChars text).lineStarts[(ofChars text).lineAt pos + 1]? = some next → pos < next := by
  have hline : (ofChars text).lineAt pos + 1 = ((ofChars text).lineStarts.takeWhile (· ≤ pos)).length := by
    simp [lineAt, ofChars]
  have hlt : (ofChars text).lineAt pos < ((ofChars text).lineStarts.takeWhile (· ≤ pos)).length := by omega
  refine ⟨((ofChars text).lineStarts.takeWhile (· ≤ pos))[(ofChars text).lineAt pos], ?_, ?_, ?_⟩
  · rw [List.IsPrefix.getElem (List.takeWhile_prefix _) hlt, List.getElem?_eq_getElem]
  · simpa using List.mem_takeWhile_imp (List.getElem_mem hlt)
  · intro next hnext
    rw [hline] at hnext
    simpa using eq_false_of_getElem?_length_takeWhile hnext

/-- Of the starts that are not behind a position the start of its line is the last one. -/
theorem le_start_of_mem {m : LineMap} {line start pos other : Nat} (hsorted : m.lineStarts.Pairwise (· < ·))
    (hstart : m.lineStarts[line]? = some start) (hnext : ∀ next, m.lineStarts[line + 1]? = some next → pos < next)
    (hother : other ∈ m.lineStarts) (hle : other ≤ pos) : other ≤ start := by
  obtain ⟨i, hi⟩ := List.mem_iff_getElem?.mp hother
  obtain ⟨hlt, rfl⟩ := List.getElem?_eq_some_iff.mp hi
  obtain ⟨hline, rfl⟩ := List.getElem?_eq_some_iff.mp hstart
  have hsorted := hsorted.sortedLT
  rcases Nat.lt_or_ge line i with hi | hi
  · -- the next line starts no later than there, and behind the position
    have hline' : line + 1 < m.lineStarts.length := Nat.lt_of_le_of_lt hi hlt
    have hbehind : pos < m.lineStarts[line + 1] := hnext _ (List.getElem?_eq_getElem hline')
    have hstep : m.lineStarts[line + 1] ≤ m.lineStarts[i] := hsorted.getElem_le_getElem_iff.mpr hi
    omega
  · exact hsorted.getElem_le_getElem_iff.mpr hi

/-- The offset is looked up at the nearest position that there is in the text. -/
theorem natCast_clamp (m : LineMap) (offset : Int) : (m.clamp offset : Int) = max 0 (min offset m.length) := by
  rw [clamp, Int.toNat_eq_max, max_comm]

/-- Offsets outside of the text are taken to its nearest end, which keeps their order. -/
theorem clamp_mono (m : LineMap) : Monotone m.clamp := by
  intro offset offset' h
  unfold clamp
  omega

/-- The line of an offset is the number of endings up to it. -/
theorem lineOf_eq_countP (text : List Char) (offset : Int) :
    (ofChars text).lineOf offset = (breakEnds 0 text).countP (· ≤ (ofChars text).clamp offset) :=
  lineAt_eq_countP text _

/-- Later offsets are on later lines, or on the same. -/
theorem lineOf_mono (text : List Char) : Monotone (ofChars text).lineOf := by
  intro offset offset' h
  rw [lineOf_eq_countP, lineOf_eq_countP]
  apply List.countP_mono_left
  intro stop _ hstop
  have := clamp_mono (ofChars text) h
  simp only [decide_eq_true_eq] at hstop ⊢
  omega

/-- The numbers up to a bound are those up to a smaller one and those between the two. -/
theorem countP_le_eq_add {low high : Nat} (h : low ≤ high) (xs : List Nat) :
    xs.countP (· ≤ high) = xs.countP (· ≤ low) + xs.countP fun x => decide (low < x ∧ x ≤ high) := by
  induction xs with
  | nil => rfl
  | cons x xs ih =>
      simp only [List.countP_cons, ih, decide_eq_true_eq]
      split_ifs <;> omega

/-- A step further there is one line more if a line ends there. -/
theorem countP_breakEnds_succ (text : List Char) (pos : Nat) :
    (breakEnds 0 text).countP (· ≤ pos + 1) =
      (breakEnds 0 text).countP (· ≤ pos) + if pos + 1 ∈ breakEnds 0 text then 1 else 0 := by
  have hnodup : (breakEnds 0 text).Nodup := (breakEnds_pairwise_lt 0 text).imp Nat.ne_of_lt
  have hbetween : (breakEnds 0 text).countP (fun x => decide (pos < x ∧ x ≤ pos + 1)) =
      (breakEnds 0 text).count (pos + 1) := by
    apply List.countP_congr
    intro x _
    simp only [decide_eq_true_eq, beq_iff_eq]
    omega
  rw [countP_le_eq_add (Nat.le_succ pos), hbetween, hnodup.count]

/-- Within a pair the line is the one that the pair ends, and behind it the next one. -/
theorem lineOf_pair {text : List Char} {start : Nat} (h : IsLineEnding text start (start + 2)) :
    (ofChars text).lineOf (start + 1 : Nat) = (ofChars text).lineOf start ∧
      (ofChars text).lineOf (start + 2 : Nat) = (ofChars text).lineOf start + 1 := by
  have hpair := h.stop_eq.resolve_right fun hsingle => by omega
  have hlength : start + 1 < text.length := (List.getElem?_eq_some_iff.mp hpair.2.2).1
  have hclamp : ∀ pos : Nat, pos ≤ text.length → (ofChars text).clamp pos = pos := by
    intro pos hpos
    simp only [clamp, ofChars]
    omega
  have hwithin : start + 1 ∉ breakEnds 0 text := by
    rw [mem_breakEnds_iff]
    rintro ⟨i, hi, c, hc, -, hnot⟩
    obtain rfl : i = start := by omega
    exact hnot ⟨Option.some.inj (hc.symm.trans hpair.2.1), hpair.2.2⟩
  have hbehind : start + 2 ∈ breakEnds 0 text := by
    obtain ⟨i, hi, hlast⟩ := exists_isLineEnding_iff.mp ⟨start, h⟩
    exact mem_breakEnds_iff.mpr ⟨i, by omega, hlast⟩
  rw [lineOf_eq_countP, lineOf_eq_countP, lineOf_eq_countP, hclamp _ (by omega), hclamp _ (by omega),
    hclamp _ (by omega), countP_breakEnds_succ text (start + 1), if_pos hbehind, countP_breakEnds_succ text start,
    if_neg hwithin]
  exact ⟨rfl, rfl⟩

end LineMap

/-! ## The look-up -/

/-- **An offset is looked up to be on the line that it is on.** It is first moved to the nearest position of the text.
The line found has begun by then and ended no earlier than behind it, the column is what is left of the position after
the start of the line, and the number of the line is that of the endings up to the position. A pair counts once it is
over. The starts of lines are increasing, from zero on, and one more than the endings. -/
theorem position_counts_lines (text : String) :
    (∀ offset : Int, ∃ line column start,
      (LineMap.ofText text).position offset = (line, column) ∧
      line < (LineMap.ofText text).lineCount ∧
      (LineMap.ofText text).lineStarts[line]? = some start ∧
      ((start + column : Nat) : Int) = max 0 (min offset text.length) ∧
      (∀ next, (LineMap.ofText text).lineStarts[line + 1]? = some next → max 0 (min offset text.length) < next) ∧
      line = {e : Nat × Nat |
        IsLineEnding text.toList e.1 e.2 ∧ (e.2 : Int) ≤ max 0 (min offset text.length)}.ncard) ∧
    (∀ start : Nat, IsLineEnding text.toList start (start + 2) →
      (LineMap.ofText text).lineOf (start + 1 : Nat) = (LineMap.ofText text).lineOf start ∧
      (LineMap.ofText text).lineOf (start + 2 : Nat) = (LineMap.ofText text).lineOf start + 1) ∧
    (LineMap.ofText text).lineStarts.Pairwise (· < ·) ∧
    (LineMap.ofText text).lineStarts.head? = some 0 ∧
    (LineMap.ofText text).lineStarts.length = {e : Nat × Nat | IsLineEnding text.toList e.1 e.2}.ncard + 1 ∧
    Monotone (LineMap.ofText text).lineOf := by
  simp only [LineMap.ofText, ← String.length_toList]
  generalize text.toList = text
  refine ⟨fun offset => ?_, fun start h => LineMap.lineOf_pair h, LineMap.lineStarts_pairwise_lt text, rfl, ?_,
    LineMap.lineOf_mono text⟩
  · have hclamp : ((LineMap.ofChars text).clamp offset : Int) = max 0 (min offset text.length) :=
      LineMap.natCast_clamp _ offset
    obtain ⟨start, hstart, hle, hnext⟩ := LineMap.exists_start_lineAt text ((LineMap.ofChars text).clamp offset)
    simp only [← hclamp, Nat.cast_inj, Nat.cast_lt, Nat.cast_le]
    refine ⟨_, _, start, rfl, ?_, hstart, ?_, hnext, ?_⟩
    · exact (List.getElem?_eq_some_iff.mp hstart).1
    · rw [List.getD_eq_getElem?_getD, hstart, Option.getD_some, Nat.add_sub_cancel' hle]
    · rw [LineMap.lineAt_eq_countP, ← ncard_isLineEnding]
      simp only [decide_eq_true_eq]
  · have hcount := ncard_isLineEnding text (fun _ => true)
    simp only [and_true] at hcount
    rw [hcount, List.countP_true]
    rfl

/-- The line feed of a pair is still on the line that the pair ends. -/
theorem pairedEnding_lines :
    IsLineEnding "a\r\nb".toList 1 3 ∧
      (LineMap.ofText "a\r\nb").lineOf (2 : Nat) = (LineMap.ofText "a\r\nb").lineOf (1 : Nat) ∧
      (LineMap.ofText "a\r\nb").lineOf (3 : Nat) = (LineMap.ofText "a\r\nb").lineOf (1 : Nat) + 1 :=
  ⟨.pair rfl rfl, (position_counts_lines "a\r\nb").2.1 1 (.pair rfl rfl)⟩

end BodyLength
