import BodyLength.Proofs.Text.LineEndings

/-!
# Line feeds and other line endings

One and the same text may be kept with line feeds, with pairs or with carriage returns. `withEnding` takes a text with
line feeds to one of the others, and `movedTo` says where its positions go. The text must have no carriage return of its
own: in front of a line feed it would make a pair with what is put in.

* `breakEnds_withEnding`: the ends of lines go where the positions go, and no line ends anywhere else.
* `movedTo_lt`, `movedTo_sub`: positions keep their order, and on one line their distance.
* `position_withEnding`: so each position keeps its line and its column.
* `position_withEnding_pair`, `position_withEnding_return`: where the positions go in the two cases.
-/

namespace BodyLength

/-! ## Other line endings for line feeds

What is put in for a line feed is one line ending, whatever stands around it, since the text has no carriage return of
its own. So both texts have their endings at the same characters. -/

/-- A text with another line ending for each of its line feeds. -/
def withEnding (ending : List Char) (text : List Char) : List Char :=
  text.flatMap fun c => if c = '\n' then ending else [c]

/-- The line endings that can take the place of a line feed. -/
def otherEndings : List (List Char) :=
  [['\r', '\n'], ['\r']]

section WithEnding

variable (ending : List Char)

@[simp] theorem withEnding_nil : withEnding ending [] = [] := rfl

@[simp] theorem withEnding_feed_cons (rest : List Char) :
    withEnding ending ('\n' :: rest) = ending ++ withEnding ending rest := by
  simp [withEnding]

/-- All characters but line feeds stay as they are. -/
theorem withEnding_cons_of_ne {c : Char} (h : c ≠ '\n') (rest : List Char) :
    withEnding ending (c :: rest) = c :: withEnding ending rest := by
  simp [withEnding, h]

/-- The endings of two texts are changed apart. -/
theorem withEnding_append (first second : List Char) :
    withEnding ending (first ++ second) = withEnding ending first ++ withEnding ending second :=
  List.flatMap_append

/-- A text without line feeds is left as it is. -/
theorem withEnding_eq_self {text : List Char} (h : '\n' ∉ text) : withEnding ending text = text := by
  induction text with
  | nil => rfl
  | cons c rest ih =>
      rw [List.mem_cons, not_or] at h
      rw [withEnding_cons_of_ne ending (Ne.symm h.1), ih h.2]

/-- Each line feed adds as many characters as its new ending is longer. -/
theorem length_withEnding_add_count (text : List Char) :
    (withEnding ending text).length + text.count '\n' = text.length + ending.length * text.count '\n' := by
  induction text with
  | nil => rfl
  | cons c rest ih =>
      by_cases hc : c = '\n'
      · subst hc
        rw [withEnding_feed_cons, List.length_append, List.length_cons, List.count_cons_self, Nat.mul_succ]
        omega
      · rw [withEnding_cons_of_ne ending hc, List.length_cons, List.length_cons, List.count_cons_of_ne hc]
        omega

/-- Where a position goes when the endings of the lines are replaced. -/
def movedTo (text : List Char) (pos : Nat) : Nat :=
  (withEnding ending (text.take pos)).length

end WithEnding

variable {ending : List Char}

/-- If line feeds become carriage returns then none is left. -/
theorem feed_notMem_withEnding_return (text : List Char) : '\n' ∉ withEnding ['\r'] text := by
  simp only [withEnding, List.mem_flatMap, not_exists, not_and]
  intro c _
  split
  · decide
  · next hc => simpa using Ne.symm hc

/-- A character that is no carriage return ends a line by itself or not at all. -/
theorem breakEnds_cons {c : Char} (h : c ≠ '\r') (pos : Nat) (rest : List Char) :
    breakEnds pos (c :: rest) = (if isLineBreak c then [pos + 1] else []) ++ breakEnds (pos + 1) rest := by
  rw [breakEnds]
  · split <;> rfl
  · exact fun _ hc => absurd hc h

/-- What is put in for a character ends a line where the character does. -/
theorem breakEnds_withEnding_cons (hending : ending ∈ otherEndings) {c : Char} (h : c ≠ '\r') (pos : Nat)
    (rest : List Char) :
    breakEnds pos (withEnding ending (c :: rest)) =
      (if isLineBreak c then [pos + (withEnding ending [c]).length] else []) ++
        breakEnds (pos + (withEnding ending [c]).length) (withEnding ending rest) := by
  by_cases hfeed : c = '\n'
  · subst hfeed
    simp only [withEnding_feed_cons, withEnding_nil, List.append_nil, if_pos (show isLineBreak '\n' = true by decide)]
    simp only [otherEndings, List.mem_cons, List.not_mem_nil, or_false] at hending
    rcases hending with rfl | rfl
    · rfl
    · -- no line feed is left that could make a pair with the carriage return
      rw [List.singleton_append, breakEnds, if_pos (by decide)]
      · rfl
      · exact fun rest' _ hrest => feed_notMem_withEnding_return rest (hrest ▸ List.mem_cons_self)
  · rw [withEnding_cons_of_ne ending hfeed, withEnding_cons_of_ne ending hfeed, breakEnds_cons h]
    rfl

/-! ## Positions

A position goes to the number of characters that the text in front of it is turned into. This keeps the order of
positions. Two positions on one line have no line feed between them, so they keep their distance as well, and with it
the column. -/

/-- Positions move step by step, behind a line feed as far as its other ending is long. -/
theorem movedTo_cons (c : Char) (rest : List Char) (pos : Nat) :
    movedTo ending (c :: rest) (pos + 1) = (withEnding ending [c]).length + movedTo ending rest pos := by
  rw [movedTo, movedTo, List.take_succ_cons, ← List.singleton_append, withEnding_append, List.length_append]

@[simp] theorem movedTo_zero (text : List Char) : movedTo ending text 0 = 0 := by
  simp [movedTo]

/-- The ends of the lines go where the positions go. -/
theorem breakEnds_withEnding (hending : ending ∈ otherEndings) {text : List Char} (h : '\r' ∉ text) (pos pos' : Nat) :
    breakEnds pos' (withEnding ending text) =
      (breakEnds pos text).map fun stop => pos' + movedTo ending text (stop - pos) := by
  induction text generalizing pos pos' with
  | nil => rfl
  | cons c rest ih =>
      rw [List.mem_cons, not_or] at h
      have hfirst : pos' + movedTo ending (c :: rest) (pos + 1 - pos) = pos' + (withEnding ending [c]).length := by
        rw [Nat.add_sub_cancel_left, movedTo_cons _ _ 0, movedTo_zero, Nat.add_zero]
      have hrest : (breakEnds (pos + 1) rest).map (fun stop => pos' + movedTo ending (c :: rest) (stop - pos)) =
          breakEnds (pos' + (withEnding ending [c]).length) (withEnding ending rest) := by
        rw [ih h.2 (pos + 1)]
        apply List.map_congr_left
        intro stop hstop
        have hlt := lt_of_mem_breakEnds hstop
        rw [show stop - pos = stop - (pos + 1) + 1 by omega, movedTo_cons, Nat.add_assoc]
      rw [breakEnds_withEnding_cons hending (Ne.symm h.1), breakEnds_cons (Ne.symm h.1), List.map_append, hrest]
      congr 1
      split
      · rw [List.map_singleton, hfirst]
      · rfl

/-- The lines begin where they began, at the moved positions. -/
theorem lineStarts_withEnding (hending : ending ∈ otherEndings) {text : List Char} (h : '\r' ∉ text) :
    (LineMap.ofChars (withEnding ending text)).lineStarts =
      (LineMap.ofChars text).lineStarts.map (movedTo ending text) := by
  simp only [LineMap.ofChars, List.map_cons, movedTo_zero, breakEnds_withEnding hending h 0 0, Nat.zero_add,
    Nat.sub_zero]

/-- From one position to a later one it is the characters between them that count. -/
theorem movedTo_eq_add (text : List Char) {first second : Nat} (h : first ≤ second) :
    movedTo ending text second =
      movedTo ending text first + (withEnding ending ((text.take second).drop first)).length := by
  have hsplit : text.take second = text.take first ++ (text.take second).drop first := by
    conv_lhs => rw [← List.take_append_drop first (text.take second), List.take_take, Nat.min_eq_left h]
  rw [movedTo, movedTo, ← List.length_append, ← withEnding_append, ← hsplit]

/-- A position goes on by what the line feeds before it get longer. -/
theorem movedTo_add_count {text : List Char} {pos : Nat} (hpos : pos ≤ text.length) :
    movedTo ending text pos + (text.take pos).count '\n' = pos + ending.length * (text.take pos).count '\n' := by
  have hlength := length_withEnding_add_count ending (text.take pos)
  rwa [List.length_take, Nat.min_eq_left hpos] at hlength

/-- Positions keep their order as they move. -/
theorem movedTo_mono (text : List Char) : Monotone (movedTo ending text) := by
  intro first second h
  rw [movedTo_eq_add text h]
  exact Nat.le_add_right _ _

/-- No two positions go to the same one. -/
theorem movedTo_lt (hending : ending ∈ otherEndings) {text : List Char} {first second : Nat} (h : first < second)
    (hlength : second ≤ text.length) : movedTo ending text first < movedTo ending text second := by
  rw [movedTo_eq_add text h.le]
  have hne : 1 ≤ ending.length := by
    revert ending
    decide
  have hcount := length_withEnding_add_count ending ((text.take second).drop first)
  have hbetween : ((text.take second).drop first).length = second - first := by
    rw [List.length_drop, List.length_take, Nat.min_eq_left hlength]
  have hle := Nat.mul_le_mul_right (((text.take second).drop first).count '\n') hne
  omega

/-- Without a line feed between them two positions keep their distance. -/
theorem movedTo_sub {text : List Char} {first second : Nat} (h : first ≤ second) (hlength : second ≤ text.length)
    (hfeed : '\n' ∉ (text.take second).drop first) :
    movedTo ending text second - movedTo ending text first = second - first := by
  rw [movedTo_eq_add text h, Nat.add_sub_cancel_left, withEnding_eq_self ending hfeed, List.length_drop,
    List.length_take, Nat.min_eq_left hlength]

/-- There is no line feed between the start of a line and a position on it. -/
theorem feed_notMem_of_line {text : List Char} {start pos : Nat}
    (h : ∀ stop ∈ breakEnds 0 text, stop ≤ pos → stop ≤ start) : '\n' ∉ (text.take pos).drop start := by
  intro hfeed
  obtain ⟨i, hi⟩ := List.mem_iff_getElem?.mp hfeed
  rw [List.getElem?_drop, List.getElem?_take] at hi
  split at hi
  · next hlt =>
      have hlast : IsLastOfEnding text (start + i) := ⟨'\n', hi, by decide, fun h => absurd h.1 (by decide)⟩
      have := h _ (mem_breakEnds_iff.mpr ⟨start + i, rfl, hlast⟩) (by omega)
      omega
  · cases hi

/-- Replacing the line feeds of a text moves its characters and leaves each on its line and in its column. -/
theorem position_withEnding (hending : ending ∈ otherEndings) {text : List Char} (h : '\r' ∉ text) {pos : Nat}
    (hpos : pos ≤ text.length) :
    (LineMap.ofChars (withEnding ending text)).position (movedTo ending text pos : Nat) =
      (LineMap.ofChars text).position pos := by
  obtain ⟨start, hstart, hle, hnext⟩ := LineMap.exists_start_lineAt text pos
  have hsorted := LineMap.lineStarts_pairwise_lt text
  have hfeed : '\n' ∉ (text.take pos).drop start := by
    apply feed_notMem_of_line
    intro stop hstop
    exact LineMap.le_start_of_mem hsorted hstart hnext (List.mem_cons_of_mem 0 hstop)
  rw [LineMap.position_eq hsorted hstart hle hnext hpos, ← movedTo_sub hle hpos hfeed]
  apply LineMap.position_eq (LineMap.lineStarts_pairwise_lt _)
  · rw [lineStarts_withEnding hending h, List.getElem?_map, hstart, Option.map_some]
  · exact movedTo_mono text hle
  · intro next hnext'
    rw [lineStarts_withEnding hending h, List.getElem?_map, Option.map_eq_some_iff] at hnext'
    obtain ⟨next, hnext', rfl⟩ := hnext'
    have hmem : next ∈ breakEnds 0 text := by
      rw [LineMap.ofChars, List.getElem?_cons_succ] at hnext'
      exact List.mem_of_getElem? hnext'
    have hlength := le_length_of_mem_breakEnds hmem
    exact movedTo_lt hending (hnext next hnext') hlength
  · have hle : movedTo ending text pos ≤ movedTo ending text text.length := movedTo_mono text hpos
    rwa [movedTo, movedTo, List.take_length] at hle

/-! ## Pairs and carriage returns -/

/-- A pair for each line feed moves a position on by one for each line feed before it. -/
theorem position_withEnding_pair {text : List Char} (h : '\r' ∉ text) {pos : Nat} (hpos : pos ≤ text.length) :
    (LineMap.ofChars (withEnding ['\r', '\n'] text)).position (pos + (text.take pos).count '\n' : Nat) =
      (LineMap.ofChars text).position pos := by
  have hmoved : movedTo ['\r', '\n'] text pos = pos + (text.take pos).count '\n' := by
    have hcount := @movedTo_add_count ['\r', '\n'] text pos hpos
    rw [List.length_cons, List.length_singleton] at hcount
    omega
  rw [← hmoved]
  exact position_withEnding (by decide) h hpos

/-- A carriage return for each line feed moves nothing. -/
theorem position_withEnding_return {text : List Char} (h : '\r' ∉ text) {pos : Nat} (hpos : pos ≤ text.length) :
    (LineMap.ofChars (withEnding ['\r'] text)).position pos = (LineMap.ofChars text).position pos := by
  have hmoved : movedTo ['\r'] text pos = pos := by
    have hcount := @movedTo_add_count ['\r'] text pos hpos
    rw [List.length_singleton] at hcount
    omega
  have hposition : (LineMap.ofChars (withEnding ['\r'] text)).position (movedTo ['\r'] text pos : Nat) =
      (LineMap.ofChars text).position pos := position_withEnding (by decide) h hpos
  rwa [hmoved] at hposition

end BodyLength
