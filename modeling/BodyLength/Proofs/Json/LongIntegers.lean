import BodyLength.Proofs.Json.ReadBack
import Mathlib.Data.List.Infix

/-!
# What ends the reading of a text

A text that is no JSON value is refused, and the reader says where it goes wrong. There is one thing that it neither
accepts nor refuses, an integer with too many digits. Reading such a text ends the run, even if the text is no value for
another reason as well, as long as the reader comes to the digits first.

All readers take a text from the front, so that what is left of it is an end of it. So the digits that a reader stumbles
upon stand in the whole text, in a row.

The readers of values, items and members call each other, each time with one step less. What one of them does with what
the others leave is a lemma of its own, and the induction on the steps puts the three together.

* `StaysWithin`: what is known of the outcome of any reader.
* `StaysWithin.bind`: one reader behind another.
* `staysWithin_readers`: the three readers of values.
* `exists_digits_of_ofChars`: if reading a text ends the run, then for too many digits in a row in the text.
-/

namespace BodyLength.Json

/-- Does a run end for digits of a text that stand in a row and are too many? -/
def EndsForDigits (text : List Char) (why : Abort) : Prop :=
  ∃ digits, digits <:+: text ∧ (∀ c ∈ digits, isAsciiDigit c = true) ∧ maxIntegerDigits < digits.length ∧
    why = .impossibleValue (.longInteger digits.length)

/-- What ends the run at the end of a text ends it for the whole text. -/
theorem EndsForDigits.of_suffix {rest text : List Char} (hrest : rest <:+ text) {why : Abort}
    (h : EndsForDigits rest why) : EndsForDigits text why := by
  obtain ⟨digits, hdigits, hall⟩ := h
  exact ⟨digits, hdigits.trans hrest.isInfix, hall⟩

/-- Does a reader leave an end of a text, fail, or end the run for digits of the text? -/
def StaysWithin {α : Type} (text : List Char) : Except (Fault JsonFault) (α × Cursor) → Prop
  | .ok (_, after) => after.rest <:+ text
  | .error (.error _) => True
  | .error (.abort why) => EndsForDigits text why

section Steps

variable {α β : Type} {text rest : List Char}

/-- A mistake is no reason to end the run. -/
theorem staysWithin_fail (c : Cursor) (problem : JsonProblem) :
    StaysWithin text (c.fail problem : Except (Fault JsonFault) (α × Cursor)) :=
  trivial

/-- A reader that starts at an end of a text stays within the text. -/
theorem StaysWithin.of_suffix (hrest : rest <:+ text) {outcome : Except (Fault JsonFault) (α × Cursor)}
    (h : StaysWithin rest outcome) : StaysWithin text outcome := by
  match outcome, h with
  | .ok (_, after), h => exact List.IsSuffix.trans h hrest
  | .error (.error _), _ => trivial
  | .error (.abort why), h => exact EndsForDigits.of_suffix hrest h

/-- Readers one after the other stay within a text if the second one stays within what the first one leaves. -/
theorem StaysWithin.bind {x : Except (Fault JsonFault) (α × Cursor)}
    {f : α × Cursor → Except (Fault JsonFault) (β × Cursor)} (hx : StaysWithin text x)
    (hf : ∀ a after, StaysWithin after.rest (f (a, after))) : StaysWithin text (x >>= f) := by
  match x, hx with
  | .ok (a, after), hx => exact (hf a after).of_suffix hx
  | .error (.error _), _ => trivial
  | .error (.abort why), hx => exact hx

/-- What is skipped is taken from the front. -/
theorem skip_suffix (c : Cursor) (count : Nat) : (c.skip count).rest <:+ c.rest :=
  List.drop_suffix count c.rest

/-- So are blanks. -/
theorem skipBlanks_suffix (c : Cursor) : c.skipBlanks.rest <:+ c.rest :=
  skip_suffix c _

/-- What stands behind an opening bracket and blanks is an end of the text. -/
theorem inside_suffix (c : Cursor) : (c.skip 1).skipBlanks.rest <:+ c.rest :=
  (skipBlanks_suffix _).trans (skip_suffix c 1)

/-- So is what stands behind blanks and a closing bracket. -/
theorem behind_suffix (c : Cursor) : (c.skipBlanks.skip 1).rest <:+ c.rest :=
  (skip_suffix _ 1).trans (skipBlanks_suffix c)

/-- And so is what stands behind a comma or a colon with blanks on both sides. -/
theorem next_suffix (c : Cursor) : (c.skipBlanks.skip 1).skipBlanks.rest <:+ c.rest :=
  (skipBlanks_suffix _).trans (behind_suffix c)

end Steps

/-! ## Strings -/

/-- A further character changes nothing about what is left. -/
theorem exists_of_withChar {c : Char} {x : Except JsonFault (List Char × Cursor)} {read : List Char} {after : Cursor}
    (h : withChar c x = .ok (read, after)) : ∃ cs, x = .ok (cs, after) := by
  obtain ⟨⟨cs, after'⟩, hx, heq⟩ := bind_eq_ok_iff.mp h
  cases heq
  exact ⟨cs, hx⟩

/-- Reading a string leaves an end of what stood behind its opening mark. -/
theorem rest_suffix_of_stringBody {start pos skip : Nat} {cs read : List Char} {after : Cursor}
    (h : stringBody start pos skip cs = .ok (read, after)) : after.rest <:+ cs := by
  -- the induction is on the reader: each of its steps takes some characters from the front
  fun_induction stringBody start pos skip cs generalizing read with
  | case2 pos skip c rest ih => exact (ih h).trans (List.suffix_cons c rest)
  | case3 pos c rest =>
      cases h
      exact List.suffix_cons c rest
  | case7 pos c _ _ digits decoded size _ ih =>
      obtain ⟨cs, hrest⟩ := exists_of_withChar h
      exact (ih hrest).trans (List.suffix_cons c _)
  | case9 pos c _ _ e rest _ decoded _ ih =>
      obtain ⟨cs, hrest⟩ := exists_of_withChar h
      exact (ih hrest).trans (List.suffix_cons c _)
  | case11 pos c rest _ _ _ ih =>
      obtain ⟨cs, hrest⟩ := exists_of_withChar h
      exact (ih hrest).trans (List.suffix_cons c rest)
  -- the others are mistakes, which leave nothing
  | case1 | case4 | case5 | case6 | case8 | case10 => cases h

/-- A string never ends the run: there are no integers in it. -/
theorem staysWithin_readString (c : Cursor) : StaysWithin c.rest (readString c) := by
  unfold readString
  cases h : stringBody (c.position - 1) c.position 0 c.rest with
  | error fault => exact trivial
  | ok found =>
      obtain ⟨cs, after⟩ := found
      exact rest_suffix_of_stringBody h

/-! ## Numbers -/

/-- The integer digits at the start of a text are digits, and stand there. -/
theorem integerDigits_prefix (cs : List Char) :
    integerDigits cs <+: cs ∧ ∀ c ∈ integerDigits cs, isAsciiDigit c = true := by
  unfold integerDigits
  split
  · rename_i rest
    refine ⟨⟨rest, rfl⟩, ?_⟩
    rw [List.forall_mem_singleton]
    decide
  · exact ⟨List.takeWhile_prefix _, List.all_eq_true.mp (List.all_takeWhile ..)⟩

/-- Reading an integer comes to nothing only if it has too many digits. -/
theorem staysWithin_integerOf {text digits : List Char} (hdigits : digits <:+: text)
    (hall : ∀ c ∈ digits, isAsciiDigit c = true) (negative : Bool) {after : Cursor} (hafter : after.rest <:+ text) :
    StaysWithin text ((integerOf negative digits).map fun j => (j, after)) := by
  unfold integerOf
  by_cases hlong : maxIntegerDigits < digits.length
  · rw [if_pos hlong]
    exact ⟨digits, hdigits, hall, hlong, rfl⟩
  · rw [if_neg hlong]
    exact hafter

/-- A number ends the run only if it is an integer, and then for the digits it is made of. -/
theorem staysWithin_readNumber (c : Cursor) : StaysWithin c.rest (readNumber c) := by
  unfold readNumber
  split
  rename_i negative signs cs hsign
  -- behind a sign, if there is one, the digits still stand in the text
  have hcs : cs <:+ c.rest := by
    split at hsign
    · rename_i hrest
      cases hsign
      rw [hrest]
      exact List.suffix_cons '-' _
    · cases hsign
      exact List.suffix_refl _
  obtain ⟨hbegins, hall⟩ := integerDigits_prefix cs
  simp only
  split
  · exact staysWithin_fail c _
  · split
    · exact skip_suffix c _
    · split
      · exact staysWithin_integerOf (hbegins.isInfix.trans hcs.isInfix) hall negative (skip_suffix c _)
      · exact skip_suffix c _

/-- A word does not end the run either, so a value that is no list and no object does so only as a number. -/
theorem staysWithin_readAtom (c : Cursor) : StaysWithin c.rest (readAtom c) := by
  unfold readAtom
  split
  · exact skip_suffix c _
  · exact staysWithin_readNumber c

/-! ## Values -/

section Readers

variable {steps : Nat}

/-- A value stays within the text if items and members do. -/
theorem staysWithin_readValue (hitems : ∀ c, StaysWithin c.rest (readItems steps c))
    (hmembers : ∀ c, StaysWithin c.rest (readMembers steps c)) (c : Cursor) :
    StaysWithin c.rest (readValue (steps + 1) c) := by
  rw [readValue.eq_def]
  simp only
  -- what the value is shows at its first character
  split
  · exact staysWithin_fail c _
  · apply ((staysWithin_readString (c.skip 1)).of_suffix (skip_suffix c 1)).bind
    intro s after
    exact List.suffix_refl _
  · split
    · exact (skip_suffix _ 1).trans (inside_suffix c)
    · apply ((hitems _).of_suffix (inside_suffix c)).bind
      intro items after
      exact List.suffix_refl _
  · split
    · exact (skip_suffix _ 1).trans (inside_suffix c)
    · apply ((hmembers _).of_suffix (inside_suffix c)).bind
      intro members after
      exact List.suffix_refl _
  · exact staysWithin_readAtom c

/-- Items stay within the text if a value and the items behind it do. -/
theorem staysWithin_readItems (hvalue : ∀ c, StaysWithin c.rest (readValue steps c))
    (hitems : ∀ c, StaysWithin c.rest (readItems steps c)) (c : Cursor) :
    StaysWithin c.rest (readItems (steps + 1) c) := by
  rw [readItems]
  apply (hvalue c).bind
  intro j after
  simp only
  -- behind an item stands a closing bracket, or a comma and more items
  split
  · exact behind_suffix after
  · apply ((hitems _).of_suffix (next_suffix after)).bind
    intro rest after
    exact List.suffix_refl _
  · exact staysWithin_fail _ _

/-- Members stay within the text if a value and the members behind it do. -/
theorem staysWithin_readMembers (hvalue : ∀ c, StaysWithin c.rest (readValue steps c))
    (hmembers : ∀ c, StaysWithin c.rest (readMembers steps c)) (c : Cursor) :
    StaysWithin c.rest (readMembers (steps + 1) c) := by
  rw [readMembers]
  split
  · apply ((staysWithin_readString (c.skip 1)).of_suffix (skip_suffix c 1)).bind
    intro name after
    simp only
    -- behind the name stand a colon and a value, and then a closing brace, or a comma and more members
    split
    · apply ((hvalue _).of_suffix (next_suffix after)).bind
      intro j after
      simp only
      split
      · exact behind_suffix after
      · apply ((hmembers _).of_suffix (next_suffix after)).bind
        intro rest after
        exact List.suffix_refl _
      · exact staysWithin_fail _ _
    · exact staysWithin_fail _ _
  · exact staysWithin_fail _ _

end Readers

/-- Values, items and members stay within the text, whatever the number of steps. The three readers call each other
with one step less, so the induction is on the steps, for all three at once. -/
theorem staysWithin_readers (steps : Nat) :
    (∀ c, StaysWithin c.rest (readValue steps c)) ∧ (∀ c, StaysWithin c.rest (readItems steps c)) ∧
      ∀ c, StaysWithin c.rest (readMembers steps c) := by
  induction steps with
  | zero =>
      -- without a step there is nothing but a mistake
      refine ⟨fun c => ?_, fun c => ?_, fun c => ?_⟩
      · rw [readValue]
        exact staysWithin_fail c _
      · rw [readItems]
        exact staysWithin_fail c _
      · rw [readMembers]
        exact staysWithin_fail c _
  | succ steps ih =>
      obtain ⟨hvalue, hitems, hmembers⟩ := ih
      exact ⟨staysWithin_readValue hitems hmembers, staysWithin_readItems hvalue hitems,
        staysWithin_readMembers hvalue hmembers⟩

/-- **Only digits end the run.** If reading a text as a JSON value ends the run, then the text has more digits in a row
than an integer may have, and it is for these that the run ends. -/
theorem exists_digits_of_ofChars {text : List Char} {why : Abort} (h : ofChars text = .error (.abort why)) :
    EndsForDigits text why := by
  have hdocument : readDocument text = .error (.abort why) := by
    -- the reader's own words for a mistake do not matter here
    unfold ofChars at h
    cases hread : readDocument text with
    | ok j =>
        rw [hread] at h
        cases h
    | error fault =>
        rw [hread] at h
        cases fault with
        | error fault => cases h
        | abort why' =>
            cases h
            rfl
  unfold readDocument at hdocument
  split at hdocument
  · cases hdocument
  · have hblanks : (Cursor.mk 0 text).skipBlanks.rest <:+ text := skipBlanks_suffix (Cursor.mk 0 text)
    have hvalue := ((staysWithin_readers (2 * text.length + 2)).1 _).of_suffix hblanks
    -- behind the value there can only be a mistake
    rcases bind_eq_error_iff.mp hdocument with hread | ⟨⟨j, after⟩, -, hend⟩
    · rw [hread] at hvalue
      exact hvalue
    · simp only at hend
      split at hend
      · cases hend
      · cases hend

/-! ## Digits in a row -/

/-- A text of ones. -/
def ones (count : Nat) : List Char :=
  List.replicate count '1'

/-- Too many ones in a row are no number. -/
theorem readNumber_ones {count : Nat} (h : maxIntegerDigits < count) (pos : Nat) :
    readNumber ⟨pos, ones count⟩ = .error (.abort (.impossibleValue (.longInteger count))) := by
  obtain ⟨more, rfl⟩ : ∃ more, count = more + 1 := ⟨count - 1, by omega⟩
  -- all of the text are integer digits, and nothing stands behind them
  have hwhole : integerDigits (ones (more + 1)) = ones (more + 1) := by
    simp [integerDigits, ones, List.replicate_succ, isAsciiDigit]
  have hlength : (ones (more + 1)).length = more + 1 := List.length_replicate
  have hsome : (ones (more + 1)).isEmpty = false := rfl
  have hnothing : (ones (more + 1)).drop (more + 1) = [] := by
    rw [List.drop_eq_nil_iff, hlength]
  rw [readNumber]
  split
  rename_i heq
  split at heq
  · rename_i hsign
    cases (List.cons_eq_cons.mp hsign).1
  · cases heq
    simp only [hwhole, hsome, hlength, hnothing, fractionDigits, exponentPart, integerOf, if_pos h, Bool.false_eq_true,
      if_false, List.isEmpty_nil, if_true, List.length_nil, Nat.add_zero, Except.map]

/-- Too many ones in a row end the run. -/
theorem ofChars_ones {count : Nat} (h : maxIntegerDigits < count) :
    ofChars (ones count) = .error (.abort (.impossibleValue (.longInteger count))) := by
  obtain ⟨more, rfl⟩ : ∃ more, count = more + 1 := ⟨count - 1, by omega⟩
  -- neither blanks nor a mark stand in front of the ones, so the reader comes to them at once
  have hones : ones (more + 1) = '1' :: ones more := rfl
  have hblanks : (Cursor.mk 0 ('1' :: ones more)).skipBlanks = ⟨0, '1' :: ones more⟩ :=
    skipBlanks_of_not_blank (by simp; decide)
  have hvalue (steps : Nat) : readValue (steps + 1) ⟨0, '1' :: ones more⟩ =
      .error (.abort (.impossibleValue (.longInteger (more + 1)))) := by
    rw [readValue_of_atom (by decide) (by decide) (by decide), readAtom_of_digit (by decide), ← hones,
      readNumber_ones h]
  have hdocument : readDocument (ones (more + 1)) =
      .error (.abort (.impossibleValue (.longInteger (more + 1)))) := by
    rw [hones, readDocument.eq_def]
    split
    · rename_i hmark
      cases (List.cons_eq_cons.mp hmark).1
    · rw [hblanks, hvalue, error_bind]
  rw [ofChars, hdocument]
  rfl

end BodyLength.Json
