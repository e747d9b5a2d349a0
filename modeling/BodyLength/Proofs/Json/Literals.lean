import BodyLength.Json.Reader
import BodyLength.Json.Writer
import BodyLength.Proofs.Number.Digits
import BodyLength.Proofs.Outcome
import BodyLength.Proofs.Text.Encoding

/-!
# Reading back what was written: strings and numbers

A string is written in ASCII, and the reader undoes every escape of it. A character beyond sixteen bits is the one that
needs care: it is written as two escapes, which the reader has to take together. Integers are written in decimal, and
the reader stops at the first character that cannot continue them.

* `stringBody_writtenChar`: a written character is read as that character, whatever follows it in the string.
* `readString_writtenString`: a written string is read as that string.
* `integerOf_toDigits`: the digits of an integer denote it, if there are not too many of them.
* `readNumber_int`: a written integer is read as that integer, if nothing behind it looks like more of a number.
-/

namespace BodyLength.Json

/-! ## Escapes by code point

An escape is four hexadecimal digits. Reading the digits of a number gives the number, and what is done with it depends
on whether it is a half of a pair. -/

/-- A unit takes four hexadecimal digits. -/
theorem length_hexPadded_four {unit : Nat} (h : unit < 0x10000) : (hexPadded 4 unit).toList.length = 4 :=
  length_hexPadded ((Nat.length_toDigits_le_iff (by decide) (by decide)).mpr h)

/-- The digits of sixteen bits are read as their value. -/
theorem fourHex?_hexPadded {unit : Nat} (h : unit < 0x10000) {behind : List Char} (hbehind : behind ≠ []) :
    fourHex? ((hexPadded 4 unit).toList ++ behind) = some unit := by
  have hlength := length_hexPadded_four h
  have hvalue := ofDigits_hexPadded 4 unit
  have hdigits : (hexPadded 4 unit).toList.all isHexDigit = true := by
    have hall : ∀ d < 16, isHexDigit (Nat.digitChar d) = true := by decide
    rw [List.all_eq_true]
    intro c hc
    obtain ⟨d, hd, rfl⟩ := exists_digitChar_of_mem_hexPadded hc
    exact hall d hd
  obtain ⟨next, more, rfl⟩ := List.exists_cons_of_ne_nil hbehind
  match (hexPadded 4 unit).toList, hlength, hvalue, hdigits with
  | [a, b, c, d], _, hvalue, hdigits =>
      rw [List.cons_append, List.cons_append, List.cons_append, List.cons_append, List.nil_append, fourHex?,
        if_pos hdigits, hvalue]

/-- An escape that is no half of a pair is a character of its own. -/
theorem unicodeEscape_of_not_surrogate {unit : Nat} (h : unit < 0xD800 ∨ 0xE000 ≤ unit ∧ unit < 0x10000)
    {behind : List Char} (hbehind : behind ≠ []) :
    unicodeEscape ((hexPadded 4 unit).toList ++ behind) = .char (Char.ofNat unit) 4 := by
  have hhigh : (decide (0xD800 ≤ unit) && decide (unit < 0xDC00)) = false := by
    simp only [Bool.and_eq_false_iff, decide_eq_false_iff_not]
    omega
  have hlow : (decide (0xDC00 ≤ unit) && decide (unit < 0xE000)) = false := by
    simp only [Bool.and_eq_false_iff, decide_eq_false_iff_not]
    omega
  rw [unicodeEscape, fourHex?_hexPadded (by omega) hbehind]
  simp only [hhigh, hlow, Bool.false_eq_true, if_false]

/-- The two escapes of a pair are one character. -/
theorem unicodeEscape_of_pair {high low : Nat} (hhigh : 0xD800 ≤ high ∧ high < 0xDC00)
    (hlow : 0xDC00 ≤ low ∧ low < 0xE000) {behind : List Char} (hbehind : behind ≠ []) :
    unicodeEscape ((hexPadded 4 high).toList ++ ('\\' :: 'u' :: ((hexPadded 4 low).toList ++ behind))) =
      .char (Char.ofNat (0x10000 + (high - 0xD800) * 0x400 + (low - 0xDC00))) 10 := by
  have hlong : ¬ ((hexPadded 4 low).toList ++ behind).length < 5 := by
    have := List.length_pos_iff.mpr hbehind
    rw [List.length_append, length_hexPadded_four (by omega)]
    omega
  rw [unicodeEscape, fourHex?_hexPadded (by omega) (by simp), List.drop_left' (length_hexPadded_four (by omega))]
  simp only [hhigh, hlow, decide_true, Bool.and_true, if_true, if_neg hlong,
    fourHex?_hexPadded (show low < 0x10000 by omega) hbehind]

/-! ## Characters of a string

There are four ways to write a character: as itself, by one character behind a backslash, by the code of one unit, and
by those of two. Each of them is a step of the reader, which goes on behind it. The whole string follows by induction
over its characters, and ends with the first mark that is not behind a backslash. -/

/-- The rest of an escape is left out. -/
theorem stringBody_skip (start pos : Nat) (front back : List Char) :
    stringBody start pos front.length (front ++ back) = stringBody start (pos + front.length) 0 back := by
  induction front generalizing pos with
  | nil => rfl
  | cons c rest ih =>
      rw [List.length_cons, List.cons_append, stringBody, ih]
      congr 1
      omega

/-- What is read of a string whose first character is already known. -/
def withChar (c : Char) (rest : Except JsonFault (List Char × Cursor)) :
    Except JsonFault (List Char × Cursor) := do
  let (cs, after) ← rest
  .ok (c :: cs, after)

/-- An escape by code point is read as the character that its digits stand for. -/
theorem stringBody_unicodeEscape {start pos : Nat} {c : Char} (digits : List Char) {behind : List Char}
    (h : unicodeEscape (digits ++ behind) = .char c digits.length) :
    stringBody start pos 0 ('\\' :: 'u' :: digits ++ behind) =
      withChar c (stringBody start (pos + (digits.length + 2)) 0 behind) := by
  have hskip := stringBody_skip start (pos + 1) ('u' :: digits) behind
  rw [List.length_cons, Nat.add_assoc, Nat.add_comm 1] at hskip
  rw [List.cons_append, List.cons_append, stringBody]
  · simp only [h, beq_self_eq_true, if_true, Char.reduceBEq, Bool.false_eq_true, if_false]
    rw [← List.cons_append, hskip]
    rfl

/-- An escape by a letter is read as the character that the letter stands for. -/
theorem stringBody_simpleEscape {start pos : Nat} {c letter : Char} (hletter : letter ≠ 'u')
    (h : simpleEscape? letter = some c) (behind : List Char) :
    stringBody start pos 0 ('\\' :: letter :: behind) =
      withChar c (stringBody start (pos + 2) 0 behind) := by
  have hskip := stringBody_skip start (pos + 1) [letter] behind
  rw [stringBody]
  · simp only [Char.reduceBEq, Bool.false_eq_true, if_false, beq_self_eq_true, if_true, h]
    exact congrArg (withChar c) hskip
  · exact hletter

/-- A character that needs no escape is read as itself. -/
theorem stringBody_plain {start pos : Nat} {c : Char} (hquote : c ≠ '"') (hslash : c ≠ '\\')
    (hcode : 32 ≤ c.toNat) (behind : List Char) :
    stringBody start pos 0 (c :: behind) = withChar c (stringBody start (pos + 1) 0 behind) := by
  have hquote' : (c == '"') = false := beq_eq_false_iff_ne.mpr hquote
  have hslash' : (c == '\\') = false := beq_eq_false_iff_ne.mpr hslash
  rw [stringBody.eq_def]
  simp only [hquote', hslash', Bool.false_eq_true, if_false, Nat.not_lt.mpr hcode]
  rfl

/-- The escape of a unit, character by character. -/
theorem toList_unitEscape (unit : Nat) :
    (unitEscape unit).toList = '\\' :: 'u' :: (hexPadded 4 unit).toList := by
  simp [unitEscape]

/-- A unit that is no half of a pair is read as a character of its own. -/
theorem stringBody_unit {start pos unit : Nat} (h : unit < 0xD800 ∨ 0xE000 ≤ unit ∧ unit < 0x10000)
    {behind : List Char} (hbehind : behind ≠ []) :
    stringBody start pos 0 ((unitEscape unit).toList ++ behind) =
      withChar (Char.ofNat unit) (stringBody start (pos + (unitEscape unit).toList.length) 0 behind) := by
  rw [toList_unitEscape]
  refine stringBody_unicodeEscape _ ?_
  rw [unicodeEscape_of_not_surrogate h hbehind, length_hexPadded_four (by omega)]

/-- Two units that are a pair are read as one character. -/
theorem stringBody_pair {start pos high low : Nat} (hhigh : 0xD800 ≤ high ∧ high < 0xDC00)
    (hlow : 0xDC00 ≤ low ∧ low < 0xE000) {behind : List Char} (hbehind : behind ≠ []) :
    stringBody start pos 0 ((unitEscape high ++ unitEscape low).toList ++ behind) =
      withChar (Char.ofNat (0x10000 + (high - 0xD800) * 0x400 + (low - 0xDC00)))
        (stringBody start (pos + (unitEscape high ++ unitEscape low).toList.length) 0 behind) := by
  rw [String.toList_append, toList_unitEscape, toList_unitEscape, List.cons_append, List.cons_append]
  refine stringBody_unicodeEscape ((hexPadded 4 high).toList ++ '\\' :: 'u' :: (hexPadded 4 low).toList) ?_
  rw [List.append_assoc, List.cons_append, List.cons_append, unicodeEscape_of_pair hhigh hlow hbehind,
    List.length_append, List.length_cons, List.length_cons, length_hexPadded_four (by omega),
    length_hexPadded_four (by omega)]

/-- The halves that a code point is split into make it up again. -/
theorem pair_eq (n : Nat) :
    0x10000 + (0xD800 + n / 0x400 - 0xD800) * 0x400 + (0xDC00 + n % 0x400 - 0xDC00) = 0x10000 + n := by
  omega

/-- A written character is read as that character, whatever follows it in the string. -/
theorem stringBody_writtenChar (start pos : Nat) (c : Char) {behind : List Char} (hbehind : behind ≠ []) :
    stringBody start pos 0 ((writtenChar c).toList ++ behind) =
      withChar c (stringBody start (pos + (writtenChar c).toList.length) 0 behind) := by
  unfold writtenChar
  -- seven characters have short escapes
  split
  · exact stringBody_simpleEscape (by decide) rfl behind
  · exact stringBody_simpleEscape (by decide) rfl behind
  · exact stringBody_simpleEscape (by decide) rfl behind
  · exact stringBody_simpleEscape (by decide) rfl behind
  · exact stringBody_simpleEscape (by decide) rfl behind
  · exact stringBody_simpleEscape (by decide) rfl behind
  · exact stringBody_simpleEscape (by decide) rfl behind
  · rename_i hquote hslash _ _ _ _ _
    have hvalid : c.toNat.isValidChar := c.valid
    -- printable characters are written as they are
    by_cases hascii : 32 ≤ c.toNat ∧ c.toNat < 127
    · have hself : c.toString.toList = [c] := by simp [Char.toString]
      simp only [hascii, decide_true, Bool.and_true, if_true, hself]
      exact stringBody_plain hquote hslash hascii.1 behind
    · have hascii' : (decide (32 ≤ c.toNat) && decide (c.toNat < 127)) = false := by
        simpa using hascii
      simp only [hascii', Bool.false_eq_true, if_false]
      -- the others are escaped by their code, in one unit or in a pair of them
      by_cases hsmall : c.toNat < 0x10000
      · rw [if_pos hsmall, stringBody_unit (by omega) hbehind, Char.ofNat_toNat]
      · rw [if_neg hsmall, stringBody_pair (by omega) (by omega) hbehind, pair_eq,
          Nat.add_sub_cancel' (Nat.not_lt.mp hsmall), Char.ofNat_toNat]

/-- The characters of a string are read up to the closing mark. -/
theorem stringBody_written (start pos : Nat) (cs behind : List Char) :
    ∃ after, stringBody start pos 0 ((cs.flatMap fun c => (writtenChar c).toList) ++ '"' :: behind) =
      .ok (cs, ⟨after, behind⟩) := by
  induction cs generalizing pos with
  | nil =>
      refine ⟨pos + 1, ?_⟩
      rw [List.flatMap_nil, List.nil_append, stringBody.eq_def]
      rfl
  | cons c cs ih =>
      obtain ⟨after, h⟩ := ih (pos + (writtenChar c).toList.length)
      refine ⟨after, ?_⟩
      rw [List.flatMap_cons, List.append_assoc, stringBody_writtenChar start pos c (by simp), h]
      rfl

/-- A string that is written is its written characters between quotes. -/
theorem toList_writtenString (s : String) :
    (writtenString s).toList = '"' :: ((s.toList.flatMap fun c => (writtenChar c).toList) ++ ['"']) := by
  simp [writtenString, String.toList_join, List.flatMap, Function.comp_def]

/-- A written string is read as that string. -/
theorem readString_writtenString (pos : Nat) (s : String) (behind : List Char) :
    ∃ after, readString ((Cursor.mk pos ((writtenString s).toList ++ behind)).skip 1) =
      .ok (s, ⟨after, behind⟩) := by
  obtain ⟨after, h⟩ := stringBody_written pos (pos + 1) s.toList behind
  refine ⟨after, ?_⟩
  rw [toList_writtenString, List.cons_append, List.append_assoc]
  simp only [Cursor.skip, List.drop_succ_cons, List.drop_zero, readString, Nat.add_sub_cancel,
    List.cons_append, List.nil_append, h]
  rw [Except.mapError, ok_bind, String.ofList_toList]

/-! ## Integers

A number goes on as long as there are digits, a point or an exponent. So that an integer is read up to its end, what
stands behind it must not begin with any of these, which is so at the end of a text and before a comma, a bracket or a
blank. -/

/-- Is there nothing at the start of a text that could continue a number? -/
def EndsNumber (cs : List Char) : Prop :=
  ∀ c ∈ cs.head?, isAsciiDigit c = false ∧ c ≠ '.' ∧ c ≠ 'e' ∧ c ≠ 'E'

/-- The digits of a number end where the number does. -/
theorem takeWhile_digits_append {digits behind : List Char} (hdigits : ∀ c ∈ digits, isAsciiDigit c = true)
    (hbehind : EndsNumber behind) : (digits ++ behind).takeWhile isAsciiDigit = digits := by
  rw [List.takeWhile_append_of_pos hdigits]
  cases behind with
  | nil => simp
  | cons c rest => simp [(hbehind c rfl).1]

/-- The integer digits at the start of a text are those of the number that was written there. -/
theorem integerDigits_toDigits (n : Nat) {behind : List Char} (hbehind : EndsNumber behind) :
    integerDigits (Nat.toDigits 10 n ++ behind) = Nat.toDigits 10 n := by
  have hall : ∀ c ∈ Nat.toDigits 10 n, isAsciiDigit c = true := fun c => isAsciiDigit_of_mem_toDigits
  cases hdigits : Nat.toDigits 10 n with
  | nil => exact absurd hdigits Nat.toDigits_ne_nil
  | cons c rest =>
      rw [← hdigits]
      by_cases hc : c = '0'
      · subst hc
        have hzero := eq_zero_of_toDigits_eq_cons (by decide) hdigits
        subst hzero
        rfl
      · rw [integerDigits.eq_def]
        split
        · rename_i heq
          rw [hdigits] at heq
          exact absurd (List.cons_eq_cons.mp heq).1 hc
        · exact takeWhile_digits_append hall hbehind

/-- Where a number ends it has no fraction. -/
theorem fractionDigits_of_endsNumber {behind : List Char} (h : EndsNumber behind) :
    fractionDigits behind = [] := by
  cases behind with
  | nil => rfl
  | cons c rest =>
      rw [fractionDigits.eq_def]
      split
      · rename_i heq
        exact absurd (List.cons_eq_cons.mp heq).1 (h c rfl).2.1
      · rfl

/-- And it has no exponent. -/
theorem exponentPart_of_endsNumber {behind : List Char} (h : EndsNumber behind) :
    exponentPart behind = none := by
  cases behind with
  | nil => rfl
  | cons c rest =>
      obtain ⟨-, -, hlower, hupper⟩ := h c rfl
      simp [exponentPart, hlower, hupper]

/-- The characters of an integer: a sign if it is negative, and the digits of its magnitude. -/
theorem toList_toString_int (n : Int) :
    (toString n).toList = (if n < 0 then ['-'] else []) ++ Nat.toDigits 10 n.natAbs := by
  cases n with
  | ofNat m => simp [Int.repr_eq_if]
  | negSucc m => simp [Int.repr_eq_if]

/-- The first digit of a number is no sign. -/
theorem toDigits_append_ne_sign (n : Nat) (behind rest : List Char) :
    Nat.toDigits 10 n ++ behind ≠ '-' :: rest := by
  intro heq
  have hmem : '-' ∈ Nat.toDigits 10 n := by
    cases hdigits : Nat.toDigits 10 n with
    | nil => exact absurd hdigits Nat.toDigits_ne_nil
    | cons c more =>
        rw [hdigits, List.cons_append] at heq
        rw [(List.cons_eq_cons.mp heq).1]
        exact List.mem_cons_self
  exact absurd (isAsciiDigit_of_mem_toDigits hmem) (by decide)

/-- The digits of an integer denote it, if they are few enough to be read at all. -/
theorem integerOf_toDigits {n : Int} (h : (Number.whole n).isWritable = true) :
    integerOf (decide (n < 0)) (Nat.toDigits 10 n.natAbs) = .ok (int n) := by
  have hfew : ¬ maxIntegerDigits < (Nat.toDigits 10 n.natAbs).length :=
    Nat.not_lt.mpr (of_decide_eq_true h)
  rw [integerOf, if_neg hfew, ofDigits_toDigits (by decide) (by decide)]
  by_cases hn : n < 0
  · have habs : -(n.natAbs : Int) = n := by omega
    simp only [hn, decide_true, if_true, habs]
  · have habs : (n.natAbs : Int) = n := by omega
    simp only [hn, decide_false, Bool.false_eq_true, if_false, habs]

/-- A written integer is read as that integer, if it is one that is written out and nothing behind it could continue
it. -/
theorem readNumber_int (pos : Nat) {n : Int} (h : (Number.whole n).isWritable = true) {behind : List Char}
    (hbehind : EndsNumber behind) :
    ∃ after, readNumber ⟨pos, (toString n).toList ++ behind⟩ = .ok (int n, ⟨after, behind⟩) := by
  have hwhole := integerDigits_toDigits n.natAbs hbehind
  have hvalue := integerOf_toDigits h
  have hfraction := fractionDigits_of_endsNumber hbehind
  have hexponent := exponentPart_of_endsNumber hbehind
  rw [toList_toString_int]
  by_cases hn : n < 0
  · refine ⟨pos + (1 + (Nat.toDigits 10 n.natAbs).length), ?_⟩
    rw [decide_eq_true hn] at hvalue
    rw [if_pos hn, List.singleton_append, List.cons_append, readNumber]
    simp only [hwhole, List.isEmpty_iff, Nat.toDigits_ne_nil, ↓reduceIte, List.drop_left, hfraction, List.isEmpty_nil,
      Nat.add_zero, List.length_nil, hexponent, hvalue, Cursor.skip, Nat.add_comm 1, List.drop_succ_cons, Except.map]
  · refine ⟨pos + (Nat.toDigits 10 n.natAbs).length, ?_⟩
    rw [decide_eq_false hn] at hvalue
    rw [if_neg hn, List.nil_append, readNumber]
    split
    rename_i heq
    split at heq
    · rename_i rest hrest
      exact absurd hrest (toDigits_append_ne_sign n.natAbs behind rest)
    · cases heq
      simp only [hwhole, List.isEmpty_iff, Nat.toDigits_ne_nil, ↓reduceIte, List.drop_left, hfraction, List.isEmpty_nil,
        Nat.add_zero, List.length_nil, hexponent, hvalue, Cursor.skip, Nat.zero_add, Except.map]

end BodyLength.Json
