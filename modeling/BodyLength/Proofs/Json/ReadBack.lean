import BodyLength.Proofs.Json.Layout
import BodyLength.Proofs.Json.Literals
import BodyLength.Proofs.Number.Writable

/-!
# Reading back what was written: values

A written value is read as that value, in every layout. Two kinds of values are left out, since the format itself does
not keep them apart from others: fractions, which are rounded when they are read, and objects that have two members
with one name. `Json.IsExact` is what remains, and all that the program writes about trees and reports is exact. An
exact value is read back only if it is one that is written out, so that no integer in it has too many digits.

* `readValue_spelled`: reading a value stops behind it and gives it back, with a number of steps that the length of its
  text bounds.
* `ofChars_spelled_append`: reading a text that is a value and nothing else, but perhaps blanks, gives the value.
-/

namespace BodyLength.Json

/-! ## Exact values

The reader puts members into an object one by one, and one with a name that is there already takes the place of the old
one. If the names are different then all members remain, in their order. -/

mutual

/-- Are all numbers in a value integers, and all names in each of its objects different? -/
def IsExact : Json → Prop
  | null => True
  | bool _ => True
  | number (.whole _) => True
  | number (.fraction _) => False
  | text _ => True
  | list items => AreExact items
  | object members => (members.map Prod.fst).Nodup ∧ HoldExact members

/-- Are all of several values exact? -/
def AreExact : List Json → Prop
  | [] => True
  | j :: rest => j.IsExact ∧ AreExact rest

/-- Are the values of all of several members exact? -/
def HoldExact : List (String × Json) → Prop
  | [] => True
  | (_, j) :: rest => j.IsExact ∧ HoldExact rest

end

/-- Items are exact if each is. -/
theorem areExact_iff {items : List Json} : AreExact items ↔ ∀ j ∈ items, j.IsExact := by
  induction items with
  | nil => simp [AreExact]
  | cons j rest ih => simp [AreExact, ih]

/-- Members are exact if the value of each is. -/
theorem holdExact_iff {members : List (String × Json)} : HoldExact members ↔ ∀ m ∈ members, m.2.IsExact := by
  induction members with
  | nil => simp [HoldExact]
  | cons m rest ih =>
      obtain ⟨name, j⟩ := m
      rw [HoldExact, ih, List.forall_mem_cons]

/-- Writing a new name adds a member at the end. -/
theorem insertMember_of_notMem {name : String} {j : Json} {members : List (String × Json)}
    (h : name ∉ members.map Prod.fst) : insertMember name j members = members ++ [(name, j)] := by
  induction members with
  | nil => rfl
  | cons m rest ih =>
      rw [List.map_cons, List.mem_cons, not_or] at h
      rw [insertMember, if_neg fun heq => h.1 heq.symm, ih h.2]
      rfl

/-- Members with different names all remain. -/
theorem membersOf_of_nodup {members : List (String × Json)} (h : (members.map Prod.fst).Nodup) :
    membersOf members = members := by
  have hfold (written : List (String × Json)) (hall : ((written ++ members).map Prod.fst).Nodup) :
      members.foldl (fun written m => insertMember m.1 m.2 written) written = written ++ members := by
    clear h
    induction members generalizing written with
    | nil => simp
    | cons m rest ih =>
        have hnew : m.1 ∉ written.map Prod.fst := by
          rw [List.map_append, List.map_cons, List.nodup_append] at hall
          exact fun hmem => hall.2.2 m.1 hmem m.1 List.mem_cons_self rfl
        rw [List.foldl_cons, insertMember_of_notMem hnew, ih]
        · simp
        · simpa using hall
  exact hfold [] h

/-! ## Cursors

A cursor is a position and the text behind it. Where a reader stops is told by the text that is left. The position is
of no interest here, since it is told in errors only. -/

/-- The blanks before something that is no blank are skipped. -/
theorem skipBlanks_append {pos : Nat} {blanks behind : List Char} (hblanks : ∀ c ∈ blanks, isJsonBlank c = true)
    (hbehind : ∀ c ∈ behind.head?, isJsonBlank c = false) :
    (Cursor.mk pos (blanks ++ behind)).skipBlanks = ⟨pos + blanks.length, behind⟩ := by
  have htake : (blanks ++ behind).takeWhile isJsonBlank = blanks := by
    rw [List.takeWhile_append_of_pos hblanks]
    cases behind with
    | nil => simp
    | cons c rest => simp [hbehind c rfl]
  simp [Cursor.skipBlanks, Cursor.skip, htake]

/-- Where no blank stands there is none to be skipped. -/
theorem skipBlanks_of_not_blank {pos : Nat} {text : List Char} (h : ∀ c ∈ text.head?, isJsonBlank c = false) :
    (Cursor.mk pos text).skipBlanks = ⟨pos, text⟩ :=
  skipBlanks_append (List.forall_mem_nil _) h

/-! ## First and last characters

What a value is shows at its first character, and so does that there is no blank in front of it to be skipped. The
character behind a value matters for numbers only, which could go on with it. -/

/-- There are four blanks. -/
theorem isJsonBlank_iff {c : Char} : isJsonBlank c = true ↔ c = ' ' ∨ c = '\t' ∨ c = '\n' ∨ c = '\r' := by
  simp [isJsonBlank, or_assoc]

/-- An integer starts with a digit, perhaps behind a sign. -/
theorem exists_toString_int_eq (n : Int) :
    ∃ d ds, isAsciiDigit d = true ∧ ((toString n).toList = d :: ds ∨ (toString n).toList = '-' :: d :: ds) := by
  rw [toList_toString_int]
  cases hdigits : Nat.toDigits 10 n.natAbs with
  | nil => exact absurd hdigits Nat.toDigits_ne_nil
  | cons d ds =>
      have hd : d ∈ Nat.toDigits 10 n.natAbs := hdigits ▸ List.mem_cons_self
      refine ⟨d, ds, isAsciiDigit_of_mem_toDigits hd, ?_⟩
      by_cases hn : n < 0
      · exact Or.inr (by simp [hn])
      · exact Or.inl (by simp [hn])

/-- Is a character one that a value can start with? At least it is no blank, no bracket that closes a list and no
mark of the byte order. -/
def mayStart (c : Char) : Bool :=
  !isJsonBlank c && c != ']' && c != '\uFEFF'

/-- A value may start with a digit. -/
theorem mayStart_of_isAsciiDigit {c : Char} (h : isAsciiDigit c = true) : mayStart c = true := by
  have hne : c ≠ ' ' ∧ c ≠ '\t' ∧ c ≠ '\n' ∧ c ≠ '\r' ∧ c ≠ ']' ∧ c ≠ '\uFEFF' := by
    refine ⟨?_, ?_, ?_, ?_, ?_, ?_⟩ <;>
    · rintro rfl
      exact absurd h (by decide)
  simp [mayStart, isJsonBlank, hne]

/-- A value starts with a character that it can start with. -/
theorem exists_spelled_eq_cons (l : Layout) (depth : Nat) {j : Json} (h : j.IsExact) :
    ∃ c cs, spelled l depth j = c :: cs ∧ mayStart c = true := by
  -- the first character says which kind of value it is
  match j, h with
  | .null, _ => exact ⟨'n', _, by rw [spelled]; rfl, by decide⟩
  | .bool true, _ => exact ⟨'t', _, by rw [spelled]; rfl, by decide⟩
  | .bool false, _ => exact ⟨'f', _, by rw [spelled]; rfl, by decide⟩
  | .number (.whole n), _ =>
      rw [spelled, writtenNumber]
      obtain ⟨d, ds, hd, heq | heq⟩ := exists_toString_int_eq n
      · exact ⟨d, ds, heq, mayStart_of_isAsciiDigit hd⟩
      · exact ⟨'-', d :: ds, heq, by decide⟩
  | .text s, _ => exact ⟨'"', _, by rw [spelled, toList_writtenString], by decide⟩
  | .list [], _ => exact ⟨'[', _, by rw [spelled], by decide⟩
  | .list (j :: rest), _ => exact ⟨'[', _, by rw [spelled], by decide⟩
  | .object [], _ => exact ⟨'\x7b', _, by rw [spelled], by decide⟩
  | .object (m :: rest), _ => exact ⟨'\x7b', _, by rw [spelled], by decide⟩

/-- A number ends before a character that could not go on with it. -/
theorem endsNumber_cons {c : Char} {behind : List Char}
    (h : isAsciiDigit c = false ∧ c ≠ '.' ∧ c ≠ 'e' ∧ c ≠ 'E') : EndsNumber (c :: behind) := by
  intro c' hc'
  cases Option.some.inj hc'
  exact h

/-- Blanks end a number, and so does what stands behind them. -/
theorem endsNumber_blanks_append {blanks behind : List Char} (hblanks : ∀ c ∈ blanks, isJsonBlank c = true)
    (hbehind : EndsNumber behind) : EndsNumber (blanks ++ behind) := by
  cases blanks with
  | nil => exact hbehind
  | cons c rest =>
      refine endsNumber_cons ?_
      rcases isJsonBlank_iff.mp (hblanks c List.mem_cons_self) with rfl | rfl | rfl | rfl <;> decide

/-! ## Words and numbers

Three opening characters decide what a value is. Whatever begins with none of them is a word or a number, and it is a
number if it begins with a digit or a sign. -/

/-- Something that starts with a digit is no word. -/
theorem readAtom_of_digit {d : Char} (hd : isAsciiDigit d = true) (pos : Nat) (rest : List Char) :
    readAtom ⟨pos, d :: rest⟩ = readNumber ⟨pos, d :: rest⟩ := by
  have hne : 'n' ≠ d ∧ 't' ≠ d ∧ 'f' ≠ d ∧ 'N' ≠ d ∧ 'I' ≠ d ∧ '-' ≠ d := by
    refine ⟨?_, ?_, ?_, ?_, ?_, ?_⟩ <;>
    · rintro rfl
      exact absurd hd (by decide)
  simp [readAtom, wordValues, List.isPrefixOf, hne]

/-- A sign with a digit behind it begins a number, and no word. -/
theorem readAtom_of_sign_digit {d : Char} (hd : isAsciiDigit d = true) (pos : Nat) (rest : List Char) :
    readAtom ⟨pos, '-' :: d :: rest⟩ = readNumber ⟨pos, '-' :: d :: rest⟩ := by
  have hne : 'I' ≠ d := by
    rintro rfl
    exact absurd hd (by decide)
  simp [readAtom, wordValues, List.isPrefixOf, hne]

/-- What starts with none of the three opening characters is a word or a number. -/
theorem readValue_of_atom {c : Char} (hquote : c ≠ '"') (hlist : c ≠ '[') (hobject : c ≠ '\x7b')
    (steps pos : Nat) (rest : List Char) : readValue (steps + 1) ⟨pos, c :: rest⟩ = readAtom ⟨pos, c :: rest⟩ := by
  rw [readValue.eq_def]
  simp only
  split
  · rename_i heq
    cases heq
  · rename_i heq
    exact absurd (List.cons_eq_cons.mp heq).1 hquote
  · rename_i heq
    exact absurd (List.cons_eq_cons.mp heq).1 hlist
  · rename_i heq
    exact absurd (List.cons_eq_cons.mp heq).1 hobject
  · rfl

/-- An integer that is written out is read as that integer. -/
theorem readValue_int (steps pos : Nat) {n : Int} (h : (Number.whole n).isWritable = true) {behind : List Char}
    (hbehind : EndsNumber behind) :
    ∃ after, readValue (steps + 1) ⟨pos, (toString n).toList ++ behind⟩ = .ok (int n, ⟨after, behind⟩) := by
  obtain ⟨after, hnumber⟩ := readNumber_int pos h hbehind
  refine ⟨after, hnumber ▸ ?_⟩
  obtain ⟨d, ds, hd, heq | heq⟩ := exists_toString_int_eq n
  · have hne : d ≠ '"' ∧ d ≠ '[' ∧ d ≠ '\x7b' := by
      refine ⟨?_, ?_, ?_⟩ <;>
      · rintro rfl
        exact absurd hd (by decide)
    rw [heq, List.cons_append, readValue_of_atom hne.1 hne.2.1 hne.2.2, readAtom_of_digit hd]
  · rw [heq, List.cons_append, List.cons_append, readValue_of_atom (by decide) (by decide) (by decide),
      readAtom_of_sign_digit hd]

/-! ## Values

The reader takes steps, and each value takes one for itself and some for its parts. Two for each character are enough:
every part has a character at least, and between two parts there is one more. The induction is along the value, with
one statement for values, one for the items of a list and one for the members of an object. -/

section Values

variable (l : Layout)

/-- The blanks before a name, a comma or a bracket are skipped. -/
theorem skipBlanks_line (pos depth : Nat) {c : Char} (hc : isJsonBlank c = false) (behind : List Char) :
    (Cursor.mk pos (l.line depth ++ c :: behind)).skipBlanks = ⟨pos + (l.line depth).length, c :: behind⟩ :=
  skipBlanks_append (l.line_blank depth) (by simpa using hc)

/-- The first character of a text, if the text starts with the items of a list. -/
theorem exists_spelledItems_eq_cons (depth : Nat) {items : List Json} (hne : items ≠ [])
    (h : AreExact items) : ∃ c cs, spelledItems l depth items = c :: cs ∧ mayStart c = true := by
  match items, hne, h with
  | [j], _, h =>
      obtain ⟨c, cs, heq, hc⟩ := exists_spelled_eq_cons l (depth + 1) h.1
      exact ⟨c, _, by rw [spelledItems, heq]; rfl, hc⟩
  | j :: k :: rest, _, h =>
      obtain ⟨c, cs, heq, hc⟩ := exists_spelled_eq_cons l (depth + 1) h.1
      exact ⟨c, _, by rw [spelledItems, heq]; rfl, hc⟩

/-- The first thing in an object is the quote of a name. -/
theorem exists_spelledMembers_eq_cons (depth : Nat) {members : List (String × Json)} (hne : members ≠ []) :
    ∃ cs, spelledMembers l depth members = '"' :: cs := by
  match members, hne with
  | [(name, j)], _ => exact ⟨_, by rw [spelledMembers, toList_writtenString]; rfl⟩
  | (name, j) :: m :: rest, _ => exact ⟨_, by rw [spelledMembers, toList_writtenString]; rfl⟩

/-- A value, and what is left of a collection, has a character at least. -/
theorem length_spelled_pos (depth : Nat) {j : Json} (h : j.IsExact) : 0 < (spelled l depth j).length := by
  obtain ⟨c, cs, heq, -⟩ := exists_spelled_eq_cons l depth h
  simp [heq]

/-- A number ends where a line does, before a character that could not go on with it. -/
theorem endsNumber_line (depth : Nat) {c : Char} (behind : List Char)
    (h : isAsciiDigit c = false ∧ c ≠ '.' ∧ c ≠ 'e' ∧ c ≠ 'E') : EndsNumber (l.line depth ++ c :: behind) :=
  endsNumber_blanks_append (l.line_blank depth) (endsNumber_cons h)

/-- How the reader goes on behind a member of an object. -/
def behindMember (steps : Nat) (m : String × Json) (after : Cursor) :
    Except (Fault JsonFault) (List (String × Json) × Cursor) :=
  let after := after.skipBlanks
  match after.rest with
  | '\x7d' :: _ => .ok ([m], after.skip 1)
  | ',' :: _ => do
    let (rest, after) ← readMembers steps (after.skip 1).skipBlanks
    .ok (m :: rest, after)
  | _ => after.fail .expectingComma

/-- The name and the colon of a member are read, and its value behind them. -/
theorem readMembers_member {steps depth : Nat} (pos : Nat) (name : String) {j : Json} (hj : j.IsExact)
    {behind : List Char}
    (hvalue : ∀ pos, ∃ after, readValue steps ⟨pos, spelled l depth j ++ behind⟩ = .ok (j, ⟨after, behind⟩)) :
    ∃ after, readMembers (steps + 1)
        ⟨pos, (writtenString name).toList ++ (':' :: (l.colon ++ (spelled l depth j ++ behind)))⟩ =
      behindMember steps (name, j) ⟨after, behind⟩ := by
  -- the name is read up to the colon, and the blanks behind the colon are skipped
  obtain ⟨afterName, hname⟩ :=
    readString_writtenString pos name (':' :: (l.colon ++ (spelled l depth j ++ behind)))
  have hcolon : (Cursor.mk afterName (':' :: (l.colon ++ (spelled l depth j ++ behind)))).skipBlanks =
      ⟨afterName, ':' :: (l.colon ++ (spelled l depth j ++ behind))⟩ :=
    skipBlanks_of_not_blank (by simp; decide)
  obtain ⟨c, cs, heq, hc⟩ := exists_spelled_eq_cons l depth hj
  simp only [mayStart, Bool.and_eq_true, Bool.not_eq_true'] at hc
  have hblanks : (Cursor.mk (afterName + 1) (l.colon ++ (spelled l depth j ++ behind))).skipBlanks =
      ⟨afterName + 1 + l.colon.length, spelled l depth j ++ behind⟩ :=
    skipBlanks_append l.colon_blank (by simpa [heq] using hc.1.1)
  obtain ⟨after, hvalue⟩ := hvalue (afterName + 1 + l.colon.length)
  refine ⟨after, ?_⟩
  rw [toList_writtenString, List.cons_append] at hname ⊢
  simp only [Cursor.skip, List.drop_succ_cons, List.drop_zero] at hname
  rw [readMembers]
  simp only [hname, ok_bind, hcolon, Cursor.skip, List.drop_succ_cons, List.drop_zero, hblanks, hvalue]
  rfl

mutual

/-- A value is read up to its end, in at most two steps for each of its characters. -/
theorem readValue_spelled : (j : Json) → j.IsExact → j.isWritable = true →
    ∀ (steps depth pos : Nat) (behind : List Char), EndsNumber behind → 2 * (spelled l depth j).length ≤ steps →
      ∃ after, readValue steps ⟨pos, spelled l depth j ++ behind⟩ = .ok (j, ⟨after, behind⟩)
  | j, h, _, 0, depth, pos, behind, _, hsteps => by
      -- there are steps enough, since a value is spelled with one character at least
      have := length_spelled_pos l depth h
      omega
  | .null, _, _, steps + 1, depth, pos, behind, _, _ => by
      rw [spelled]
      exact ⟨pos + 4, by simp [readValue, readAtom, wordValues, Cursor.skip]⟩
  | .bool true, _, _, steps + 1, depth, pos, behind, _, _ => by
      rw [spelled]
      exact ⟨pos + 4, by simp [readValue, readAtom, wordValues, Cursor.skip]⟩
  | .bool false, _, _, steps + 1, depth, pos, behind, _, _ => by
      rw [spelled]
      exact ⟨pos + 5, by simp [readValue, readAtom, wordValues, Cursor.skip]⟩
  | .number (.whole n), _, h, steps + 1, depth, pos, behind, hbehind, _ => by
      rw [spelled, writtenNumber]
      exact readValue_int steps pos h hbehind
  | .text s, _, _, steps + 1, depth, pos, behind, _, _ => by
      obtain ⟨after, h⟩ := readString_writtenString pos s behind
      refine ⟨after, ?_⟩
      rw [toList_writtenString, List.cons_append] at h
      rw [spelled, toList_writtenString, List.cons_append, readValue.eq_def]
      simp only [h]
      rfl
  | .list [], _, _, steps + 1, depth, pos, behind, _, _ => by
      refine ⟨pos + 1 + 1, ?_⟩
      have hblanks : (Cursor.mk (pos + 1) (']' :: behind)).skipBlanks = ⟨pos + 1, ']' :: behind⟩ :=
        skipBlanks_of_not_blank (by simp; decide)
      rw [spelled]
      simp [readValue, Cursor.skip, hblanks]
  | .list (j :: rest), h, hwritable, steps + 1, depth, pos, behind, _, hsteps => by
      rw [IsExact] at h
      rw [spelled, List.length_cons, List.length_append] at hsteps
      obtain ⟨c, cs, heq, hc⟩ := exists_spelledItems_eq_cons l depth (by simp) h
      -- one character, the bracket, has gone, and the items need no more steps than are left
      obtain ⟨after, hitems⟩ := readItems_spelled (j :: rest) (by simp) h hwritable steps depth
        (pos + 1 + (l.line (depth + 1)).length) behind (by omega)
      simp only [mayStart, Bool.and_eq_true, Bool.not_eq_true', bne_iff_ne] at hc
      have hblanks := skipBlanks_line l (pos + 1) (depth + 1) hc.1.1 (cs ++ behind)
      refine ⟨after, ?_⟩
      rw [heq, List.cons_append] at hitems
      rw [spelled, List.cons_append, List.append_assoc, heq, List.cons_append, readValue.eq_def]
      simp only [Cursor.skip, List.drop_succ_cons, List.drop_zero, hblanks]
      split
      · rename_i hbracket
        exact absurd (List.cons_eq_cons.mp hbracket).1 hc.1.2
      · rw [hitems]
        rfl
  | .object [], _, _, steps + 1, depth, pos, behind, _, _ => by
      refine ⟨pos + 1 + 1, ?_⟩
      have hblanks : (Cursor.mk (pos + 1) ('\x7d' :: behind)).skipBlanks = ⟨pos + 1, '\x7d' :: behind⟩ :=
        skipBlanks_of_not_blank (by simp; decide)
      rw [spelled]
      simp [readValue, Cursor.skip, hblanks]
  | .object (m :: rest), h, hwritable, steps + 1, depth, pos, behind, _, hsteps => by
      rw [IsExact] at h
      rw [spelled, List.length_cons, List.length_append] at hsteps
      obtain ⟨cs, heq⟩ := exists_spelledMembers_eq_cons l depth (List.cons_ne_nil m rest)
      -- so it is with the brace and the members; no name is there twice, so all of them are kept
      obtain ⟨after, hmembers⟩ := readMembers_spelled (m :: rest) (by simp) h.2 hwritable steps depth
        (pos + 1 + (l.line (depth + 1)).length) behind (by omega)
      have hblanks := skipBlanks_line l (pos + 1) (depth + 1) (c := '"') (by decide) (cs ++ behind)
      refine ⟨after, ?_⟩
      rw [heq, List.cons_append] at hmembers
      rw [spelled, List.cons_append, List.append_assoc, heq, List.cons_append, readValue.eq_def]
      simp only [Cursor.skip, List.drop_succ_cons, List.drop_zero, hblanks, hmembers, ok_bind,
        membersOf_of_nodup h.1]
      rfl

/-- The items of a list are read up to its closing bracket. -/
theorem readItems_spelled : (items : List Json) → items ≠ [] → AreExact items → (list items).isWritable = true →
    ∀ (steps depth pos : Nat) (behind : List Char), 2 * (spelledItems l depth items).length + 1 ≤ steps →
      ∃ after, readItems steps ⟨pos, spelledItems l depth items ++ behind⟩ = .ok (items, ⟨after, behind⟩)
  | [j], _, h, hwritable, steps + 1, depth, pos, behind, hsteps => by
      rw [isWritable_list_cons, Bool.and_eq_true] at hwritable
      rw [spelledItems, List.length_append] at hsteps
      obtain ⟨after, hvalue⟩ := readValue_spelled j h.1 hwritable.1 steps (depth + 1) pos _
        (endsNumber_line l depth behind (c := ']') (by decide)) (by omega)
      have hblanks := skipBlanks_line l after depth (c := ']') (by decide) behind
      refine ⟨after + (l.line depth).length + 1, ?_⟩
      rw [spelledItems, List.append_assoc, List.append_assoc, List.singleton_append, readItems, hvalue]
      simp only [ok_bind, hblanks, Cursor.skip, List.drop_succ_cons, List.drop_zero]
  | j :: k :: rest, _, h, hwritable, steps + 1, depth, pos, behind, hsteps => by
      rw [isWritable_list_cons, Bool.and_eq_true] at hwritable
      rw [spelledItems, List.length_append, List.length_cons, List.length_append] at hsteps
      obtain ⟨after, hvalue⟩ := readValue_spelled j h.1 hwritable.1 steps (depth + 1) pos
        (',' :: (l.line (depth + 1) ++ (spelledItems l depth (k :: rest) ++ behind)))
        (endsNumber_cons (by decide)) (by omega)
      obtain ⟨after', hitems⟩ := readItems_spelled (k :: rest) (by simp) h.2 hwritable.2 steps depth
        (after + 1 + (l.line (depth + 1)).length) behind (by omega)
      have hcomma : (Cursor.mk after
          (',' :: (l.line (depth + 1) ++ (spelledItems l depth (k :: rest) ++ behind)))).skipBlanks =
            ⟨after, ',' :: (l.line (depth + 1) ++ (spelledItems l depth (k :: rest) ++ behind))⟩ :=
        skipBlanks_of_not_blank (by simp; decide)
      obtain ⟨c, cs, heq, hc⟩ := exists_spelledItems_eq_cons l depth (List.cons_ne_nil k rest) h.2
      simp only [mayStart, Bool.and_eq_true, Bool.not_eq_true'] at hc
      have hblanks := skipBlanks_line l (after + 1) (depth + 1) hc.1.1 (cs ++ behind)
      rw [← List.cons_append, ← heq] at hblanks
      refine ⟨after', ?_⟩
      rw [spelledItems, List.append_assoc, List.cons_append, List.append_assoc, readItems, hvalue]
      simp only [ok_bind, hcomma, Cursor.skip, List.drop_succ_cons, List.drop_zero, hblanks, hitems]

/-- The members of an object are read up to its closing brace. -/
theorem readMembers_spelled : (members : List (String × Json)) → members ≠ [] → HoldExact members →
    (object members).isWritable = true → ∀ (steps depth pos : Nat) (behind : List Char),
      2 * (spelledMembers l depth members).length + 1 ≤ steps →
        ∃ after, readMembers steps ⟨pos, spelledMembers l depth members ++ behind⟩ =
          .ok (members, ⟨after, behind⟩)
  | [(name, j)], _, h, hwritable, steps + 1, depth, pos, behind, hsteps => by
      rw [isWritable_object_cons, Bool.and_eq_true] at hwritable
      rw [spelledMembers, List.length_append, List.length_cons, List.length_append, List.length_append]
        at hsteps
      obtain ⟨after, hmember⟩ := readMembers_member l pos name h.1 (fun pos =>
        readValue_spelled j h.1 hwritable.1 steps (depth + 1) pos _
          (endsNumber_line l depth behind (c := '\x7d') (by decide)) (by omega))
      have hblanks := skipBlanks_line l after depth (c := '\x7d') (by decide) behind
      refine ⟨after + (l.line depth).length + 1, ?_⟩
      simp only [spelledMembers, List.append_assoc, List.cons_append, List.nil_append, hmember, behindMember,
        hblanks, Cursor.skip, List.drop_succ_cons, List.drop_zero]
  | (name, j) :: m :: rest, _, h, hwritable, steps + 1, depth, pos, behind, hsteps => by
      rw [isWritable_object_cons, Bool.and_eq_true] at hwritable
      simp only [spelledMembers, List.length_append, List.length_cons] at hsteps
      obtain ⟨after, hmember⟩ := readMembers_member l pos name h.1 (fun pos =>
        readValue_spelled j h.1 hwritable.1 steps (depth + 1) pos
          (',' :: (l.line (depth + 1) ++ (spelledMembers l depth (m :: rest) ++ behind)))
          (endsNumber_cons (by decide)) (by omega))
      obtain ⟨after', hmembers⟩ := readMembers_spelled (m :: rest) (by simp) h.2 hwritable.2 steps depth
        (after + 1 + (l.line (depth + 1)).length) behind (by omega)
      have hcomma : (Cursor.mk after
          (',' :: (l.line (depth + 1) ++ (spelledMembers l depth (m :: rest) ++ behind)))).skipBlanks =
            ⟨after, ',' :: (l.line (depth + 1) ++ (spelledMembers l depth (m :: rest) ++ behind))⟩ :=
        skipBlanks_of_not_blank (by simp; decide)
      obtain ⟨cs, heq⟩ := exists_spelledMembers_eq_cons l depth (List.cons_ne_nil m rest)
      have hblanks := skipBlanks_line l (after + 1) (depth + 1) (c := '"') (by decide) (cs ++ behind)
      rw [← List.cons_append, ← heq] at hblanks
      refine ⟨after', ?_⟩
      simp only [spelledMembers, List.append_assoc, List.cons_append, hmember, behindMember, hcomma, Cursor.skip,
        List.drop_succ_cons, List.drop_zero, hblanks, hmembers, ok_bind]

end

/-- A text that is a value, with nothing but blanks behind it, is read as that value. -/
theorem ofChars_spelled_append {j : Json} (h : j.IsExact) (hwritable : j.isWritable = true) {blanks : List Char}
    (hblanks : ∀ c ∈ blanks, isJsonBlank c = true) : ofChars (spelled l 0 j ++ blanks) = .ok j := by
  obtain ⟨c, cs, heq, hc⟩ := exists_spelled_eq_cons l 0 h
  simp only [mayStart, Bool.and_eq_true, Bool.not_eq_true', bne_iff_ne] at hc
  -- behind the value come blanks and the end, so a number would end there
  have hbehind : EndsNumber blanks := by
    rw [← List.append_nil blanks]
    exact endsNumber_blanks_append hblanks (by simp [EndsNumber])
  obtain ⟨after, hvalue⟩ :=
    readValue_spelled l j h hwritable (2 * (spelled l 0 j ++ blanks).length + 2) 0 0 blanks hbehind
      (by simp only [List.length_append]; omega)
  -- no blank stands in front of the value, and no mark
  have hstart : (Cursor.mk 0 (spelled l 0 j ++ blanks)).skipBlanks = ⟨0, spelled l 0 j ++ blanks⟩ :=
    skipBlanks_of_not_blank (by simpa [heq] using hc.1.1)
  have hend : (Cursor.mk after (blanks ++ [])).skipBlanks = ⟨after + blanks.length, []⟩ :=
    skipBlanks_append hblanks (by simp)
  rw [List.append_nil] at hend
  have hread : readDocument (spelled l 0 j ++ blanks) = .ok j := by
    rw [readDocument.eq_def]
    split
    · rename_i hmark
      rw [heq] at hmark
      exact absurd (List.cons_eq_cons.mp hmark).1 hc.2
    · simp only [hstart, hvalue, ok_bind, hend, List.isEmpty_nil, if_true]
  rw [ofChars, hread, Except.mapError]

end Values

/-- The compact text of a value is read as that value. -/
theorem ofChars_compact {j : Json} (h : j.IsExact) (hwritable : j.isWritable = true) :
    ofChars j.compact.toList = .ok j := by
  rw [toList_compact 0 j, ← List.append_nil (spelled .tight 0 j)]
  exact ofChars_spelled_append .tight h hwritable (List.forall_mem_nil _)

/-- The indented text of a value, on lines of its own, is read as that value. -/
theorem ofChars_indented {j : Json} (h : j.IsExact) (hwritable : j.isWritable = true) :
    ofChars (j.indented 0 ++ "\n").toList = .ok j := by
  rw [String.toList_append, toList_indented 0 j]
  exact ofChars_spelled_append .lined h hwritable (by simp [isJsonBlank])

end BodyLength.Json
