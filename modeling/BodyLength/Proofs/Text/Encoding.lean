import BodyLength.Proofs.Outcome
import BodyLength.Text.Utf8

/-!
# Which bytes are a text

The decoder reads byte by byte and the encoder writes character by character. Here the one is shown to be the
inverse of the other, so that every question about which bytes the decoder accepts is a question about encodings.

* `encodeChar_of_step`, `step_of_encodeChar`: one step reads a character if its bytes come first, and only then.
* `run_eq_ok_iff`: a run reads the characters whose bytes come first, and keeps back the beginning of one more.
* `decode_eq_ok_iff`: a whole text is accepted exactly if its bytes are the encoding of the characters.
* `decodePieces_eq_ok_iff`: so is a text that arrives in pieces, wherever it is cut.
-/

namespace BodyLength

/-- The code of the character with a code is the code, if it is one. -/
theorem toNat_ofNat_of_isValidChar {n : Nat} (h : n.isValidChar) : (Char.ofNat n).toNat = n := by
  unfold Char.ofNat
  rw [dif_pos h]
  rfl

namespace Utf8

/-! ## Bytes as numbers

The decoder tells bytes apart by comparing them and takes their payload by masks. As numbers both are linear: ranges,
and remainders by powers of two. -/

/-- The bytes that may stand behind the first of a character, by their numbers. -/
theorem isContinuation_iff {b : UInt8} : isContinuation b = true ↔ 0x80 ≤ b.toNat ∧ b.toNat < 0xC0 := by
  simp [isContinuation, UInt8.lt_iff_toNat_lt, UInt8.le_iff_toNat_le]

/-- The second byte of three is a continuation that keeps the code out of what two bytes can say, and out of the
surrogates. -/
theorem isSecondOfThree_iff {first second : UInt8} :
    isSecondOfThree first second = true ↔
      0x80 ≤ second.toNat ∧ second.toNat < 0xC0 ∧
        (first.toNat = 0xE0 → 0xA0 ≤ second.toNat) ∧ (first.toNat = 0xED → second.toNat < 0xA0) := by
  simp only [isSecondOfThree, Bool.and_eq_true, isContinuation_iff, ← UInt8.toNat_inj]
  by_cases hlow : first.toNat = 0xE0
  · simp [hlow, UInt8.le_iff_toNat_le]
    omega
  · by_cases hhigh : first.toNat = 0xED
    · simp [hhigh, UInt8.lt_iff_toNat_lt]
      omega
    · simp [hlow, hhigh]

/-- The second byte of four is a continuation that keeps the code out of what three bytes can say, and below the last
code that there is. -/
theorem isSecondOfFour_iff {first second : UInt8} :
    isSecondOfFour first second = true ↔
      0x80 ≤ second.toNat ∧ second.toNat < 0xC0 ∧
        (first.toNat = 0xF0 → 0x90 ≤ second.toNat) ∧ (first.toNat = 0xF4 → second.toNat < 0x90) := by
  simp only [isSecondOfFour, Bool.and_eq_true, isContinuation_iff, ← UInt8.toNat_inj]
  by_cases hlow : first.toNat = 0xF0
  · simp [hlow, UInt8.le_iff_toNat_le]
    omega
  · by_cases hhigh : first.toNat = 0xF4
    · simp [hhigh, UInt8.lt_iff_toNat_lt]
      omega
    · simp [hlow, hhigh]

/-- The payload of a byte is a remainder: the masks are those of the low bits. -/
theorem payload_eq_mod (b : UInt8) :
    payload b 0x1F = b.toNat % 32 ∧ payload b 0x0F = b.toNat % 16 ∧ payload b 0x07 = b.toNat % 8 ∧
      payload b 0x3F = b.toNat % 64 :=
  ⟨(UInt8.toNat_and _ _).trans (Nat.and_two_pow_sub_one_eq_mod _ 5),
    (UInt8.toNat_and _ _).trans (Nat.and_two_pow_sub_one_eq_mod _ 4),
    (UInt8.toNat_and _ _).trans (Nat.and_two_pow_sub_one_eq_mod _ 3),
    (UInt8.toNat_and _ _).trans (Nat.and_two_pow_sub_one_eq_mod _ 6)⟩

/-! ## One character

A character has one to four bytes, depending on its number. Here the four cases are gone through in both directions.
From a character to its bytes they are told by the number; from bytes to a character, by the first byte. The ranges of
the second byte are what keeps a character from being read of more bytes than it is written with. -/

/-- The bytes of a character, by their number: each byte lies in its range, and their payloads make up the code
point. -/
theorem encodeChar_cases (c : Char) :
    (∃ b, encodeChar c = [b] ∧ b.toNat < 0x80 ∧ c.toNat = b.toNat) ∨
    (∃ first second, encodeChar c = [first, second] ∧ 0xC2 ≤ first.toNat ∧ first.toNat < 0xE0 ∧
      isContinuation second = true ∧ c.toNat = payload first 0x1F * 64 + payload second 0x3F) ∨
    (∃ first second third, encodeChar c = [first, second, third] ∧
      0xE0 ≤ first.toNat ∧ first.toNat < 0xF0 ∧
      isSecondOfThree first second = true ∧ isContinuation third = true ∧
      c.toNat = payload first 0x0F * 4096 + payload second 0x3F * 64 + payload third 0x3F) ∨
    (∃ first second third fourth, encodeChar c = [first, second, third, fourth] ∧
      0xF0 ≤ first.toNat ∧ first.toNat < 0xF5 ∧
      isSecondOfFour first second = true ∧ isContinuation third = true ∧ isContinuation fourth = true ∧
      c.toNat = payload first 0x07 * 262144 + payload second 0x3F * 4096 + payload third 0x3F * 64 +
        payload fourth 0x3F) := by
  have hvalid : c.toNat.isValidChar := c.valid
  simp only [isContinuation_iff, isSecondOfThree_iff, isSecondOfFour_iff, payload_eq_mod]
  by_cases h1 : c.toNat < 0x80
  · refine Or.inl ⟨c.toNat.toUInt8, ?_, ?_, ?_⟩
    · simp [encodeChar, h1]
    · simp
      omega
    · simp
      omega
  · by_cases h2 : c.toNat < 0x800
    · refine Or.inr (Or.inl ⟨(0xC0 + c.toNat / 64).toUInt8, (0x80 + c.toNat % 64).toUInt8, ?_, ?_⟩)
      · simp [encodeChar, h1, h2]
      · simp
        omega
    · by_cases h3 : c.toNat < 0x10000
      · refine Or.inr (Or.inr (Or.inl ⟨(0xE0 + c.toNat / 4096).toUInt8,
          (0x80 + c.toNat / 64 % 64).toUInt8, (0x80 + c.toNat % 64).toUInt8, ?_, ?_⟩))
        · simp [encodeChar, h1, h2, h3]
        · simp
          omega
      · refine Or.inr (Or.inr (Or.inr ⟨(0xF0 + c.toNat / 262144).toUInt8,
          (0x80 + c.toNat / 4096 % 64).toUInt8, (0x80 + c.toNat / 64 % 64).toUInt8,
          (0x80 + c.toNat % 64).toUInt8, ?_, ?_⟩))
        · simp [encodeChar, h1, h2, h3]
        · simp
          omega

/-- Every character takes a byte at least. -/
theorem encodeChar_ne_nil (c : Char) : encodeChar c ≠ [] := by
  rcases encodeChar_cases c with ⟨_, h, -⟩ | ⟨_, _, h, -⟩ | ⟨_, _, _, h, -⟩ | ⟨_, _, _, _, h, -⟩ <;> simp [h]

section Step

variable {first second third fourth : UInt8} {rest : List UInt8}

/-- A byte below 128 is a character by itself. -/
theorem step_one (h : first.toNat < 0x80) : step first rest = .char (Char.ofNat first.toNat) 1 := by
  rw [step.eq_def, if_pos (by simpa [UInt8.lt_iff_toNat_lt] using h)]

/-- What comes of a first byte that asks for one continuation. -/
theorem step_two (hlow : 0xC2 ≤ first.toNat) (hhigh : first.toNat < 0xE0) :
    step first rest = match rest with
      | [] => .cut
      | second :: _ =>
        if !isContinuation second then .bad 1 .continuationByte
        else .char (Char.ofNat (payload first 0x1F * 64 + payload second 0x3F)) 2 := by
  simp only [step, UInt8.lt_iff_toNat_lt, UInt8.reduceToNat]
  rw [if_neg (by omega), if_neg (by omega)]
  refine (if_pos hhigh).trans ?_
  cases rest <;> rfl

/-- What comes of a first byte that asks for two. -/
theorem step_three (hlow : 0xE0 ≤ first.toNat) (hhigh : first.toNat < 0xF0) :
    step first rest = stepThree first rest := by
  simp only [step, UInt8.lt_iff_toNat_lt, UInt8.reduceToNat]
  rw [if_neg (by omega), if_neg (by omega), if_neg (by omega), if_pos hhigh]

/-- What comes of a first byte that asks for three. -/
theorem step_four (hlow : 0xF0 ≤ first.toNat) (hhigh : first.toNat < 0xF5) :
    step first rest = stepFour first rest := by
  simp only [step, UInt8.lt_iff_toNat_lt, UInt8.reduceToNat]
  rw [if_neg (by omega), if_neg (by omega), if_neg (by omega), if_neg (by omega), if_pos hhigh]

end Step

/-- A step reads a character whose bytes come first. -/
theorem step_of_encodeChar {c : Char} {b : UInt8} {tail : List UInt8} (h : encodeChar c = b :: tail)
    (rest : List UInt8) : step b (tail ++ rest) = .char c (tail.length + 1) := by
  rcases encodeChar_cases c with ⟨first, heq, hb, hc⟩ | ⟨first, second, heq, hlow, hhigh, hsecond, hc⟩ |
    ⟨first, second, third, heq, hlow, hhigh, hsecond, hthird, hc⟩ |
    ⟨first, second, third, fourth, heq, hlow, hhigh, hsecond, hthird, hfourth, hc⟩
  all_goals
    rw [h, List.cons_eq_cons] at heq
    obtain ⟨rfl, rfl⟩ := heq
  · rw [step_one hb, ← hc, Char.ofNat_toNat]
    rfl
  · rw [step_two hlow hhigh]
    simp [hsecond, ← hc]
  · rw [step_three hlow hhigh]
    simp [stepThree, hsecond, hthird, ← hc]
  · rw [step_four hlow hhigh]
    simp [stepFour, hsecond, hthird, hfourth, ← hc]

/-- A step stops in the middle of a character whose bytes are cut. -/
theorem step_of_cut_encodeChar {c : Char} {b x : UInt8} {front back : List UInt8}
    (h : encodeChar c = b :: front ++ x :: back) : step b front = .cut := by
  rcases encodeChar_cases c with ⟨first, heq, hb, hc⟩ | ⟨first, second, heq, hlow, hhigh, hsecond, hc⟩ |
    ⟨first, second, third, heq, hlow, hhigh, hsecond, hthird, hc⟩ |
    ⟨first, second, third, fourth, heq, hlow, hhigh, hsecond, hthird, hfourth, hc⟩
  all_goals
    rw [h, List.cons_append, List.cons_eq_cons] at heq
    obtain ⟨rfl, heq⟩ := heq
  · simp at heq
  · rw [step_two hlow hhigh]
    match front, heq with
    | [], _ => rfl
    | [_], heq => simp at heq
  · rw [step_three hlow hhigh]
    match front, heq with
    | [], _ => rfl
    | [_], heq => simp_all [stepThree]
    | [_, _], heq => simp at heq
  · rw [step_four hlow hhigh]
    match front, heq with
    | [], _ => rfl
    | [_], heq => simp_all [stepFour]
    | [_, _], heq => simp_all [stepFour]
    | [_, _, _], heq => simp at heq

/-- The bytes that a code point of two, three or four bytes is put together from are its encoding. -/
theorem encodeChar_ofNat_two {first second : UInt8} (hlow : 0xC2 ≤ first.toNat) (hhigh : first.toNat < 0xE0)
    (hsecond : isContinuation second = true) :
    encodeChar (Char.ofNat (payload first 0x1F * 64 + payload second 0x3F)) = [first, second] := by
  rw [isContinuation_iff] at hsecond
  simp only [payload_eq_mod]
  have hn : (Char.ofNat (first.toNat % 32 * 64 + second.toNat % 64)).toNat =
      first.toNat % 32 * 64 + second.toNat % 64 :=
    toNat_ofNat_of_isValidChar (by omega)
  simp only [encodeChar, hn]
  rw [if_neg (by omega), if_pos (by omega)]
  simp only [List.cons.injEq, ← UInt8.toNat_inj, and_true]
  simp
  omega

/-- The character that is read of three bytes is encoded in these. -/
theorem encodeChar_ofNat_three {first second third : UInt8} (hlow : 0xE0 ≤ first.toNat)
    (hhigh : first.toNat < 0xF0) (hsecond : isSecondOfThree first second = true)
    (hthird : isContinuation third = true) :
    encodeChar (Char.ofNat
      (payload first 0x0F * 4096 + payload second 0x3F * 64 + payload third 0x3F)) =
        [first, second, third] := by
  rw [isContinuation_iff] at hthird
  rw [isSecondOfThree_iff] at hsecond
  simp only [payload_eq_mod]
  have hn : (Char.ofNat (first.toNat % 16 * 4096 + second.toNat % 64 * 64 + third.toNat % 64)).toNat =
      first.toNat % 16 * 4096 + second.toNat % 64 * 64 + third.toNat % 64 :=
    toNat_ofNat_of_isValidChar (by omega)
  simp only [encodeChar, hn]
  rw [if_neg (by omega), if_neg (by omega), if_pos (by omega)]
  simp only [List.cons.injEq, ← UInt8.toNat_inj, and_true]
  simp
  omega

/-- The character that is read of four bytes is encoded in these. -/
theorem encodeChar_ofNat_four {first second third fourth : UInt8} (hlow : 0xF0 ≤ first.toNat)
    (hhigh : first.toNat < 0xF5) (hsecond : isSecondOfFour first second = true)
    (hthird : isContinuation third = true) (hfourth : isContinuation fourth = true) :
    encodeChar (Char.ofNat
      (payload first 0x07 * 262144 + payload second 0x3F * 4096 + payload third 0x3F * 64 +
        payload fourth 0x3F)) = [first, second, third, fourth] := by
  rw [isContinuation_iff] at hthird hfourth
  rw [isSecondOfFour_iff] at hsecond
  simp only [payload_eq_mod]
  have hn : (Char.ofNat (first.toNat % 8 * 262144 + second.toNat % 64 * 4096 + third.toNat % 64 * 64 +
      fourth.toNat % 64)).toNat =
      first.toNat % 8 * 262144 + second.toNat % 64 * 4096 + third.toNat % 64 * 64 + fourth.toNat % 64 :=
    toNat_ofNat_of_isValidChar (by omega)
  simp only [encodeChar, hn]
  rw [if_neg (by omega), if_neg (by omega), if_neg (by omega)]
  simp only [List.cons.injEq, ← UInt8.toNat_inj, and_true]
  simp
  omega

/-- What the bytes behind the first one of a character of three bytes are. -/
theorem stepThree_eq_char {c : Char} {first : UInt8} {rest : List UInt8} {size : Nat}
    (h : stepThree first rest = .char c size) :
    ∃ second third after, rest = second :: third :: after ∧ isSecondOfThree first second = true ∧
      isContinuation third = true ∧ size = 3 ∧
      c = Char.ofNat (payload first 0x0F * 4096 + payload second 0x3F * 64 + payload third 0x3F) := by
  match rest, h with
  | [], h => simp [stepThree] at h
  | [second], h =>
      simp only [stepThree] at h
      split at h <;> cases h
  | second :: third :: after, h =>
      simp only [stepThree] at h
      by_cases hsecond : isSecondOfThree first second = true
      · by_cases hthird : isContinuation third = true
        · simp only [hsecond, hthird, Bool.not_true, Bool.false_eq_true, if_false, Step.char.injEq] at h
          exact ⟨second, third, after, rfl, hsecond, hthird, h.2.symm, h.1.symm⟩
        · simp [hsecond, hthird] at h
      · simp [hsecond] at h

/-- What the bytes behind the first one of a character of four bytes are. -/
theorem stepFour_eq_char {c : Char} {first : UInt8} {rest : List UInt8} {size : Nat}
    (h : stepFour first rest = .char c size) :
    ∃ second third fourth after, rest = second :: third :: fourth :: after ∧
      isSecondOfFour first second = true ∧ isContinuation third = true ∧ isContinuation fourth = true ∧
      size = 4 ∧
      c = Char.ofNat (payload first 0x07 * 262144 + payload second 0x3F * 4096 + payload third 0x3F * 64 +
        payload fourth 0x3F) := by
  match rest, h with
  | [], h => simp [stepFour] at h
  | [second], h =>
      simp only [stepFour] at h
      split at h <;> cases h
  | [second, third], h =>
      simp only [stepFour] at h
      split at h
      · cases h
      · split at h <;> cases h
  | second :: third :: fourth :: after, h =>
      simp only [stepFour] at h
      by_cases hsecond : isSecondOfFour first second = true
      · by_cases hthird : isContinuation third = true
        · by_cases hfourth : isContinuation fourth = true
          · simp only [hsecond, hthird, hfourth, Bool.not_true, Bool.false_eq_true, if_false,
              Step.char.injEq] at h
            exact ⟨second, third, fourth, after, rfl, hsecond, hthird, hfourth, h.2.symm, h.1.symm⟩
          · simp [hsecond, hthird, hfourth] at h
        · simp [hsecond, hthird] at h
      · simp [hsecond] at h

/-- A step reads nothing but characters whose bytes come first. -/
theorem encodeChar_of_step {c : Char} {b : UInt8} {rest : List UInt8} {size : Nat}
    (h : step b rest = .char c size) :
    ∃ tail after, rest = tail ++ after ∧ encodeChar c = b :: tail ∧ size = tail.length + 1 := by
  by_cases h1 : b.toNat < 0x80
  · rw [step_one h1] at h
    cases h
    have hn : (Char.ofNat b.toNat).toNat = b.toNat := toNat_ofNat_of_isValidChar (by omega)
    exact ⟨[], rest, rfl, by simp [encodeChar, hn, h1], rfl⟩
  by_cases h2 : b.toNat < 0xC2
  · simp [step.eq_def, UInt8.lt_iff_toNat_lt, h1, h2] at h
  by_cases h3 : b.toNat < 0xE0
  · rw [step_two (by omega) h3] at h
    split at h
    · cases h
    · rename_i second after
      by_cases hsecond : isContinuation second = true
      · simp only [hsecond, Bool.not_true, Bool.false_eq_true, if_false, Step.char.injEq] at h
        obtain ⟨rfl, rfl⟩ := h
        exact ⟨[second], after, rfl, encodeChar_ofNat_two (by omega) h3 hsecond, rfl⟩
      · simp [hsecond] at h
  by_cases h4 : b.toNat < 0xF0
  · rw [step_three (by omega) h4] at h
    obtain ⟨second, third, after, rfl, hsecond, hthird, rfl, rfl⟩ := stepThree_eq_char h
    exact ⟨[second, third], after, rfl, encodeChar_ofNat_three (by omega) h4 hsecond hthird, rfl⟩
  by_cases h5 : b.toNat < 0xF5
  · rw [step_four (by omega) h5] at h
    obtain ⟨second, third, fourth, after, rfl, hsecond, hthird, hfourth, rfl, rfl⟩ := stepFour_eq_char h
    exact ⟨[second, third, fourth], after, rfl,
      encodeChar_ofNat_four (by omega) h5 hsecond hthird hfourth, rfl⟩
  · simp [step.eq_def, UInt8.lt_iff_toNat_lt, h1, h2, h3, h4, h5] at h

/-! ## Runs

A run reads one character after the other and stops in front of bytes that may be the beginning of another one. The
induction is on the number of bytes, and each step is one of the cases of a single character. -/

/-- Are the bytes the beginning of a character, or none at all? -/
def IsCut : List UInt8 → Prop
  | [] => True
  | b :: rest => step b rest = .cut

/-- A text is encoded character by character. -/
theorem encode_cons (c : Char) (cs : List Char) : encode (c :: cs) = encodeChar c ++ encode cs :=
  List.flatMap_cons

/-- Two texts are encoded one behind the other. -/
theorem encode_append (front back : List Char) : encode (front ++ back) = encode front ++ encode back :=
  List.flatMap_append

/-- A run leaves out the bytes of the character that was read last. -/
theorem run_skip (pos : Nat) (front back : List UInt8) :
    run pos front.length (front ++ back) = run (pos + front.length) 0 back := by
  induction front generalizing pos with
  | nil => rfl
  | cons b rest ih =>
      rw [List.length_cons, List.cons_append, run, ih]
      congr 1
      omega

/-- A run reads the characters whose bytes come first, and keeps back what may be the beginning of one more. -/
theorem run_eq_ok_iff {pos : Nat} {bytes kept : List UInt8} {cs : List Char} :
    run pos 0 bytes = .ok (cs, kept) ↔ bytes = encode cs ++ kept ∧ IsCut kept := by
  constructor
  · intro h
    induction hn : bytes.length using Nat.strongRecOn generalizing pos bytes cs with
    | ind n ih =>
      subst hn
      match bytes, h with
      | [], h =>
          rw [run] at h
          cases h
          exact ⟨rfl, trivial⟩
      | b :: rest, h =>
          rw [run] at h
          split at h
          · rename_i c size hstep
            obtain ⟨tail, after, rfl, hc, rfl⟩ := encodeChar_of_step hstep
            rw [Nat.add_sub_cancel, run_skip, bind_eq_ok_iff] at h
            obtain ⟨⟨more, kept'⟩, hrun, heq⟩ := h
            cases heq
            have hshorter : after.length < (b :: (tail ++ after)).length := by
              rw [List.length_cons, List.length_append]
              omega
            obtain ⟨rfl, hcut⟩ := ih after.length hshorter hrun rfl
            refine ⟨?_, hcut⟩
            rw [encode_cons, hc]
            simp
          · cases h
          · rename_i hstep
            cases h
            exact ⟨rfl, hstep⟩
  · rintro ⟨rfl, hcut⟩
    induction cs generalizing pos with
    | nil =>
        match kept, hcut with
        | [], _ => rfl
        | b :: rest, hcut =>
            rw [IsCut] at hcut
            simp only [encode, List.flatMap_nil, List.nil_append, run, hcut]
    | cons c cs ih =>
        obtain ⟨b, tail, hc⟩ := List.exists_cons_of_ne_nil (encodeChar_ne_nil c)
        rw [encode_cons, hc, List.cons_append, List.cons_append, run, List.append_assoc]
        rw [step_of_encodeChar hc]
        simp only [Nat.add_sub_cancel]
        rw [run_skip, ih]
        rfl

/-! ## Whole texts

At the end of the data there is no more to come, so a beginning of a character is a mistake there. What is accepted is
the encoding of a text, then, and of one text only. -/

/-- The end of the data is in order exactly if no bytes are left over. -/
theorem endOfData_eq_ok_iff {pos : Nat} {bytes : List UInt8} {cs : List Char} :
    endOfData pos bytes = .ok cs ↔ bytes = [] ∧ cs = [] := by
  cases bytes with
  | nil => simp [endOfData, eq_comm]
  | cons b rest => simp [endOfData]

/-- The bytes of a text are accepted, and nothing else is. -/
theorem decode_eq_ok_iff {bytes : List UInt8} {cs : List Char} :
    decode bytes = .ok cs ↔ bytes = encode cs := by
  unfold decode
  rw [bind_eq_ok_iff]
  constructor
  · rintro ⟨⟨front, kept⟩, hrun, h⟩
    obtain ⟨hbytes, -⟩ := run_eq_ok_iff.mp hrun
    obtain ⟨tail, htail, heq⟩ := bind_eq_ok_iff.mp h
    obtain ⟨rfl, rfl⟩ := endOfData_eq_ok_iff.mp htail
    cases heq
    simpa using hbytes
  · rintro rfl
    refine ⟨(cs, []), run_eq_ok_iff.mpr ⟨by simp, trivial⟩, ?_⟩
    simp [endOfData]

/-- What a text is decoded to encodes to it. -/
theorem decode_encode (cs : List Char) : decode (encode cs) = .ok cs :=
  decode_eq_ok_iff.mpr rfl

/-- Texts with the same bytes are the same. -/
theorem encode_injective {cs cs' : List Char} (h : encode cs = encode cs') : cs = cs' := by
  have hdecode := decode_encode cs
  rw [h, decode_encode] at hdecode
  exact (Except.ok.inj hdecode).symm

/-! ## Texts in pieces

Where the bytes of a text are cut, a character may be cut as well. Its first bytes are kept back and put in front of
the next piece. So what is accepted does not depend on where the text is cut. -/

/-- Bytes that are cut anywhere are some characters and the beginning of one more. -/
theorem exists_encode_of_append_eq {front back : List UInt8} {cs : List Char}
    (h : front ++ back = encode cs) :
    ∃ first second kept, cs = first ++ second ∧ front = encode first ++ kept ∧
      kept ++ back = encode second ∧ IsCut kept := by
  induction cs generalizing front with
  | nil =>
      obtain ⟨rfl, rfl⟩ := List.append_eq_nil_iff.mp h
      exact ⟨[], [], [], rfl, rfl, rfl, trivial⟩
  | cons c cs ih =>
      rw [encode_cons, List.append_eq_append_iff] at h
      rcases h with ⟨middle, hc, hback⟩ | ⟨middle, hfront, hcs⟩
      · -- the cut is within the character, or right before or behind it
        match front, middle, hc with
        | [], middle, hc =>
            refine ⟨[], c :: cs, [], rfl, rfl, ?_, trivial⟩
            rw [encode_cons, hc, hback]
            rfl
        | b :: tail, [], hc =>
            refine ⟨[c], cs, [], rfl, ?_, by simpa using hback, trivial⟩
            rw [encode_cons, hc]
            simp [encode]
        | b :: tail, x :: after, hc =>
            refine ⟨[], c :: cs, b :: tail, rfl, rfl, ?_, step_of_cut_encodeChar hc⟩
            rw [encode_cons, hc, hback, List.append_assoc]
      · obtain ⟨first, second, kept, rfl, hmiddle, hkept, hcut⟩ := ih hcs.symm
        refine ⟨c :: first, second, kept, rfl, ?_, hkept, hcut⟩
        rw [hfront, hmiddle, encode_cons, List.append_assoc]

/-- The beginning of a character is not a text. -/
theorem eq_nil_of_isCut_encode {cs : List Char} (h : IsCut (encode cs)) : cs = [] := by
  cases cs with
  | nil => rfl
  | cons c rest =>
      obtain ⟨b, tail, hc⟩ := List.exists_cons_of_ne_nil (encodeChar_ne_nil c)
      rw [encode_cons, hc, List.cons_append, IsCut, step_of_encodeChar hc] at h
      cases h

/-- Reading piece after piece, with the beginning of a character kept back, accepts the rest of a text. -/
theorem runPieces_eq_ok_iff {size : Nat} (hsize : 0 < size) {pieces : Nat} {kept bytes : List UInt8}
    {cs : List Char} (hkept : IsCut kept) (hpieces : bytes.length < pieces) :
    runPieces size pieces kept bytes = .ok cs ↔ kept ++ bytes = encode cs := by
  induction pieces generalizing kept bytes cs with
  | zero => omega
  | succ pieces ih =>
      rw [runPieces]
      cases bytes with
      | nil =>
          rw [List.isEmpty_nil, if_pos rfl, endOfData_eq_ok_iff, List.append_nil]
          constructor
          · rintro ⟨rfl, rfl⟩
            rfl
          · rintro rfl
            have hcs := eq_nil_of_isCut_encode hkept
            exact ⟨by simp [hcs, encode], hcs⟩
      | cons b rest =>
          have hshorter : ((b :: rest).drop size).length < pieces := by
            simp only [List.length_drop, List.length_cons] at hpieces ⊢
            omega
          rw [List.isEmpty_cons, if_neg (by simp), bind_eq_ok_iff]
          have hsplit : kept ++ b :: rest = (kept ++ (b :: rest).take size) ++ (b :: rest).drop size := by
            rw [List.append_assoc, List.take_append_drop]
          rw [hsplit]
          constructor
          · rintro ⟨⟨first, kept'⟩, hrun, h⟩
            obtain ⟨hfirst, hcut⟩ := run_eq_ok_iff.mp hrun
            obtain ⟨second, hsecond, heq⟩ := bind_eq_ok_iff.mp h
            cases heq
            rw [hfirst, List.append_assoc, (ih hcut hshorter).mp hsecond, encode_append]
          · intro h
            obtain ⟨first, second, kept', rfl, hfirst, hsecond, hcut⟩ := exists_encode_of_append_eq h
            refine ⟨(first, kept'), run_eq_ok_iff.mpr ⟨hfirst, hcut⟩, ?_⟩
            simp only
            rw [(ih hcut hshorter).mpr hsecond]
            rfl

/-- A text that arrives in pieces is accepted if it is the encoding of characters, whatever the size of the
pieces. -/
theorem decodePieces_eq_ok_iff {size : Nat} (hsize : 0 < size) {bytes : List UInt8} {cs : List Char} :
    decodePieces size bytes = .ok cs ↔ bytes = encode cs :=
  runPieces_eq_ok_iff hsize trivial (Nat.lt_succ_self _)

end Utf8

end BodyLength
