import BodyLength.Lint.Frontend
import BodyLength.Proofs.Text.Encoding
import BodyLength.Proofs.Text.LineAgreement

/-!
# Source code as read

Three encodings are tried on the bytes of source code, one after the other: UTF-8 behind a byte order mark, UTF-8, and
the encoding of one byte a character, in which everything is some text. So something is always read. Whether it says
what the bytes say is another question. It does with two exceptions: the first encoding waits for the rest of a mark, so
bytes that end within the mark are a text of no characters to it, and the others are not asked.

* `SourceEncoding.findSome?_decode?`: the first encoding that bytes are in gives their text, and there is one.
* `KeepsBytes`: does a text say what bytes say? Encoding it gives them back, without a mark if they are UTF-8.
* `filter_sourceText`: no ending of a line is lost or changed.
* `sourceText_keeps_bytes_iff`: what is read says what the bytes say exactly if they are not a mark that is cut short.
-/

namespace BodyLength

/-! ## Encodings in turn -/

/-- How source code may be encoded. -/
inductive SourceEncoding where
  /-- In UTF-8 with a byte order mark or without one. -/
  | markedUtf8
  /-- In UTF-8, a byte order mark being a character. -/
  | plainUtf8
  /-- With one byte for each character. -/
  | latin
deriving DecidableEq, Repr

namespace SourceEncoding

/-- The encodings in the order in which they are tried. -/
def inTurn : List SourceEncoding :=
  [markedUtf8, plainUtf8, latin]

/-- The text of bytes that are in an encoding. As long as the bytes may be the beginning of a mark, the first encoding
gives nothing of them, and it gives nothing more when they end there. -/
def decode? (bytes : List UInt8) : SourceEncoding → Option (List Char)
  | markedUtf8 => if endsWithinMark bytes then some [] else (Utf8.decode (withoutMark bytes)).toOption
  | plainUtf8 => (Utf8.decode bytes).toOption
  | latin => some (decodeLatin bytes)

end SourceEncoding

/-- The mark is a character like any other, the one with the code FEFF. -/
theorem byteOrderMark_eq : byteOrderMark = Utf8.encode ['\uFEFF'] := rfl

/-- A mark is a character: what is UTF-8 with it is UTF-8 without it. -/
theorem exists_withoutMark_eq_encode {cs : List Char} : ∃ cs', withoutMark (Utf8.encode cs) = Utf8.encode cs' := by
  unfold withoutMark
  split
  · next hmark =>
      have hsplit : byteOrderMark ++ (Utf8.encode cs).drop byteOrderMark.length = Utf8.encode cs := by
        nth_rewrite 1 [← hmark]
        exact List.take_append_drop _ _
      obtain ⟨first, second, kept, -, hfirst, hsecond, hcut⟩ := Utf8.exists_encode_of_append_eq hsplit
      -- the mark is read as one character, with nothing kept back
      have hrun : Utf8.run 0 0 byteOrderMark = .ok (first, kept) := Utf8.run_eq_ok_iff.mpr ⟨hfirst, hcut⟩
      have hone : Utf8.run 0 0 byteOrderMark = .ok (['\uFEFF'], []) :=
        Utf8.run_eq_ok_iff.mpr ⟨byteOrderMark_eq, trivial⟩
      obtain ⟨-, rfl⟩ := Prod.mk.inj (Except.ok.inj (hrun.symm.trans hone))
      exact ⟨second, hsecond⟩
  · exact ⟨cs, rfl⟩

/-- The first encoding that bytes are in gives the text that is read, and there is one. -/
theorem SourceEncoding.findSome?_decode? (bytes : List UInt8) :
    inTurn.findSome? (decode? bytes) = some (sourceText bytes) := by
  unfold inTurn sourceText
  rw [List.findSome?_cons, List.findSome?_cons, List.findSome?_cons, decode?]
  by_cases hmark : endsWithinMark bytes = true
  · rw [if_pos hmark, if_pos hmark]
  · rw [if_neg hmark, if_neg hmark]
    cases hdecode : Utf8.decode (withoutMark bytes) with
    | ok text => rfl
    | error e =>
        -- what is no text without the mark is none with it: the mark by itself is one
        have hplain : decode? bytes plainUtf8 = none := by
          rw [decode?]
          cases hbytes : Utf8.decode bytes with
          | error e' => rfl
          | ok cs =>
              obtain ⟨cs', hcs'⟩ := @exists_withoutMark_eq_encode cs
              rw [← Utf8.decode_eq_ok_iff.mp hbytes, ← Utf8.decode_eq_ok_iff, hdecode] at hcs'
              cases hcs'
        rw [hplain]
        rfl

/-! ## What a text says -/

/-- The byte of a character that has a byte of its own. -/
def latinByte? (c : Char) : Option UInt8 :=
  if c.toNat < 256 then some c.toNat.toUInt8 else none

/-- The bytes of a text with one byte for each character, if it has such bytes. -/
def encodeLatin? (text : List Char) : Option (List UInt8) :=
  text.mapM latinByte?

/-- A byte is the code of a character. -/
theorem toNat_ofNat_toNat (b : UInt8) : (Char.ofNat b.toNat).toNat = b.toNat := by
  have hlt : b.toNat < 256 := b.toNat_lt
  exact toNat_ofNat_of_isValidChar (Or.inl (by omega))

/-- This character is written as the byte again. -/
theorem latinByte?_ofNat (b : UInt8) : latinByte? (Char.ofNat b.toNat) = some b := by
  have hlt : b.toNat < 256 := b.toNat_lt
  rw [latinByte?, toNat_ofNat_toNat, if_pos hlt]
  simp

/-- One byte a character is an encoding that loses nothing. -/
theorem encodeLatin?_decodeLatin (bytes : List UInt8) : encodeLatin? (decodeLatin bytes) = some bytes := by
  unfold encodeLatin? decodeLatin
  induction bytes with
  | nil => rfl
  | cons b rest ih => rw [List.map_cons, List.mapM_cons, latinByte?_ofNat, ih]; rfl

/-- Does a text say what bytes say? If they are UTF-8 without a mark in front, or behind one, it is the text that they
encode, and if not it has them for its characters, one by one. -/
structure KeepsBytes (bytes : List UInt8) (text : List Char) : Prop where
  utf8 : (∃ cs, withoutMark bytes = Utf8.encode cs) → Utf8.encode text = withoutMark bytes
  latin : (¬∃ cs, withoutMark bytes = Utf8.encode cs) →
    text.length = bytes.length ∧ encodeLatin? text = some bytes

/-- The bytes that are a beginning of the mark and no more. -/
theorem endsWithinMark_iff {bytes : List UInt8} :
    endsWithinMark bytes = true ↔ bytes = [] ∨ bytes = [0xEF] ∨ bytes = [0xEF, 0xBB] := by
  constructor
  · intro h
    unfold endsWithinMark at h
    rw [Bool.and_eq_true, decide_eq_true_eq, beq_iff_eq] at h
    obtain ⟨hlength, heq⟩ := h
    -- the mark has three bytes, so there are fewer
    match bytes, hlength, heq with
    | [], _, _ => exact Or.inl rfl
    | [_], _, heq => exact Or.inr (Or.inl heq)
    | [_, _], _, heq => exact Or.inr (Or.inr heq)
    | _ :: _ :: _ :: _, hlength, _ =>
        have hthree : byteOrderMark.length = 3 := rfl
        simp only [List.length_cons] at hlength
        omega
  · rintro (rfl | rfl | rfl) <;> decide

section
variable {bytes : List UInt8} (h : endsWithinMark bytes = false)
include h

/-- Bytes in UTF-8 are read as the text that they encode. -/
theorem sourceText_of_decode_eq_ok {text : List Char} (hdecode : Utf8.decode (withoutMark bytes) = .ok text) :
    sourceText bytes = text := by
  unfold sourceText
  rw [h, if_neg Bool.false_ne_true, hdecode]

/-- All others are read one by one. -/
theorem sourceText_of_decode_eq_error {e : Utf8Error} (hdecode : Utf8.decode (withoutMark bytes) = .error e) :
    sourceText bytes = decodeLatin bytes := by
  unfold sourceText
  rw [h, if_neg Bool.false_ne_true, hdecode]

/-- What is read says what the bytes say, if they do not end within a mark. -/
theorem keepsBytes_sourceText : KeepsBytes bytes (sourceText bytes) := by
  cases hdecode : Utf8.decode (withoutMark bytes) with
  | ok text =>
      have htext := Utf8.decode_eq_ok_iff.mp hdecode
      rw [sourceText_of_decode_eq_ok h hdecode]
      exact ⟨fun _ => htext.symm, fun hnot => absurd ⟨text, htext⟩ hnot⟩
  | error e =>
      rw [sourceText_of_decode_eq_error h hdecode]
      refine ⟨?_, fun _ => ⟨List.length_map _, encodeLatin?_decodeLatin bytes⟩⟩
      rintro ⟨cs, hcs⟩
      rw [← Utf8.decode_eq_ok_iff, hdecode] at hcs
      cases hcs

end

/-- Bytes that are a mark cut short are read as nothing, which does not say what they say. -/
theorem not_keepsBytes_nil {bytes : List UInt8} (hne : bytes ≠ [])
    (h : ∀ cs, Utf8.decode (withoutMark bytes) ≠ .ok cs) : ¬KeepsBytes bytes [] := by
  intro hkeeps
  have hnot : ¬∃ cs, withoutMark bytes = Utf8.encode cs := by
    rintro ⟨cs, hcs⟩
    exact h cs (Utf8.decode_eq_ok_iff.mpr hcs)
  have hlength := (hkeeps.latin hnot).1
  exact hne (List.length_eq_zero_iff.mp hlength.symm)

/-- The text that is read says what the bytes say unless they are one of two beginnings of the mark. Nothing at all is a
beginning as well, but there is nothing to lose in it. -/
theorem keepsBytes_sourceText_iff {bytes : List UInt8} :
    KeepsBytes bytes (sourceText bytes) ↔ bytes ≠ [0xEF] ∧ bytes ≠ [0xEF, 0xBB] := by
  constructor
  · intro hkeeps
    constructor
    · rintro rfl
      exact not_keepsBytes_nil (by decide) (fun cs h => by cases h) hkeeps
    · rintro rfl
      exact not_keepsBytes_nil (by decide) (fun cs h => by cases h) hkeeps
  · rintro ⟨hone, htwo⟩
    -- only the beginnings of the mark are left, and nothing is lost in the empty one
    cases hmark : endsWithinMark bytes with
    | false => exact keepsBytes_sourceText hmark
    | true =>
        rcases endsWithinMark_iff.mp hmark with rfl | rfl | rfl
        · exact ⟨fun _ => rfl, fun hnot => absurd ⟨[], rfl⟩ hnot⟩
        · exact absurd rfl hone
        · exact absurd rfl htwo

/-! ## Endings of lines -/

/-- Is a byte a carriage return or a line feed? -/
def isEndingByte (b : UInt8) : Bool :=
  b == 0x0D || b == 0x0A

/-- The byte of an ending of a line is the character itself. -/
theorem isEndingByte_iff {b : UInt8} : isEndingByte b = true ↔ b.toNat = '\r'.toNat ∨ b.toNat = '\n'.toNat := by
  unfold isEndingByte
  rw [Bool.or_eq_true, beq_iff_eq, beq_iff_eq, ← UInt8.toNat_inj, ← UInt8.toNat_inj]
  exact Iff.rfl

/-- The characters that end lines of source code, by their codes. -/
theorem endsSourceLine_iff {c : Char} :
    endsSourceLine c = true ↔ c.toNat = '\r'.toNat ∨ c.toNat = '\n'.toNat := by
  unfold endsSourceLine
  rw [Bool.or_eq_true, beq_iff_eq, beq_iff_eq, Char.toNat_inj, Char.toNat_inj]

/-- A character and a byte with the same number both end lines or both do not. -/
theorem endsSourceLine_eq_isEndingByte {c : Char} {b : UInt8} (h : c.toNat = b.toNat) :
    endsSourceLine c = isEndingByte b := by
  rw [Bool.eq_iff_iff, endsSourceLine_iff, isEndingByte_iff, h]

/-- A character of one byte is that byte, and the bytes of all others are above. -/
theorem encodeChar_eq_singleton_or (c : Char) :
    (∃ b, Utf8.encodeChar c = [b] ∧ c.toNat = b.toNat) ∨ ∀ b ∈ Utf8.encodeChar c, 0x80 ≤ b.toNat := by
  -- characters of one byte are that byte; in all others every byte is 128 or more
  rcases Utf8.encodeChar_cases c with ⟨first, hc, -, hn⟩ | ⟨first, second, hc, hfirst, -, hsecond, -⟩ |
    ⟨first, second, third, hc, hfirst, -, hsecond, hthird, -⟩ |
    ⟨first, second, third, fourth, hc, hfirst, -, hsecond, hthird, hfourth, -⟩
  · exact Or.inl ⟨first, hc, hn⟩
  · right
    rw [hc, List.forall_mem_cons, List.forall_mem_singleton]
    exact ⟨by omega, (Utf8.isContinuation_iff.mp hsecond).1⟩
  · right
    rw [hc, List.forall_mem_cons, List.forall_mem_cons, List.forall_mem_singleton]
    exact ⟨by omega, (Utf8.isSecondOfThree_iff.mp hsecond).1, (Utf8.isContinuation_iff.mp hthird).1⟩
  · right
    rw [hc, List.forall_mem_cons, List.forall_mem_cons, List.forall_mem_cons, List.forall_mem_singleton]
    exact ⟨by omega, (Utf8.isSecondOfFour_iff.mp hsecond).1, (Utf8.isContinuation_iff.mp hthird).1,
      (Utf8.isContinuation_iff.mp hfourth).1⟩

/-- The bytes of a character hold an ending of a line exactly if the character is one. -/
theorem filter_encodeChar (c : Char) :
    (Utf8.encodeChar c).filter isEndingByte = if endsSourceLine c then [c.toNat.toUInt8] else [] := by
  rcases encodeChar_eq_singleton_or c with ⟨b, hc, hn⟩ | habove
  · have hbyte : c.toNat.toUInt8 = b := by
      rw [hn]
      exact UInt8.ofNat_toNat
    rw [hc, endsSourceLine_eq_isEndingByte hn, hbyte, List.filter_singleton]
    cases isEndingByte b <;> rfl
  · -- none of the bytes ends a line, and neither does the character: it would be a byte of its own
    have hnone : ∀ b ∈ Utf8.encodeChar c, ¬isEndingByte b = true := by
      intro b hb hending
      have habove := habove b hb
      rcases isEndingByte_iff.mp hending with h | h
      · rw [h] at habove
        exact absurd habove (by decide)
      · rw [h] at habove
        exact absurd habove (by decide)
    have hends : ¬endsSourceLine c = true := by
      intro hends
      rcases endsSourceLine_iff.mp hends with h | h
      · obtain rfl : c = '\r' := Char.toNat_inj.mp h
        exact hnone 0x0D (by decide) (by decide)
      · obtain rfl : c = '\n' := Char.toNat_inj.mp h
        exact hnone 0x0A (by decide) (by decide)
    rw [List.filter_eq_nil_iff.mpr hnone, if_neg hends]

/-- The bytes that end lines in an encoded text are those of the characters that do. A byte of a longer character is
none of them. -/
theorem filter_encode (cs : List Char) :
    (Utf8.encode cs).filter isEndingByte = (cs.filter endsSourceLine).map fun c => c.toNat.toUInt8 := by
  induction cs with
  | nil => rfl
  | cons c rest ih =>
      rw [Utf8.encode_cons, List.filter_append, ih, filter_encodeChar, List.filter_cons]
      split <;> rfl

/-- So it is if every byte is a character. -/
theorem filter_decodeLatin (bytes : List UInt8) :
    ((decodeLatin bytes).filter endsSourceLine).map (fun c => c.toNat.toUInt8) = bytes.filter isEndingByte := by
  induction bytes with
  | nil => rfl
  | cons b rest ih =>
      have hcons : decodeLatin (b :: rest) = Char.ofNat b.toNat :: decodeLatin rest := rfl
      rw [hcons, List.filter_cons, List.filter_cons, endsSourceLine_eq_isEndingByte (toNat_ofNat_toNat b), ← ih]
      split
      · rw [List.map_cons, toNat_ofNat_toNat]
        congr 1
        exact UInt8.ofNat_toNat
      · rfl

/-- The mark has none of them. -/
theorem filter_withoutMark (bytes : List UInt8) :
    (withoutMark bytes).filter isEndingByte = bytes.filter isEndingByte := by
  unfold withoutMark
  split
  · next hmark =>
      have hnone : byteOrderMark.filter isEndingByte = [] := by decide
      conv => rhs; rw [← List.take_append_drop byteOrderMark.length bytes]
      rw [hmark, List.filter_append, hnone, List.nil_append]
  · rfl

/-- The endings of lines that are read are those among the bytes, one by one. -/
theorem filter_sourceText (bytes : List UInt8) :
    ((sourceText bytes).filter endsSourceLine).map (fun c => c.toNat.toUInt8) = bytes.filter isEndingByte := by
  cases hmark : endsWithinMark bytes with
  | true => rcases endsWithinMark_iff.mp hmark with rfl | rfl | rfl <;> decide
  | false =>
      cases hdecode : Utf8.decode (withoutMark bytes) with
      | ok text =>
          rw [sourceText_of_decode_eq_ok hmark hdecode, ← filter_encode, ← Utf8.decode_eq_ok_iff.mp hdecode,
            filter_withoutMark]
      | error e =>
          rw [sourceText_of_decode_eq_error hmark hdecode]
          exact filter_decodeLatin bytes

/-! ## Files of source code -/

/-- The file that is made of a source has its name and its text. -/
theorem ofSource_text {filename source : String} {file : SourceFile}
    (h : SourceFile.ofSource filename source = .ok file) : file.filename = filename ∧ file.text = source := by
  obtain ⟨-, program, -, rfl⟩ := SourceFile.ofSource_eq_ok_iff.mp h
  exact ⟨rfl, rfl⟩

/-- A file of source code that can be read has a tree, or it is said that it has none. -/
theorem load_sourceCode {tree : Entry} {path : String} {bytes : List UInt8} (h : tree.read path = .ok bytes) :
    (∃ file, Frontend.sourceCode.load tree path = .ok file ∧ file.filename = path ∧
      file.text = .ofList (sourceText bytes)) ∨
    ∃ e, Frontend.sourceCode.load tree path = .error (.error e) ∧ e.typeName = "SourceParseError" := by
  unfold Frontend.load Frontend.parse
  cases hfile : SourceFile.ofSource path (.ofList (sourceText bytes)) with
  | ok file =>
      refine Or.inl ⟨file, ?_, ofSource_text hfile⟩
      simp only [h, hfile, Except.mapError, ok_bind]
  | error e =>
      refine Or.inr ⟨.parse e, ?_, rfl⟩
      simp only [h, hfile, Except.mapError, ok_bind, Fault.map]

/-- **What is read of source code says what its bytes say, unless they are a mark that is cut short.** Some encoding
always gives a text, and the text says what the bytes say exactly if these are neither the first byte of a byte order
mark nor its first two. In any case the endings of lines are as they were, and a file that can be read has a tree with
this text or is reported as one that cannot be parsed. -/
theorem sourceText_keeps_bytes_iff (bytes : List UInt8) :
    SourceEncoding.inTurn.findSome? (SourceEncoding.decode? bytes) = some (sourceText bytes) ∧
    (KeepsBytes bytes (sourceText bytes) ↔ bytes ≠ [0xEF] ∧ bytes ≠ [0xEF, 0xBB]) ∧
    ((sourceText bytes).filter endsSourceLine).map (fun c => c.toNat.toUInt8) = bytes.filter isEndingByte ∧
    ∀ (tree : Entry) (path : String), tree.read path = .ok bytes →
      (∃ file, Frontend.sourceCode.load tree path = .ok file ∧ file.filename = path ∧
        file.text = .ofList (sourceText bytes)) ∨
      ∃ e, Frontend.sourceCode.load tree path = .error (.error e) ∧ e.typeName = "SourceParseError" :=
  ⟨SourceEncoding.findSome?_decode? bytes, keepsBytes_sourceText_iff, filter_sourceText bytes,
    fun _ _ h => load_sourceCode h⟩

/-! ## Bytes of all sorts -/

/-- A comment in no UTF-8 that ends in a carriage return and a line feed, and a name. -/
def latinComment : List UInt8 :=
  [0x23, 0xE9, 0x0D, 0x0A, 0x78]

/-- It is read byte by byte, and the file has a tree. -/
theorem latinComment_is_kept :
    (Entry.ofFiles [("m.py", latinComment)]).read "m.py" = .ok latinComment ∧
    KeepsBytes latinComment (sourceText latinComment) ∧ sourceText latinComment = "#é\r\nx".toList ∧
    ∃ file, Frontend.sourceCode.load (Entry.ofFiles [("m.py", latinComment)]) "m.py" = .ok file ∧
      file.text = "#é\r\nx" := by
  have hread : (Entry.ofFiles [("m.py", latinComment)]).read "m.py" = .ok latinComment :=
    toOption_eq_some_iff.mp (by decide +kernel)
  have htext : sourceText latinComment = "#é\r\nx".toList := by decide +kernel
  obtain ⟨-, hkeeps, -, hload⟩ := sourceText_keeps_bytes_iff latinComment
  refine ⟨hread, hkeeps.mpr (by decide), htext, ?_⟩
  rcases hload _ _ hread with ⟨file, hfile, -, hfiletext⟩ | ⟨e, he, -⟩
  · rw [htext, String.ofList_toList] at hfiletext
    exact ⟨file, hfile, hfiletext⟩
  · have hok : (Frontend.sourceCode.load (Entry.ofFiles [("m.py", latinComment)]) "m.py").isOk = true := by
      decide +kernel
    rw [he] at hok
    cases hok

/-- A mark that is cut short is read as no text at all, though its bytes would be one or two characters. -/
theorem cutMarks_are_lost :
    sourceText [0xEF] = [] ∧ ¬KeepsBytes [0xEF] (sourceText [0xEF]) ∧
    sourceText [0xEF, 0xBB] = [] ∧ ¬KeepsBytes [0xEF, 0xBB] (sourceText [0xEF, 0xBB]) := by
  refine ⟨rfl, ?_, rfl, ?_⟩
  · intro h
    exact (keepsBytes_sourceText_iff.mp h).1 rfl
  · intro h
    exact (keepsBytes_sourceText_iff.mp h).2 rfl

end BodyLength
