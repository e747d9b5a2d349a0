import BodyLength.Number.Reading
import BodyLength.Text.Quoted

/-!
# Writing and reading digits

A number is written as its digits in some base, decimal ones for integers and hexadecimal ones for code points. The
digits of a number denote it again, in any base for which there are digits, and zeros before them make no difference.

* `ofDigits_toDigits`: the digits of a number denote it.
* `eq_zero_of_toDigits_eq_cons`: only zero is written with a zero as its first digit.
* `ofDigits_hexPadded`: nor does it matter to what width the digits are filled up.
-/

namespace BodyLength

/-! ## Single digits -/

/-- A digit is read as what it was written for. -/
theorem digitValue?_digitChar {d : Nat} (h : d < 16) : digitValue? (Nat.digitChar d) = some d := by
  have hall : ∀ d < 16, digitValue? (Nat.digitChar d) = some d := by decide
  exact hall d h

/-- Digits below ten are those of decimal numerals. -/
theorem isAsciiDigit_digitChar {d : Nat} (h : d < 10) : isAsciiDigit (Nat.digitChar d) = true := by
  have hall : ∀ d < 10, isAsciiDigit (Nat.digitChar d) = true := by decide
  exact hall d h

/-- A further digit multiplies by the base. -/
theorem ofDigits_concat {base d : Nat} (h : d < 16) (cs : List Char) :
    ofDigits base (cs ++ [Nat.digitChar d]) = ofDigits base cs * base + d := by
  simp [ofDigits, digitValue?_digitChar h]

/-- Zeros at the front make no difference. -/
theorem ofDigits_zeros_append (base count : Nat) (cs : List Char) :
    ofDigits base (List.replicate count '0' ++ cs) = ofDigits base cs := by
  induction count with
  | zero => rfl
  | succ count ih =>
      have hzero : digitValue? '0' = some 0 := by decide
      rw [← ih]
      simp [ofDigits, List.replicate_succ, hzero]

/-! ## The digits of a number -/

section Digits

variable {base : Nat} (hbase : 1 < base)

include hbase

/-- The digits of a number denote it. -/
theorem ofDigits_toDigits (hmax : base ≤ 16) (n : Nat) : ofDigits base (Nat.toDigits base n) = n := by
  induction n using Nat.strongRecOn with
  | ind n ih =>
      rw [Nat.toDigits_eq_if hbase]
      split
      · rename_i hn
        have h : ofDigits base ([] ++ [Nat.digitChar n]) = ofDigits base [] * base + n :=
          ofDigits_concat (Nat.lt_of_lt_of_le hn hmax) []
        simpa [ofDigits] using h
      · rename_i hn
        have hpos : 0 < n := by omega
        have hlast : n % base < 16 := Nat.lt_of_lt_of_le (Nat.mod_lt n (by omega)) hmax
        rw [ofDigits_concat hlast, ih _ (Nat.div_lt_self hpos hbase)]
        exact Nat.div_add_mod' n base

/-- The digits of a number are digits of its base. -/
theorem exists_digitChar_of_mem_toDigits {n : Nat} {c : Char} (h : c ∈ Nat.toDigits base n) :
    ∃ d < base, c = Nat.digitChar d := by
  induction n using Nat.strongRecOn with
  | ind n ih =>
      rw [Nat.toDigits_eq_if hbase] at h
      split at h
      · rename_i hn
        exact ⟨n, hn, List.mem_singleton.mp h⟩
      · rename_i hn
        rcases List.mem_append.mp h with h | h
        · exact ih _ (Nat.div_lt_self (by omega) hbase) h
        · exact ⟨n % base, Nat.mod_lt n (by omega), List.mem_singleton.mp h⟩

/-- Only zero is written with a zero as its first digit. -/
theorem eq_zero_of_toDigits_eq_cons {n : Nat} {rest : List Char} (h : Nat.toDigits base n = '0' :: rest) :
    n = 0 := by
  induction n using Nat.strongRecOn generalizing rest with
  | ind n ih =>
      rw [Nat.toDigits_eq_if hbase] at h
      split at h
      · simp only [List.cons.injEq, Nat.digitChar_eq_zero] at h
        exact h.1
      · rename_i hn
        -- the first digit is that of the number without its last digit, which is not zero
        obtain ⟨front, hfront⟩ : ∃ front, Nat.toDigits base (n / base) = '0' :: front := by
          cases hdigits : Nat.toDigits base (n / base) with
          | nil => exact absurd hdigits Nat.toDigits_ne_nil
          | cons c front =>
              rw [hdigits, List.cons_append, List.cons_eq_cons] at h
              exact ⟨front, by rw [h.1]⟩
        have hdiv := ih _ (Nat.div_lt_self (by omega) hbase) hfront
        rcases Nat.div_eq_zero_iff.mp hdiv with hzero | hlt
        · omega
        · exact absurd hlt hn

end Digits

/-- The digits of a decimal are ASCII digits. -/
theorem isAsciiDigit_of_mem_toDigits {n : Nat} {c : Char} (h : c ∈ Nat.toDigits 10 n) :
    isAsciiDigit c = true := by
  obtain ⟨d, hd, rfl⟩ := exists_digitChar_of_mem_toDigits (by decide) h
  exact isAsciiDigit_digitChar hd

/-! ## Digits up to a width -/

/-- Zeros in front do not change the number that is read. -/
theorem ofDigits_hexPadded (width n : Nat) : ofDigits 16 (hexPadded width n).toList = n := by
  simp only [hexPadded, String.toList_ofList]
  rw [ofDigits_zeros_append, ofDigits_toDigits (by decide) (by decide)]

/-- A number that has no more digits than the width is filled up to the width. -/
theorem length_hexPadded {width n : Nat} (h : (Nat.toDigits 16 n).length ≤ width) :
    (hexPadded width n).toList.length = width := by
  simp only [hexPadded, String.toList_ofList, List.length_append, List.length_replicate]
  omega

/-- Zeros in front are digits as well. -/
theorem exists_digitChar_of_mem_hexPadded {width n : Nat} {c : Char} (h : c ∈ (hexPadded width n).toList) :
    ∃ d < 16, c = Nat.digitChar d := by
  simp only [hexPadded, String.toList_ofList, List.mem_append, List.mem_replicate] at h
  rcases h with ⟨-, rfl⟩ | h
  · exact ⟨0, by decide, rfl⟩
  · exact exists_digitChar_of_mem_toDigits (by decide) h

end BodyLength
