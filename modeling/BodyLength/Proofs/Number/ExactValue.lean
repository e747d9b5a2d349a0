import BodyLength.Value.Basic
import Mathlib.Algebra.Order.Field.Power
import Mathlib.Algebra.Order.Ring.Rat
import Mathlib.Data.Int.Cast.Lemmas
import Mathlib.Order.WithBotTop
import Mathlib.Tactic.Positivity

/-!
# The exact value of a number

A number of a configuration is an integer or a binary fraction, and the tests on it are arithmetic on its parts. What
they decide is said here by its value: a rational number, or one of the two infinities, in their order. What is no
number has no value.

* `Number.isNonzero_iff`: a number counts as zero exactly if its value is zero.
* `Number.isBelow_iff`: an integer is over a limit exactly if it is greater than the value of the limit. So no integer
  is over a limit that is no number.
-/

namespace BodyLength

/-! ## Fractions -/

/-- A fraction is zero among all values exactly if it is zero. -/
theorem coe_eq_zero_iff {q : ℚ} : (q : WithBotTop ℚ) = 0 ↔ q = 0 := by
  have hzero : (0 : WithBotTop ℚ) = ((0 : ℚ) : WithBotTop ℚ) := rfl
  rw [hzero, WithBotTop.coe_injective.eq_iff]

namespace Binary64

/-- The value of a finite number: the significand with its sign, times a power of two. -/
def finiteValue (negative : Bool) (significand : Nat) (exponent : Int) : ℚ :=
  ((if negative then -(significand : Int) else significand : Int) : ℚ) * 2 ^ exponent

/-- The value of a number, if it has one. -/
def value? : Binary64 → Option (WithBotTop ℚ)
  | nan => none
  | infinite negative => some (if negative then ⊥ else ⊤)
  | finite negative significand exponent => some (finiteValue negative significand exponent : ℚ)

/-- A floating point number is zero exactly if its value is. There are two such numbers. -/
theorem isZero_iff {x : Binary64} : x.isZero = true ↔ x.value? = some 0 := by
  cases x with
  | nan => simp [isZero, value?]
  | infinite negative =>
      refine iff_of_false (by simp [isZero]) fun h => ?_
      cases negative <;> exact absurd (Option.some.inj h) (by decide)
  | finite negative significand exponent =>
      have hpow : (2 : ℚ) ^ exponent ≠ 0 := zpow_ne_zero exponent (by decide)
      simp only [isZero, value?, beq_iff_eq, Option.some.injEq]
      rw [coe_eq_zero_iff, finiteValue, mul_eq_zero, or_iff_left hpow]
      cases negative <;> simp

/-- The denominator of a number may be taken to the other side of a comparison, so that nothing is divided. -/
theorem compareInt?_finite_eq_gt_iff {negative : Bool} {significand : Nat} {exponent n : Int} :
    (finite negative significand exponent).compareInt? n = some .gt ↔
      finiteValue negative significand exponent < n := by
  have hpow : (0 : ℚ) < 2 ^ exponent.natAbs := by positivity
  simp only [finiteValue, compareInt?, Nat.pow_eq]
  by_cases hneg : exponent < 0
  · have hexponent : (2 : ℚ) ^ exponent = (2 ^ exponent.natAbs)⁻¹ := by
      rw [← zpow_natCast, ← zpow_neg, Int.ofNat_natAbs_of_nonpos (by omega), neg_neg]
    rw [if_pos hneg, Option.some.injEq, compare_gt_iff_gt, hexponent, ← div_eq_mul_inv, div_lt_iff₀ hpow]
    exact_mod_cast Iff.rfl
  · have hexponent : (2 : ℚ) ^ exponent = 2 ^ exponent.natAbs := by
      rw [← zpow_natCast, Int.natAbs_of_nonneg (by omega)]
    rw [if_neg hneg, Option.some.injEq, compare_gt_iff_gt, hexponent]
    exact_mod_cast Iff.rfl

/-- Whether an integer is above a floating point number is decided by the exact value, without rounding the integer. -/
theorem compareInt?_eq_gt_iff {x : Binary64} {n : Int} :
    x.compareInt? n = some .gt ↔ ∃ v, x.value? = some v ∧ v < ((n : ℚ) : WithBotTop ℚ) := by
  cases x with
  | nan => simp [compareInt?, value?]
  | infinite negative =>
      cases negative with
      | true => exact iff_of_true rfl ⟨_, rfl, WithBot.bot_lt_coe _⟩
      | false =>
          refine iff_of_false (by simp [compareInt?]) ?_
          rintro ⟨v, hv, hlt⟩
          cases hv
          exact not_top_lt hlt
  | finite negative significand exponent =>
      rw [compareInt?_finite_eq_gt_iff]
      simp [value?]

end Binary64

/-! ## Numbers -/

namespace Number

/-- The value of a number, if it has one. -/
def value? : Number → Option (WithBotTop ℚ)
  | whole n => some ((n : ℚ) : WithBotTop ℚ)
  | fraction x => x.value?

/-- Is an integer greater than the value of a number? It is not if there is no value. -/
def IsExceededBy (limit : Number) (n : Int) : Prop :=
  ∃ v, limit.value? = some v ∧ v < ((n : ℚ) : WithBotTop ℚ)

/-- A number counts exactly if its value is not zero. What has no value counts too. -/
theorem isNonzero_iff {n : Number} : n.isNonzero = true ↔ n.value? ≠ some 0 := by
  cases n with
  | whole m =>
      rw [isNonzero, value?, bne_iff_ne, ne_eq, ne_eq, Option.some.injEq, coe_eq_zero_iff, Int.cast_eq_zero]
  | fraction x =>
      rw [isNonzero, value?, ne_eq, ← Binary64.isZero_iff]
      simp

/-- A limit is exceeded exactly if its value is below the length, and never if it has no value. -/
theorem isBelow_iff {limit : Number} {n : Int} : limit.isBelow n = true ↔ limit.IsExceededBy n := by
  cases limit with
  | whole m => simp [isBelow, IsExceededBy, value?]
  | fraction x =>
      rw [isBelow, beq_iff_eq, Binary64.compareInt?_eq_gt_iff]
      rfl

instance (limit : Number) (n : Int) : Decidable (limit.IsExceededBy n) :=
  decidable_of_iff _ isBelow_iff

end Number

end BodyLength
