import BodyLength.Json.Basic
import BodyLength.Report.Abort
import Mathlib.Algebra.Ring.Int.Defs
import Mathlib.Algebra.Ring.Nat

/-!
# What is written out

An integer is written out if it has no more than `maxIntegerDigits` digits, and a value if all integers in it are. What
is not written out ends the run as soon as a text of it is asked for.

* `Number.isWritable_whole_iff`: few digits, said by the size of the integer.
* `Value.mapM_written`: the texts of several values.
* `Json.isWritable_list_iff`, `Json.isWritable_object_iff`: a JSON value, by what is in it.
-/

namespace BodyLength

/-- An integer is written out exactly if it is below the power of ten with one digit too many. -/
theorem Number.isWritable_whole_iff {n : Int} :
    (Number.whole n).isWritable = true ↔ n.natAbs < 10 ^ maxIntegerDigits := by
  unfold isWritable decimalWidth
  rw [decide_eq_true_iff]
  exact Nat.length_toDigits_le_iff (by decide) (by decide)

/-- The sign takes no digit. -/
theorem Number.isWritable_neg (n : Int) : (Number.whole (-n)).isWritable = (Number.whole n).isWritable := by
  simp only [isWritable, Int.natAbs_neg]

/-- The least integer that has too many digits is not written out. -/
theorem Number.isWritable_pow : (Number.whole (10 ^ maxIntegerDigits)).isWritable = false := by
  have hpow (digits : Nat) : ¬ ((10 : Int) ^ digits).natAbs < 10 ^ digits := by
    rw [Int.natAbs_pow]
    exact Nat.lt_irrefl _
  rw [← Bool.not_eq_true, isWritable_whole_iff]
  exact hpow maxIntegerDigits

/-- The greatest negative integer that has too many digits. -/
def farLimit : Number :=
  .whole (-(10 ^ maxIntegerDigits))

/-- It has one digit too many. -/
theorem isWritable_farLimit : farLimit.isWritable = false := by
  rw [farLimit, Number.isWritable_neg, Number.isWritable_pow]

namespace Value

/-- A number is written out as a value if it is as a number. -/
theorem isWritable_number (n : Number) : (number n).isWritable = n.isWritable := by
  simp only [isWritable]

/-- Several values have texts exactly if each of them has, and otherwise the run ends. -/
theorem mapM_written (values : List Value) :
    values.mapM written =
      if values.all isWritable then .ok (values.map plain) else .error .longInteger := by
  induction values with
  | nil => rfl
  | cons v rest ih =>
      rw [List.mapM_cons, ih, List.all_cons, written]
      cases v.isWritable with
      | false => rfl
      | true =>
          cases rest.all isWritable with
          | false => rfl
          | true => rfl

end Value

/-! ## JSON values -/

namespace Json

/-- An integer is written out as a JSON value if it is as a number. -/
theorem isWritable_int (n : Int) : (int n).isWritable = (Number.whole n).isWritable := rfl

/-- There are no integers in a text. -/
theorem isWritable_text (s : String) : (text s).isWritable = true := rfl

@[simp] theorem isWritable_list_nil : (list []).isWritable = true := rfl

/-- A list is written out exactly if its first item is and the others are. -/
theorem isWritable_list_cons (j : Json) (rest : List Json) :
    (list (j :: rest)).isWritable = (j.isWritable && (list rest).isWritable) := by
  simp only [isWritable, toValue, toValues, Value.isWritable, Value.areWritable]

/-- A list is written out exactly if all its items are. -/
theorem isWritable_list_iff {items : List Json} :
    (list items).isWritable = true ↔ ∀ j ∈ items, j.isWritable = true := by
  induction items with
  | nil => simp only [isWritable_list_nil, List.not_mem_nil, false_implies, implies_true]
  | cons j rest ih => rw [isWritable_list_cons, Bool.and_eq_true, ih, List.forall_mem_cons]

@[simp] theorem isWritable_object_nil : (object []).isWritable = true := rfl

/-- An object is written out exactly if its first member is and the others are; names always are. -/
theorem isWritable_object_cons (name : String) (j : Json) (rest : List (String × Json)) :
    (object ((name, j) :: rest)).isWritable = (j.isWritable && (object rest).isWritable) := by
  simp only [isWritable, toValue, toEntries, Value.isWritable, Value.areWritableEntries, Bool.true_and]

/-- An object is written out exactly if the values of all its members are. -/
theorem isWritable_object_iff {members : List (String × Json)} :
    (object members).isWritable = true ↔ ∀ m ∈ members, m.2.isWritable = true := by
  induction members with
  | nil => simp only [isWritable_object_nil, List.not_mem_nil, false_implies, implies_true]
  | cons m rest ih => rw [isWritable_object_cons, Bool.and_eq_true, ih, List.forall_mem_cons]

end Json

end BodyLength
