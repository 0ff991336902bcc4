import Mathlib
import MapIngest.Decimal.Binary64

/-!
# The order of doubles

Two doubles are compared by their unpacked forms.  There is an answer unless one of
them is not a number, and swapping the two swaps the answer.  A double that is not
above another one is therefore at most that one, provided that both are numbers; with
a result that is not a number neither comparison holds.
-/

namespace MapIngest.Decimal

open Float.Model

/-! ## Comparing unpacked forms -/

theorem compare_isSome_iff (left right : UnpackedFloat) :
    (left.compare right).isSome = true ↔ left.isNaN = false ∧ right.isNaN = false := by
  cases left with
  | notANumber => cases right <;> simp [UnpackedFloat.compare, UnpackedFloat.isNaN]
  | infinity sign =>
      cases right with
      | infinity other => simp [UnpackedFloat.compare, UnpackedFloat.isNaN]
      | _ => cases sign <;> simp [UnpackedFloat.compare, UnpackedFloat.isNaN]
  | zero sign =>
      cases right with
      | infinity other => cases other <;> simp [UnpackedFloat.compare, UnpackedFloat.isNaN]
      | finite other => cases other <;> simp [UnpackedFloat.compare, UnpackedFloat.isNaN]
      | _ => simp [UnpackedFloat.compare, UnpackedFloat.isNaN]
  | finite sign =>
      cases right with
      | infinity other => cases other <;> simp [UnpackedFloat.compare, UnpackedFloat.isNaN]
      | finite other =>
          cases sign <;> cases other <;> simp [UnpackedFloat.compare, UnpackedFloat.isNaN]
      | notANumber => simp [UnpackedFloat.compare, UnpackedFloat.isNaN]
      | zero other => cases sign <;> simp [UnpackedFloat.compare, UnpackedFloat.isNaN]

theorem compare_swap (left right : UnpackedFloat) :
    (left.compare right).map Ordering.swap = right.compare left := by
  cases left with
  | notANumber => cases right <;> rfl
  | infinity sign =>
      cases right with
      | infinity other => cases sign <;> cases other <;> rfl
      | _ => cases sign <;> rfl
  | zero sign =>
      cases right with
      | infinity other => cases other <;> rfl
      | finite other => cases other <;> rfl
      | _ => rfl
  | finite sign mantissa exponent =>
      cases right with
      | infinity other => cases other <;> rfl
      | notANumber => rfl
      | zero other => cases sign <;> rfl
      | finite other =>
          cases sign <;> cases other <;>
            simp [UnpackedFloat.compare, Ordering.swap_then, Int.compare_swap, Nat.compare_swap]

/-! ## Comparing doubles -/

theorem lt_iff_compare (x y : Float) :
    x < y ↔ x.toModel.unpack.compare y.toModel.unpack = some .lt := by
  simp [LT.lt, Float.lt, Float.Model.lt, UnpackedFloat.lt]

theorem le_iff_compare (x y : Float) :
    x ≤ y ↔ ∃ order, x.toModel.unpack.compare y.toModel.unpack = some order ∧ order ≠ .gt := by
  have unfolded :
      x ≤ y ↔ (x.toModel.unpack.compare y.toModel.unpack).any Ordering.isLE = true := by
    change Float.le x y = true ↔ _
    rw [Float.le, decide_eq_true_iff]
    rfl
  rw [unfolded, Option.any_eq_true]
  refine exists_congr fun order => and_congr_right fun _ => ?_
  cases order <;> simp

theorem compare_isSome_iff_isNaN (x y : Float) :
    (x.toModel.unpack.compare y.toModel.unpack).isSome = true ↔
      x.isNaN = false ∧ y.isNaN = false :=
  compare_isSome_iff _ _

/-- Both sides of a comparison that holds are numbers. -/
theorem isNaN_of_le {x y : Float} (atMost : x ≤ y) : x.isNaN = false ∧ y.isNaN = false := by
  rcases (le_iff_compare x y).mp atMost with ⟨order, compared, -⟩
  rw [← compare_isSome_iff_isNaN, compared]
  rfl

/-- Being at most is not being above, among numbers. -/
theorem le_iff_not_lt (x y : Float) :
    x ≤ y ↔ ¬ y < x ∧ x.isNaN = false ∧ y.isNaN = false := by
  have swapped := compare_swap x.toModel.unpack y.toModel.unpack
  rw [le_iff_compare, lt_iff_compare, ← compare_isSome_iff_isNaN, ← swapped]
  cases x.toModel.unpack.compare y.toModel.unpack with
  | none => simp
  | some order => cases order <;> simp [Ordering.swap]

theorem not_lt_self (x : Float) : ¬ x < x := by
  have swapped := compare_swap x.toModel.unpack x.toModel.unpack
  rw [lt_iff_compare]
  intro less
  rw [less] at swapped
  cases swapped

end MapIngest.Decimal
