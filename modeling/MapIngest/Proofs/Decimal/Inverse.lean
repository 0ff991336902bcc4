import MapIngest.Proofs.Decimal.Order
import MapIngest.Proofs.Decimal.Quotient

/-!
# Positive doubles and their inverses

A finite double is positive if its exact value is.  The quotient of two positive doubles
has no negative value.  The inverse of a double that is not at most zero is finite and
positive exactly if the double is finite and not so small that the inverse overflows;
this excludes half of the doubles below the normal ones.
-/

namespace MapIngest.Decimal

open Float.Model
open Float.Model.UnpackedFloat

/-- The exact value of a double is positive if its form is finite and has no sign. -/
theorem exact_pos_iff (x : Float) :
    0 < exact x ↔ ∃ mantissa exponent positive,
      x.toModel.unpack = .finite .positive mantissa exponent positive := by
  rw [exact_eq_unpackedValue]
  cases x.toModel.unpack with
  | finite sign mantissa exponent positive =>
      have filled : (0 : ℚ) < mantissa * 2 ^ exponent := by positivity
      cases sign with
      | negative => simp [unpackedValue, Sign.apply, filled.le]
      | positive => simp [unpackedValue, Sign.apply, filled, positive]
  | _ => simp [unpackedValue]

/-- A finite double is positive exactly if its exact value is. -/
theorem zero_lt_iff {x : Float} (finite : x.isFinite = true) : 0 < x ↔ 0 < exact x := by
  have unpacked : (0 : Float).toModel.unpack = .zero .positive := rfl
  rw [lt_iff_compare, unpacked, exact_pos_iff]
  rcases (isFinite_iff x).mp finite with ⟨sign, form⟩ | ⟨sign, mantissa, exponent, positive, form⟩
  · rw [form]
    simp [UnpackedFloat.compare]
  · rw [form]
    cases sign <;> simp [UnpackedFloat.compare, positive]

theorem isNaN_of_isFinite {x : Float} (finite : x.isFinite = true) : x.isNaN = false := by
  change x.toModel.unpack.isNaN = false
  rcases (isFinite_iff x).mp finite with ⟨sign, form⟩ | ⟨sign, mantissa, exponent, positive, form⟩
  · rw [form]
    rfl
  · rw [form]
    rfl

/-- What is not at most zero is positive, or is not a number. -/
theorem not_le_zero_iff (x : Float) : ¬ x ≤ 0 ↔ 0 < x ∨ x.isNaN = true := by
  have number : (0 : Float).isNaN = false := rfl
  rw [le_iff_not_lt, number]
  cases x.isNaN <;> simp

/-! ## The sign of a quotient -/

theorem unpackedValue_roundWithAccuracy_nonneg (mantissa : Nat) (exponent : Int)
    (accuracy : Accuracy) :
    0 ≤ unpackedValue (roundWithAccuracy .binary64 .positive mantissa exponent accuracy) := by
  simp only [roundWithAccuracy]
  split
  · exact le_rfl
  · simp only [unpackedValue, Sign.apply]
    positivity

/-- Packing gives no value a sign: what is too large becomes infinite. -/
theorem unpackedValue_pack_nonneg {form : UnpackedFloat} (canonical : Canonical form)
    (nonneg : 0 ≤ unpackedValue form) : 0 ≤ unpackedValue (Float.Model.pack form).unpack := by
  by_cases fits : Fits form
  · rw [unpack_pack canonical fits]
    exact nonneg
  · cases form with
    | finite sign mantissa exponent positive =>
        rw [unpack_pack_of_large (not_le.mp fits)]
        exact le_rfl
    | _ => exact (fits trivial).elim

theorem exact_div_nonneg {x y : Float} (dividend : 0 < exact x) (divisor : 0 < exact y) :
    0 ≤ exact (x / y) := by
  rcases (exact_pos_iff x).mp dividend with ⟨m₁, e₁, positive₁, form₁⟩
  rcases (exact_pos_iff y).mp divisor with ⟨m₂, e₂, positive₂, form₂⟩
  rw [exact_eq_unpackedValue, unpack_div, form₁, form₂]
  exact unpackedValue_pack_nonneg (rounds_div positive₁ positive₂).canonical
    (unpackedValue_roundWithAccuracy_nonneg _ _ _)

/-! ## The inverse -/

/-- No double is so large that its inverse vanishes. -/
theorem exact_inverse_ne_zero {x : Float} (finite : x.isFinite = true)
    (large : 1 < overflow * |exact x|) : exact (1 / x) ≠ 0 := by
  rw [← exact_one, ← abs_of_pos (exact_one ▸ one_pos : (0 : ℚ) < exact 1)] at large
  rw [ne_eq, exact_div_eq_zero_iff (by decide +kernel) finite large, exact_one, abs_one, not_le]
  calc
    (2 : ℚ) ^ (-1075 : Int) * |exact x| < 2 ^ (-1075 : Int) * 2 ^ 1024 :=
      mul_lt_mul_of_pos_left (abs_exact_lt x) (by positivity)
    _ ≤ 1 := by
      rw [← zpow_natCast, ← zpow_add₀ two_ne_zero]
      exact zpow_le_one_of_nonpos₀ one_le_two (by norm_num)

/--
The inverse of a double that is not at most zero is finite and positive exactly if the
double is finite and not so small that the inverse overflows.
-/
theorem inverse_finite_pos_iff {x : Float} (above : ¬ x ≤ 0) :
    (1 / x).isFinite = true ∧ 0 < 1 / x ↔ x.isFinite = true ∧ 1 < overflow * exact x := by
  cases finite : x.isFinite with
  | false =>
      have vanishes := exact_div_of_infinite (x := 1) finite
      refine iff_of_false ?_ (by simp)
      rintro ⟨bounded, positive⟩
      rw [zero_lt_iff bounded, vanishes] at positive
      exact lt_irrefl 0 positive
  | true =>
      have positive : 0 < exact x := by
        rw [not_le_zero_iff, isNaN_of_isFinite finite, zero_lt_iff finite] at above
        exact above.resolve_right Bool.false_ne_true
      have bounded : (1 / x).isFinite = true ↔ 1 < overflow * exact x := by
        rw [isFinite_div_iff finite, exact_one, abs_one, abs_of_pos positive]
        exact and_iff_right (by decide +kernel)
      rw [bounded, and_iff_right rfl]
      refine and_iff_left_of_imp fun large => ?_
      rw [zero_lt_iff (bounded.mpr large)]
      have nonzero : exact (1 / x) ≠ 0 :=
        exact_inverse_ne_zero finite (by rwa [abs_of_pos positive])
      exact (exact_div_nonneg (exact_one ▸ one_pos) positive).lt_of_ne' nonzero

end MapIngest.Decimal
