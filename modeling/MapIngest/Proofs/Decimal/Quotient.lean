import MapIngest.Proofs.Decimal.Residue

/-!
# Quotients of doubles

The quotient of two mantissas is taken far enough to leave 53 bits, with the remainder
in the residual bits, and is then rounded.  By a finite double the quotient of a finite
one is finite exactly if its size is below the overflow threshold, which also excludes
a divisor that is zero, and is zero exactly if its size is at most half of the least
double.  By an infinite double the quotient of a finite one is zero.
-/

namespace MapIngest.Decimal

open Float.Model
open Float.Model.UnpackedFloat

/-- A quotient with its remainder represents the fraction. -/
theorem represents_quotient (numerator : Nat) {denominator : Nat} (positive : 0 < denominator) :
    Represents (ExtendedMantissa.ofMantissaAndAccuracy (numerator / denominator)
      (accuracyOfFraction (numerator % denominator) denominator))
      (numerator / denominator : ℚ) := by
  have divisor : (0 : ℚ) < denominator := by exact_mod_cast positive
  have small := Nat.mod_lt numerator positive
  have split : (numerator : ℚ) / denominator =
      (numerator / denominator : Nat) + (numerator % denominator : Nat) / (denominator : ℚ) := by
    rw [eq_comm, ← mul_div_cancel_right₀ ((numerator / denominator : Nat) : ℚ) divisor.ne',
      ← add_div]
    congr 1
    exact_mod_cast Nat.div_add_mod' numerator denominator
  rw [split]
  generalize numerator / denominator = quotient
  generalize numerator % denominator = remainder at small
  have whole : (remainder : ℚ) / denominator < 1 := by
    rw [div_lt_one divisor]
    exact_mod_cast small
  rw [accuracyOfFraction]
  split
  next none =>
    rw [none, Nat.cast_zero, zero_div, add_zero]
    exact .exact quotient
  next some =>
    have part : (0 : ℚ) < remainder / denominator :=
      div_pos (by exact_mod_cast Nat.pos_of_ne_zero some) divisor
    cases compared : compare (2 * remainder) denominator with
    | lt =>
        have less : (2 * remainder : ℚ) < denominator := by
          exact_mod_cast Nat.compare_eq_lt.mp compared
        have half : (remainder : ℚ) / denominator < 1 / 2 := by
          rw [div_lt_div_iff₀ divisor two_pos]
          linarith
        exact .below (by linarith) (by linarith)
    | eq =>
        have equal : (2 * remainder : ℚ) = denominator := by
          exact_mod_cast Nat.compare_eq_eq.mp compared
        have half : (remainder : ℚ) / denominator = 1 / 2 := by
          rw [div_eq_div_iff divisor.ne' two_ne_zero]
          linarith
        rw [half]
        exact .half quotient
    | gt =>
        have more : (denominator : ℚ) < 2 * remainder := by
          exact_mod_cast Nat.compare_eq_gt.mp compared
        have half : (1 : ℚ) / 2 < remainder / denominator := by
          rw [div_lt_div_iff₀ two_pos divisor]
          linarith
        exact .above (by linarith) (by linarith)

/-! ## Enough bits -/

section Core

variable {m₁ m₂ : Nat} (positive₁ : 0 < m₁) (positive₂ : 0 < m₂) (e₁ e₂ : Int)

include positive₁ positive₂ in
/-- A quotient has as many bits as its operands leave it, or one less. -/
theorem log2_quotient_ge {count : Nat} (filled : 0 < (m₁ <<< count) / m₂) :
    (m₁.log2 : Int) + count - m₂.log2 - 1 ≤ ((m₁ <<< count) / m₂).log2 := by
  rw [Nat.shiftLeft_eq] at filled ⊢
  by_cases short : m₁.log2 + count ≤ m₂.log2 + 1
  · omega
  · have reached : 2 ^ (m₁.log2 + count - (m₂.log2 + 1)) ≤ m₁ * 2 ^ count / m₂ := by
      rw [Nat.le_div_iff_mul_le positive₂]
      calc
        2 ^ (m₁.log2 + count - (m₂.log2 + 1)) * m₂
            ≤ 2 ^ (m₁.log2 + count - (m₂.log2 + 1)) * 2 ^ (m₂.log2 + 1) :=
          Nat.mul_le_mul_left _ Nat.lt_log2_self.le
        _ = 2 ^ m₁.log2 * 2 ^ count := by
          rw [← Nat.pow_add, ← Nat.pow_add]
          congr 1
          omega
        _ ≤ m₁ * 2 ^ count := Nat.mul_le_mul_right _ (Nat.log2_self_le positive₁.ne')
    have bits := (Nat.le_log2 filled.ne').mpr reached
    omega

include positive₁ positive₂ in
/-- Without a bit in the quotient the operands are far apart. -/
theorem quotient_pos {count : Nat} (enough : m₂.log2 + 1 ≤ m₁.log2 + count) :
    0 < (m₁ <<< count) / m₂ := by
  rw [Nat.shiftLeft_eq]
  refine Nat.div_pos ?_ positive₂
  calc
    m₂ ≤ 2 ^ (m₂.log2 + 1) := Nat.lt_log2_self.le
    _ ≤ 2 ^ (m₁.log2 + count) := Nat.pow_le_pow_right two_pos enough
    _ = 2 ^ m₁.log2 * 2 ^ count := Nat.pow_add ..
    _ ≤ m₁ * 2 ^ count := Nat.mul_le_mul_right _ (Nat.log2_self_le positive₁.ne')

include positive₁ positive₂ in
theorem divCore_eq :
    ∃ (count : Nat) (exponent : Int), e₁ - e₂ = exponent + count ∧
      divCore .binary64 m₁ e₁ m₂ e₂ = ((m₁ <<< count) / m₂, exponent,
        accuracyOfFraction ((m₁ <<< count) % m₂) m₂) ∧
      exponent ≤ Format.binary64.targetExponent
        (totalExponent ((m₁ <<< count) / m₂) exponent) := by
  have target : ∀ total, Format.binary64.targetExponent total = max (total - 53) (-1074) :=
    fun _ => rfl
  rw [divCore]
  generalize chosen : min (e₁ - e₂) (Format.binary64.targetExponent
    (totalExponent m₁ e₁ - totalExponent m₂ e₂)) = exponent
  rw [target, totalExponent, totalExponent] at chosen
  rcases Int.le.dest (show exponent ≤ e₁ - e₂ by omega) with ⟨count, shift⟩
  have steps : (e₁ - e₂ - exponent).toNat = count := by omega
  refine ⟨count, exponent, shift.symm, by rw [steps], ?_⟩
  rw [target, totalExponent]
  -- Without a bit in the quotient the exponent is at most the least one, which is the target.
  by_cases filled : 0 < (m₁ <<< count) / m₂
  · have bits := log2_quotient_ge positive₁ positive₂ filled
    omega
  · have apart := mt (quotient_pos positive₁ positive₂) filled
    omega

end Core

/-- The quotient of two finite forms is rounded. -/
theorem rounds_div {s₁ s₂ : Sign} {m₁ m₂ : Nat} {e₁ e₂ : Int} (positive₁ : 0 < m₁)
    (positive₂ : 0 < m₂) :
    Rounds (m₁ * 2 ^ e₁ / (m₂ * 2 ^ e₂))
      (UnpackedFloat.div .binary64 (.finite s₁ m₁ e₁ positive₁) (.finite s₂ m₂ e₂ positive₂)) := by
  rcases divCore_eq positive₁ positive₂ e₁ e₂ with ⟨count, exponent, shift, core, low⟩
  have rounds := rounds_roundWithAccuracy (s₁ / s₂)
    (represents_quotient (m₁ <<< count) positive₂) low
  have scale : ((m₁ <<< count : Nat) : ℚ) / m₂ * 2 ^ exponent =
      m₁ * 2 ^ e₁ / (m₂ * 2 ^ e₂) := by
    have apart : e₁ = exponent + count + e₂ := by omega
    rw [Nat.shiftLeft_eq, apart, zpow_add₀ two_ne_zero, zpow_add₀ two_ne_zero, zpow_natCast]
    push_cast
    field_simp
  rw [scale] at rounds
  rw [UnpackedFloat.div, core]
  exact rounds

/-! ## Packed results -/

namespace Rounds

variable {size : ℚ} {form : UnpackedFloat}

theorem unpack_pack (rounds : Rounds size form) (small : size < overflow) :
    (Float.Model.pack form).unpack = form :=
  Decimal.unpack_pack rounds.canonical (rounds.fits.mpr small)

theorem isFinite_iff (rounds : Rounds size form) :
    (Float.Model.pack form).unpack.isFinite = true ↔ size < overflow := by
  by_cases small : size < overflow
  · rw [rounds.unpack_pack small]
    exact iff_of_true rounds.finite small
  · refine iff_of_false ?_ small
    have large := mt rounds.fits.mp small
    cases form with
    | finite sign mantissa exponent positive =>
        rw [unpack_pack_of_large (not_le.mp large)]
        exact Bool.false_ne_true
    | _ => exact (large trivial).elim

end Rounds

theorem unpack_pack_infinity (sign : Sign) :
    (Float.Model.pack (.infinity sign)).unpack = .infinity sign :=
  unpack_pack trivial trivial

theorem unpack_pack_zero (sign : Sign) : (Float.Model.pack (.zero sign)).unpack = .zero sign :=
  unpack_pack trivial trivial

theorem unpackedValue_zero (sign : Sign) : unpackedValue (.zero sign) = 0 := rfl

theorem unpackedValue_pack {form : UnpackedFloat} (canonical : Canonical form) (fits : Fits form) :
    unpackedValue (Float.Model.pack form).unpack = unpackedValue form := by
  rw [unpack_pack canonical fits]

theorem isFinite_of_pack {form : UnpackedFloat}
    (finite : (Float.Model.pack form).unpack.isFinite = true) : form.isFinite = true := by
  cases form with
  | infinity sign =>
      rw [unpack_pack_infinity] at finite
      exact finite
  | notANumber => exact finite
  | _ => rfl

/-! ## Quotients -/

theorem unpack_div (x y : Float) : (x / y).toModel.unpack =
    (Float.Model.pack (UnpackedFloat.div .binary64 x.toModel.unpack y.toModel.unpack)).unpack :=
  rfl

theorem isFinite_div_zero (form : UnpackedFloat) (sign : Sign) :
    (UnpackedFloat.div .binary64 form (.zero sign)).isFinite = false := by
  cases form <;> rfl

theorem overflow_pos : 0 < overflow := by
  rw [overflow_eq]
  have positive : (0 : ℚ) < 2 ^ (971 : Int) := by positivity
  exact mul_pos (by norm_num) positive

section Quotients

variable {x y : Float}

/-- By a finite double, a quotient is finite below the overflow threshold. -/
theorem isFinite_div_iff (finite : y.isFinite = true) :
    (x / y).isFinite = true ↔ x.isFinite = true ∧ |exact x| < overflow * |exact y| := by
  rw [exact_eq_unpackedValue, exact_eq_unpackedValue]
  change (x / y).toModel.unpack.isFinite = true ↔ x.toModel.unpack.isFinite = true ∧ _
  rw [unpack_div]
  rcases (isFinite_iff y).mp finite with ⟨s₂, divisor⟩ | ⟨s₂, m₂, e₂, positive₂, divisor⟩
  · rw [divisor]
    refine iff_of_false (fun finite => ?_) ?_
    · have form := isFinite_of_pack finite
      rw [isFinite_div_zero] at form
      cases form
    · rw [unpackedValue_zero, abs_zero, mul_zero]
      exact fun both => both.2.not_ge (abs_nonneg _)
  · rw [divisor]
    cases x.toModel.unpack with
    | infinity sign =>
        exact iff_of_false (fun finite => Bool.false_ne_true (isFinite_of_pack finite))
          (fun both => Bool.false_ne_true both.1)
    | notANumber =>
        exact iff_of_false (fun finite => Bool.false_ne_true (isFinite_of_pack finite))
          (fun both => Bool.false_ne_true both.1)
    | zero sign =>
        rw [UnpackedFloat.div, unpack_pack_zero, abs_unpackedValue_finite]
        refine iff_of_true rfl ⟨rfl, ?_⟩
        rw [unpackedValue_zero, abs_zero]
        exact mul_pos overflow_pos (by positivity)
    | finite s₁ m₁ e₁ positive₁ =>
        rw [(rounds_div positive₁ positive₂).isFinite_iff, abs_unpackedValue_finite,
          abs_unpackedValue_finite, div_lt_iff₀ (by positivity)]
        exact (and_iff_right rfl).symm

/-- By a finite double, a finite quotient is zero up to half of the least double. -/
theorem exact_div_eq_zero_iff (dividend : x.isFinite = true) (divisor : y.isFinite = true)
    (small : |exact x| < overflow * |exact y|) :
    exact (x / y) = 0 ↔ |exact x| ≤ 2 ^ (-1075 : Int) * |exact y| := by
  rw [exact_eq_unpackedValue x, exact_eq_unpackedValue y] at small ⊢
  rw [exact_eq_unpackedValue (x / y), unpack_div]
  rcases (isFinite_iff y).mp divisor with ⟨s₂, divisor⟩ | ⟨s₂, m₂, e₂, positive₂, divisor⟩
  · rw [divisor, unpackedValue_zero, abs_zero, mul_zero] at small
    exact (small.not_ge (abs_nonneg _)).elim
  · rw [divisor] at small ⊢
    rcases (isFinite_iff x).mp dividend with ⟨s₁, dividend⟩ | ⟨s₁, m₁, e₁, positive₁, dividend⟩
    · rw [dividend, UnpackedFloat.div, unpack_pack_zero]
      refine iff_of_true rfl ?_
      rw [unpackedValue_zero, abs_zero]
      positivity
    · have rounds : Rounds _ (UnpackedFloat.div .binary64 (.finite s₁ m₁ e₁ positive₁)
          (.finite s₂ m₂ e₂ positive₂)) := rounds_div positive₁ positive₂
      rw [dividend, abs_unpackedValue_finite, abs_unpackedValue_finite] at small
      rw [← div_lt_iff₀ (by positivity)] at small
      rw [dividend, rounds.unpack_pack small, rounds.vanishes, abs_unpackedValue_finite,
        abs_unpackedValue_finite, div_le_iff₀ (by positivity)]

/-- A quotient by a double that is not finite is zero, or is not finite either. -/
theorem exact_div_of_infinite (infinite : y.isFinite = false) : exact (x / y) = 0 := by
  change y.toModel.unpack.isFinite = false at infinite
  rw [exact_eq_unpackedValue, unpack_div]
  cases divisor : y.toModel.unpack with
  | finite =>
      rw [divisor] at infinite
      cases infinite
  | zero =>
      rw [divisor] at infinite
      cases infinite
  | _ =>
      cases x.toModel.unpack with
      | _ => exact unpackedValue_pack trivial trivial

end Quotients

end MapIngest.Decimal
