import MapIngest.Proofs.Decimal.Bits
import MapIngest.Sensor.Single

/-!
# Widening is exact

The double that a number of single precision is widened to has the same sign and
the same exact value; if one of them has no exact value, neither has the other.
Narrowing takes such a double back to a pattern of bits that is widened to the same
double, so that a double of single precision survives being written and read.
-/

namespace MapIngest.Decimal

namespace Scaled

/-- Two numbers have one sign and one exact value. -/
def Same (left right : Scaled) : Prop :=
  left.negative = right.negative ∧
    left.numerator * right.denominator = right.numerator * left.denominator

theorem same_refl (number : Scaled) : number.Same number := ⟨rfl, rfl⟩

/-- A power of two in the mantissa may stand in the exponent. -/
theorem same_shift (negative : Bool) (mantissa shift : Nat) {exponent last : Int}
    (balance : exponent + shift = last) :
    Same ⟨negative, mantissa, last⟩ ⟨negative, mantissa * 2 ^ shift, exponent⟩ := by
  have powers : last.toNat + (-exponent).toNat =
      shift + (exponent.toNat + (-last).toNat) := by omega
  refine ⟨rfl, ?_⟩
  rw [numerator, denominator, numerator, denominator]
  calc
    mantissa * 2 ^ last.toNat * 2 ^ (-exponent).toNat
        = mantissa * 2 ^ (last.toNat + (-exponent).toNat) := by
      rw [Nat.mul_assoc, ← Nat.pow_add]
    _ = mantissa * 2 ^ (shift + (exponent.toNat + (-last).toNat)) := by rw [powers]
    _ = mantissa * 2 ^ shift * 2 ^ exponent.toNat * 2 ^ (-last).toNat := by
      rw [Nat.pow_add, Nat.pow_add, Nat.mul_assoc, Nat.mul_assoc]

theorem same_zero (negative : Bool) (exponent other : Int) :
    Same ⟨negative, 0, exponent⟩ ⟨negative, 0, other⟩ :=
  ⟨rfl, by simp [numerator]⟩

end Scaled

theorem roundDiv_mul (quotient : Nat) {denominator : Nat} (positive : 0 < denominator) :
    roundDiv (quotient * denominator) denominator = quotient := by
  simp only [roundDiv]
  rw [Nat.mul_div_cancel _ positive, Nat.mul_mod_left, if_pos (by omega)]

end MapIngest.Decimal

namespace MapIngest.Sensor

open MapIngest.Decimal

/-! ## Assembled doubles -/

theorem scaled?_assemble (negative : Bool) {field fraction : Nat} (finite : field < 2047)
    (small : fraction < 2 ^ 52) :
    scaled? (assemble negative field fraction) =
      if field = 0 then some ⟨negative, fraction, -1074⟩
      else some ⟨negative, 2 ^ 52 + fraction, (field : Int) - 1075⟩ := by
  have fits : (if negative then 2 ^ 63 else 0) + field * 2 ^ 52 + fraction < 2 ^ 64 := by
    cases negative <;> simp <;> omega
  have sign : decide (2 ^ (11 + 52) ≤
      (if negative then 2 ^ 63 else 0) + field * 2 ^ 52 + fraction) = negative := by
    cases negative <;> simp <;> omega
  have fields : ((if negative then 2 ^ 63 else 0) + field * 2 ^ 52 + fraction) /
      2 ^ 52 % 2 ^ 11 = field := by
    cases negative <;> simp <;> omega
  have fractions : ((if negative then 2 ^ 63 else 0) + field * 2 ^ 52 + fraction) %
      2 ^ 52 = fraction := by
    cases negative <;> simp <;> omega
  rw [assemble, scaled?_ofBits fits]
  simp only [exactValue?, sign, fields, fractions]
  rw [if_neg (by omega)]
  rfl

/-- A nonzero fraction fills 53 bits when it is shifted by the bits that it lacks. -/
theorem shifted_fraction {fraction : Nat} (nonzero : fraction ≠ 0) (small : fraction < 2 ^ 23) :
    fraction.log2 ≤ 22 ∧
      (fraction - 2 ^ fraction.log2) * 2 ^ (52 - fraction.log2) < 2 ^ 52 ∧
      2 ^ 52 + (fraction - 2 ^ fraction.log2) * 2 ^ (52 - fraction.log2) =
        fraction * 2 ^ (52 - fraction.log2) := by
  have leading : fraction.log2 < 23 := (Nat.log2_lt nonzero).mpr small
  have reached := Nat.log2_self_le nonzero
  have below := @Nat.lt_log2_self fraction
  have split : 2 ^ fraction.log2 * 2 ^ (52 - fraction.log2) = 2 ^ 52 := by
    rw [← Nat.pow_add]
    congr 1
    omega
  refine ⟨by omega, ?_, ?_⟩
  · calc
      (fraction - 2 ^ fraction.log2) * 2 ^ (52 - fraction.log2)
          < 2 ^ fraction.log2 * 2 ^ (52 - fraction.log2) :=
        Nat.mul_lt_mul_of_pos_right (by rw [Nat.pow_succ] at below; omega) (Nat.two_pow_pos _)
      _ = 2 ^ 52 := split
  · rw [Nat.sub_mul, split]
    have above : 2 ^ 52 ≤ fraction * 2 ^ (52 - fraction.log2) := by
      rw [← split]
      exact Nat.mul_le_mul_right _ reached
    omega

theorem log2_of_leading {fraction : Nat} (small : fraction < 2 ^ 52) :
    (2 ^ 52 + fraction).log2 = 52 := by
  rw [Nat.log2_eq_iff (by omega)]
  omega

/-! ## Widening -/

section Widening

variable {bits : Nat}

theorem scaled?_widen_unbounded (all : bits / 2 ^ 23 % 2 ^ 8 = 255) :
    scaled? (widen bits) = none := by
  have infinite : ∀ negative, scaled? (assemble negative 2047 0) = none := by decide
  have stray : scaled? (assemble false 2047 (2 ^ 51)) = none := by decide
  simp only [widen, all]
  rw [if_pos trivial]
  split
  · exact infinite _
  · exact stray

theorem scaled?_widen_zero (lowest : bits / 2 ^ 23 % 2 ^ 8 = 0) (zero : bits % 2 ^ 23 = 0) :
    scaled? (widen bits) = some ⟨decide (2 ^ 31 ≤ bits), 0, -1074⟩ := by
  simp only [widen, lowest, zero]
  rw [if_neg (by decide), if_pos trivial, if_pos trivial,
    scaled?_assemble _ (by decide) (by decide), if_pos rfl]

theorem scaled?_widen_subnormal (lowest : bits / 2 ^ 23 % 2 ^ 8 = 0)
    (nonzero : bits % 2 ^ 23 ≠ 0) :
    scaled? (widen bits) = some ⟨decide (2 ^ 31 ≤ bits),
      bits % 2 ^ 23 * 2 ^ (52 - (bits % 2 ^ 23).log2), (bits % 2 ^ 23).log2 - 201⟩ := by
  rcases shifted_fraction nonzero (Nat.mod_lt _ (by decide)) with ⟨leading, small, shifted⟩
  have last : (((bits % 2 ^ 23).log2 + 874 : Nat) : Int) - 1075 =
      (bits % 2 ^ 23).log2 - 201 := by omega
  simp only [widen, lowest]
  rw [if_neg (by decide), if_pos trivial, if_neg nonzero, scaled?_assemble _ (by omega) small,
    if_neg (by omega), shifted, last]

theorem scaled?_widen_normal (finite : bits / 2 ^ 23 % 2 ^ 8 ≠ 255)
    (normal : bits / 2 ^ 23 % 2 ^ 8 ≠ 0) :
    scaled? (widen bits) = some ⟨decide (2 ^ 31 ≤ bits),
      (2 ^ 23 + bits % 2 ^ 23) * 2 ^ 29, (bits / 2 ^ 23 % 2 ^ 8 : Nat) - 179⟩ := by
  have fieldBound : bits / 2 ^ 23 % 2 ^ 8 < 2 ^ 8 := Nat.mod_lt _ (by decide)
  have fractionBound : bits % 2 ^ 23 < 2 ^ 23 := Nat.mod_lt _ (by decide)
  have shifted : 2 ^ 52 + bits % 2 ^ 23 * 2 ^ 29 = (2 ^ 23 + bits % 2 ^ 23) * 2 ^ 29 := by omega
  have last : ((bits / 2 ^ 23 % 2 ^ 8 + 896 : Nat) : Int) - 1075 =
      (bits / 2 ^ 23 % 2 ^ 8 : Nat) - 179 := by omega
  simp only [widen]
  rw [if_neg finite, if_neg normal, scaled?_assemble _ (by omega) (by omega), if_neg (by omega),
    shifted, last]

theorem exactValue?_single (bits : Nat) :
    exactValue? 8 23 bits =
      if bits / 2 ^ 23 % 2 ^ 8 = 255 then none
      else if bits / 2 ^ 23 % 2 ^ 8 = 0 then
        some ⟨decide (2 ^ 31 ≤ bits), bits % 2 ^ 23, -149⟩
      else
        some ⟨decide (2 ^ 31 ≤ bits), 2 ^ 23 + bits % 2 ^ 23,
          (bits / 2 ^ 23 % 2 ^ 8 : Nat) - 150⟩ := rfl

/-- The exact value of a widened number is the one that its bits stand for. -/
theorem widen_exact (bits : Nat) :
    Option.Rel Scaled.Same (exactValue? 8 23 bits) (scaled? (widen bits)) := by
  have fractionBound : bits % 2 ^ 23 < 2 ^ 23 := Nat.mod_lt _ (by decide)
  rw [exactValue?_single]
  by_cases all : bits / 2 ^ 23 % 2 ^ 8 = 255
  · rw [if_pos all, scaled?_widen_unbounded all]
    exact .none
  · rw [if_neg all]
    by_cases lowest : bits / 2 ^ 23 % 2 ^ 8 = 0
    · rw [if_pos lowest]
      by_cases zero : bits % 2 ^ 23 = 0
      · rw [scaled?_widen_zero lowest zero, zero]
        exact .some (Scaled.same_zero ..)
      · have leading := (shifted_fraction zero fractionBound).1
        rw [scaled?_widen_subnormal lowest zero]
        exact .some (Scaled.same_shift _ _ _ (by omega))
    · rw [if_neg lowest, scaled?_widen_normal all lowest]
      exact .some (Scaled.same_shift _ _ _ (by omega))

end Widening

/-! ## Narrowing -/

/-- A mantissa of 53 bits whose last bits are zero is narrowed by dropping them. -/
theorem nearestSingle_shift {mantissa shift : Nat} {exponent : Int}
    (leading : (mantissa * 2 ^ shift).log2 = 52)
    (last : max (exponent + 29) (-149) = exponent + shift) :
    nearestSingle (mantissa * 2 ^ shift) exponent =
      if mantissa < 2 ^ 23 then mantissa
      else min infiniteSingle
        ((exponent + shift + 150).toNat * 2 ^ 23 + (mantissa - 2 ^ 23)) := by
  have start : max (exponent + ((52 : Nat) : Int) - 23) (-149) = exponent + shift := by
    rw [← last]
    congr 1
    omega
  have lowered : (exponent - (exponent + shift)).toNat = 0 := by omega
  have dropped : (exponent + shift - exponent).toNat = shift := by omega
  simp only [nearestSingle, leading, start, lowered, dropped]
  rw [Nat.pow_zero, Nat.mul_one, roundDiv_mul _ (Nat.two_pow_pos _)]

theorem narrow_widen {bits : Nat} (fits : bits < 2 ^ 32)
    (finite : bits / 2 ^ 23 % 2 ^ 8 ≠ 255) : narrow (widen bits) = bits := by
  have fractionBound : bits % 2 ^ 23 < 2 ^ 23 := Nat.mod_lt _ (by decide)
  have parts : (if decide (2 ^ 31 ≤ bits) then 2 ^ 31 else 0) +
      (bits / 2 ^ 23 % 2 ^ 8 * 2 ^ 23 + bits % 2 ^ 23) = bits := by
    simp only [decide_eq_true_eq]
    split <;> omega
  by_cases lowest : bits / 2 ^ 23 % 2 ^ 8 = 0
  · rw [lowest] at parts
    by_cases zero : bits % 2 ^ 23 = 0
    · rw [zero] at parts
      rw [narrow, scaled?_widen_zero lowest zero]
      exact parts
    · rcases shifted_fraction zero fractionBound with ⟨leading, small, shifted⟩
      have filled : bits % 2 ^ 23 * 2 ^ (52 - (bits % 2 ^ 23).log2) ≠ 0 := by omega
      have nearest := @nearestSingle_shift (bits % 2 ^ 23) (52 - (bits % 2 ^ 23).log2)
        ((bits % 2 ^ 23).log2 - 201) (by rw [← shifted, log2_of_leading small]) (by omega)
      rw [narrow, scaled?_widen_subnormal lowest zero]
      simp only
      rw [if_neg filled, nearest, if_pos fractionBound]
      rwa [Nat.zero_mul, Nat.zero_add] at parts
  · have fieldBound : bits / 2 ^ 23 % 2 ^ 8 < 2 ^ 8 := Nat.mod_lt _ (by decide)
    have leading : ((2 ^ 23 + bits % 2 ^ 23) * 2 ^ 29).log2 = 52 := by
      have shifted : (2 ^ 23 + bits % 2 ^ 23) * 2 ^ 29 = 2 ^ 52 + bits % 2 ^ 23 * 2 ^ 29 := by
        omega
      rw [shifted, log2_of_leading (by omega)]
    have nearest := @nearestSingle_shift (2 ^ 23 + bits % 2 ^ 23) 29
      ((bits / 2 ^ 23 % 2 ^ 8 : Nat) - 179) leading (by omega)
    have field : (((bits / 2 ^ 23 % 2 ^ 8 : Nat) : Int) - 179 + (29 : Nat) + 150).toNat =
        bits / 2 ^ 23 % 2 ^ 8 := by omega
    have bounded : bits / 2 ^ 23 % 2 ^ 8 * 2 ^ 23 + bits % 2 ^ 23 ≤ infiniteSingle := by
      rw [infiniteSingle]
      omega
    have filled : (2 ^ 23 + bits % 2 ^ 23) * 2 ^ 29 ≠ 0 := by omega
    have above : ¬ 2 ^ 23 + bits % 2 ^ 23 < 2 ^ 23 := by omega
    rw [narrow, scaled?_widen_normal finite lowest]
    simp only
    rw [if_neg filled, nearest, if_neg above, field, Nat.add_sub_cancel_left,
      Nat.min_eq_right bounded]
    exact parts

/-- A double is a number of single precision. -/
def IsSingle (x : Float) : Prop :=
  ∃ bits < 2 ^ 32, widen bits = x

/-- A number of single precision survives being narrowed. -/
theorem widen_narrow {x : Float} (single : IsSingle x) :
    narrow x < 2 ^ 32 ∧ widen (narrow x) = x := by
  rcases single with ⟨bits, fits, rfl⟩
  by_cases all : bits / 2 ^ 23 % 2 ^ 8 = 255
  · -- Only three doubles are left: the infinite ones, and the one that is not a number.
    have closed : widen bits = assemble true 2047 0 ∨ widen bits = assemble false 2047 0 ∨
        widen bits = assemble false 2047 (2 ^ 51) := by
      simp only [widen, all]
      rw [if_pos trivial]
      split
      · cases decide (2 ^ 31 ≤ bits)
        · exact Or.inr (Or.inl rfl)
        · exact Or.inl rfl
      · exact Or.inr (Or.inr rfl)
    rcases closed with same | same | same <;> rw [same] <;> decide +kernel
  · rw [narrow_widen fits all]
    exact ⟨fits, rfl⟩

instance : DecidablePred IsSingle := fun x =>
  decidable_of_iff (narrow x < 2 ^ 32 ∧ widen (narrow x) = x)
    ⟨fun back => ⟨narrow x, back.1, back.2⟩, widen_narrow⟩

end MapIngest.Sensor
