import MapIngest.Proofs.Decimal.Unpacked

/-!
# Rounding with residual bits

An exact result that has more bits than a mantissa is held as a mantissa and two
residual bits: whether the rest is at least one half, and whether anything is left
beyond that.  Shifting a mantissa to the right halves what it represents and loses
nothing that rounding needs.  Rounding to the nearest mantissa, with ties to the even
one, then reaches an even mantissa from half a unit below it on, and one only beyond
that.

A result is rounded at the exponent that leaves it 53 bits, or at the least one.  It
fits the format exactly if it is below the overflow threshold, and is rounded to zero
exactly if it is at most half of the least double.
-/

namespace MapIngest.Decimal

open Float.Model
open Float.Model.UnpackedFloat

/-- What a mantissa with residual bits stands for. -/
inductive Represents : ExtendedMantissa → ℚ → Prop where
  | exact (mantissa : Nat) : Represents ⟨mantissa, false, false⟩ mantissa
  | below {mantissa : Nat} {number : ℚ} (above : mantissa < number)
      (below : number < mantissa + 1 / 2) : Represents ⟨mantissa, false, true⟩ number
  | half (mantissa : Nat) : Represents ⟨mantissa, true, false⟩ (mantissa + 1 / 2)
  | above {mantissa : Nat} {number : ℚ} (above : mantissa + 1 / 2 < number)
      (below : number < mantissa + 1) : Represents ⟨mantissa, true, true⟩ number

namespace Represents

variable {extended : ExtendedMantissa} {number : ℚ}

theorem le (represents : Represents extended number) : extended.mantissa ≤ number := by
  cases represents with
  | exact mantissa => exact le_rfl
  | below above below => exact above.le
  | half mantissa => exact le_add_of_nonneg_right (by norm_num)
  | above above below => linarith

theorem lt (represents : Represents extended number) : number < extended.mantissa + 1 := by
  cases represents with
  | exact mantissa => exact lt_add_one _
  | below above below => linarith
  | half mantissa => linarith
  | above above below => exact below

/-! ## Shifting -/

theorem shiftRightOne (represents : Represents extended number) :
    Represents extended.shiftRightOne (number / 2) := by
  have parity : ∀ mantissa : Nat, ∃ half : Nat,
      mantissa / 2 = half ∧ (mantissa % 2 != 0) = false ∧ (mantissa : ℚ) = 2 * half ∨
      mantissa / 2 = half ∧ (mantissa % 2 != 0) = true ∧ (mantissa : ℚ) = 2 * half + 1 := by
    intro mantissa
    have split := Nat.div_add_mod mantissa 2
    refine ⟨mantissa / 2, ?_⟩
    rcases Nat.mod_two_eq_zero_or_one mantissa with even | odd
    · refine Or.inl ⟨rfl, by simp [even], ?_⟩
      exact_mod_cast (by omega : mantissa = 2 * (mantissa / 2))
    · refine Or.inr ⟨rfl, by simp [odd], ?_⟩
      exact_mod_cast (by omega : mantissa = 2 * (mantissa / 2) + 1)
  rcases extended with ⟨mantissa, round, sticky⟩
  rcases parity mantissa with ⟨half, ⟨quotient, bit, value⟩ | ⟨quotient, bit, value⟩⟩
  -- An even mantissa is halved exactly; what was left of it is now less than one half.
  · rw [ExtendedMantissa.shiftRightOne, quotient, bit]
    cases represents with
    | exact =>
        rw [value, mul_div_cancel_left₀ _ two_ne_zero]
        exact .exact half
    | below above below => exact .below (by linarith) (by linarith)
    | half => exact .below (by linarith) (by linarith)
    | above above below => exact .below (by linarith) (by linarith)
  -- The last bit of an odd one becomes the half, and the rest goes beyond it.
  · rw [ExtendedMantissa.shiftRightOne, quotient, bit]
    cases represents with
    | exact =>
        rw [value, add_div, mul_div_cancel_left₀ _ two_ne_zero]
        exact .half half
    | below above below => exact .above (by linarith) (by linarith)
    | half => exact .above (by linarith) (by linarith)
    | above above below => exact .above (by linarith) (by linarith)

theorem shiftRight (represents : Represents extended number) (count : Nat) :
    Represents (extended >>> count) (number / 2 ^ count) := by
  change Represents (count.repeat ExtendedMantissa.shiftRightOne extended) _
  induction count with
  | zero =>
      rw [pow_zero, div_one]
      exact represents
  | succ count ih =>
      rw [pow_succ, ← div_div]
      exact ih.shiftRightOne

/-! ## Rounding -/

theorem natCast_le_iff (floor : Nat) {bound : Nat} {number : ℚ} (le : floor ≤ number)
    (lt : number < floor + 1) : (bound : ℚ) ≤ number ↔ bound ≤ floor := by
  constructor
  · intro reached
    have below : (bound : ℚ) < (floor + 1 : Nat) := by
      push_cast
      exact reached.trans_lt lt
    exact Nat.le_of_lt_succ (by exact_mod_cast below)
  · intro reached
    exact le.trans' (by exact_mod_cast reached)

/-- An even mantissa is reached from half a unit below it on. -/
theorem even_le_rounded_iff (represents : Represents extended number) (half : Nat) :
    2 * half ≤ extended.roundedMantissa ↔ ((2 * half : Nat) : ℚ) ≤ number + 1 / 2 := by
  cases represents with
  | exact mantissa =>
      change _ ≤ mantissa ↔ _
      rw [natCast_le_iff mantissa] <;> linarith
  | @below mantissa _ above below =>
      change _ ≤ mantissa ↔ _
      rw [natCast_le_iff mantissa] <;> linarith
  | half mantissa =>
      change _ ≤ mantissa + mantissa % 2 ↔ _
      rw [natCast_le_iff (mantissa + 1)]
      · omega
      · push_cast
        linarith
      · push_cast
        linarith
  | @above mantissa _ above below =>
      change _ ≤ mantissa + 1 ↔ _
      rw [natCast_le_iff (mantissa + 1)]
      · push_cast
        linarith
      · push_cast
        linarith

/-- Nothing is left of at most half a unit. -/
theorem rounded_eq_zero_iff (represents : Represents extended number) :
    extended.roundedMantissa = 0 ↔ number ≤ 1 / 2 := by
  have filled : ∀ mantissa : Nat, mantissa ≠ 0 → (1 : ℚ) ≤ mantissa := by
    intro mantissa nonzero
    exact_mod_cast Nat.one_le_iff_ne_zero.mpr nonzero
  cases represents with
  | exact mantissa =>
      change mantissa = 0 ↔ _
      by_cases zero : mantissa = 0
      · simp [zero]
      · have := filled mantissa zero
        exact iff_of_false zero (by linarith)
  | @below mantissa _ above below =>
      change mantissa = 0 ↔ _
      by_cases zero : mantissa = 0
      · rw [zero, Nat.cast_zero] at below
        exact iff_of_true zero (by linarith)
      · have := filled mantissa zero
        exact iff_of_false zero (by linarith)
  | half mantissa =>
      change mantissa + mantissa % 2 = 0 ↔ _
      by_cases zero : mantissa = 0
      · simp [zero]
      · have := filled mantissa zero
        exact iff_of_false (by omega) (by linarith)
  | @above mantissa _ above below =>
      change mantissa + 1 = 0 ↔ _
      have : (0 : ℚ) ≤ mantissa := Nat.cast_nonneg mantissa
      exact iff_of_false (Nat.succ_ne_zero mantissa) (by linarith)

theorem rounded_le (represents : Represents extended number) :
    extended.roundedMantissa ≤ extended.mantissa + 1 := by
  cases represents with
  | exact mantissa => exact Nat.le_succ mantissa
  | @below mantissa => exact Nat.le_succ mantissa
  | half mantissa =>
      change mantissa + mantissa % 2 ≤ mantissa + 1
      omega
  | above => exact Nat.le_refl _

end Represents

/-! ## Closing a rounded mantissa -/

/-- The form of a rounded mantissa; one that has overflowed is halved. -/
def closed (sign : Sign) (rounded : Nat) (last : Int) : UnpackedFloat :=
  if filled : 0 < rounded then
    if rounded = 2 ^ 53 then .finite sign (2 ^ 52) (last + 1) (by decide)
    else .finite sign rounded last filled
  else .zero sign

section Closed

variable (sign : Sign) {rounded : Nat} {last : Int} (few : rounded ≤ 2 ^ 53)
  (least : -1074 ≤ last)

theorem abs_unpackedValue_closed :
    |unpackedValue (closed sign rounded last)| = rounded * 2 ^ last := by
  rw [closed]
  split
  · split
    next full =>
      rw [abs_unpackedValue_finite, full, zpow_add₀ two_ne_zero]
      push_cast
      ring
    next => rw [abs_unpackedValue_finite]
  next empty =>
    rw [Nat.eq_zero_of_not_pos empty]
    simp [unpackedValue]

include few least in
theorem canonical_closed (normal : 2 ^ 52 ≤ rounded ∨ last = -1074) :
    Canonical (closed sign rounded last) := by
  rw [closed]
  split
  · split
    · exact ⟨by decide, by omega, Or.inl (Nat.le_refl _)⟩
    · exact ⟨by omega, least, normal⟩
  · trivial

include few in
theorem fits_closed_iff (normal : 2 ^ 52 ≤ rounded ∨ last = -1074) :
    Fits (closed sign rounded last) ↔ last ≤ 970 ∨ last = 971 ∧ rounded < 2 ^ 53 := by
  rw [closed]
  split
  · split
    · change last + 1 ≤ 971 ↔ _
      omega
    · change last ≤ 971 ↔ _
      omega
  · exact iff_of_true trivial (by omega)

include few least in
/-- The second shift of rounding closes the rounded mantissa. -/
theorem shift_rounded :
    (shiftToTargetExponent .binary64 rounded last .exact).1.mantissa =
        (if rounded = 2 ^ 53 then 2 ^ 52 else rounded) ∧
      (shiftToTargetExponent .binary64 rounded last .exact).2 =
        if rounded = 2 ^ 53 then last + 1 else last := by
  have target : Format.binary64.targetExponent (totalExponent rounded last) =
      max ((rounded.log2 : Int) + 1 + last - 53) (-1074) := rfl
  by_cases full : rounded = 2 ^ 53
  · subst full
    have count :
        (Format.binary64.targetExponent (totalExponent (2 ^ 53) last) - last).toNat = 1 := by
      rw [target, Nat.log2_two_pow]
      omega
    rw [shiftToTargetExponent, shiftToExponent, count]
    exact ⟨rfl, rfl⟩
  · have short : rounded.log2 ≤ 52 := by
      rcases Nat.eq_zero_or_pos rounded with rfl | filled
      · decide
      · exact Nat.le_of_lt_succ ((Nat.log2_lt filled.ne').mpr (by omega))
    have count :
        (Format.binary64.targetExponent (totalExponent rounded last) - last).toNat = 0 := by
      rw [target]
      omega
    rw [shiftToTargetExponent, shiftToExponent, count, if_neg full, if_neg full]
    exact ⟨rfl, by simp⟩

include few least in
theorem close_rounded :
    (let final := shiftToTargetExponent .binary64 rounded last .exact
      if filled : final.1.mantissa = 0 then UnpackedFloat.zero sign
      else .finite sign final.1.mantissa final.2 (Nat.pos_of_ne_zero filled)) =
      closed sign rounded last := by
  have final := shift_rounded few least
  dsimp only
  generalize shiftToTargetExponent .binary64 rounded last .exact = pair at final
  rcases pair with ⟨⟨mantissa, round, sticky⟩, exponent⟩
  rcases final with ⟨halved, raised⟩
  obtain rfl : mantissa = _ := halved
  obtain rfl : exponent = _ := raised
  rw [closed]
  by_cases full : rounded = 2 ^ 53
  · simp [full]
  · by_cases empty : rounded = 0
    · simp [empty]
    · simp [full, empty, Nat.pos_of_ne_zero empty]

end Closed

/-! ## Rounding a result -/

/-- From here on a result is infinite: half a unit beyond the largest double. -/
def overflow : ℚ := 2 ^ 1024 - 2 ^ 970

theorem overflow_eq : overflow = (2 ^ 53 - 1 / 2) * 2 ^ (971 : Int) := by
  have split : (2 : ℚ) ^ (971 : Int) = 2 * 2 ^ 970 := by
    rw [show (971 : Int) = (971 : Nat) from rfl, zpow_natCast, pow_succ' 2 970]
  rw [overflow, split, show (1024 : Nat) = 54 + 970 from rfl, pow_add]
  generalize (2 : ℚ) ^ 970 = unit
  ring

/-- A form is what rounding makes of a size. -/
structure Rounds (size : ℚ) (form : UnpackedFloat) : Prop where
  finite : form.isFinite = true
  canonical : Canonical form
  fits : Fits form ↔ size < overflow
  vanishes : unpackedValue form = 0 ↔ size ≤ 2 ^ (-1075 : Int)

theorem isFinite_closed (sign : Sign) (rounded : Nat) (last : Int) :
    (closed sign rounded last).isFinite = true := by
  rw [closed]
  split
  · split <;> rfl
  · rfl

/-- A mantissa that is rounded at an exponent fits below the overflow threshold. -/
theorem fits_iff_lt_overflow {rounded : Nat} {last : Int} {number : ℚ}
    (full : rounded < 2 ^ 53 ↔ number < 2 ^ 53 - 1 / 2) (few : number < 2 ^ 53)
    (normal : 2 ^ 52 ≤ number ∨ last = -1074) :
    (last ≤ 970 ∨ last = 971 ∧ rounded < 2 ^ 53) ↔ number * 2 ^ last < overflow := by
  rw [overflow_eq]
  -- Only at the largest exponent of the format does the mantissa decide.
  rcases lt_trichotomy last 971 with under | rfl | beyond
  · refine iff_of_true (Or.inl (by omega)) ?_
    have range : (2 : ℚ) * 2 ^ last ≤ 2 ^ (971 : Int) := by
      rw [← zpow_one_add₀ two_ne_zero]
      exact zpow_le_zpow_right₀ one_le_two (by omega)
    have positive : (0 : ℚ) < 2 ^ last := by positivity
    calc
      number * 2 ^ last < 2 ^ 53 * 2 ^ last := mul_lt_mul_of_pos_right few positive
      _ ≤ (2 ^ 53 - 1 / 2) * (2 * 2 ^ last) := by linarith
      _ ≤ (2 ^ 53 - 1 / 2) * 2 ^ (971 : Int) := mul_le_mul_of_nonneg_left range (by norm_num)
  · rw [mul_lt_mul_iff_of_pos_right (by positivity), ← full]
    omega
  · refine iff_of_false (by omega) (not_lt.mpr ?_)
    have large := normal.resolve_right (by omega)
    have range : (2 : ℚ) * 2 ^ (971 : Int) ≤ 2 ^ last := by
      rw [← zpow_one_add₀ two_ne_zero]
      exact zpow_le_zpow_right₀ one_le_two (by omega)
    calc
      (2 ^ 53 - 1 / 2) * 2 ^ (971 : Int) ≤ 2 ^ 52 * (2 * 2 ^ (971 : Int)) := by
        have positive : (0 : ℚ) < 2 ^ (971 : Int) := by positivity
        generalize (2 : ℚ) ^ (971 : Int) = unit at positive
        linarith
      _ ≤ number * 2 ^ last := mul_le_mul large range (by positivity) (by linarith)

/-- A mantissa that is rounded at an exponent vanishes up to half of the least double. -/
theorem le_half_iff {last : Int} {number : ℚ} (least : -1074 ≤ last)
    (normal : 2 ^ 52 ≤ number ∨ last = -1074) :
    number ≤ 1 / 2 ↔ number * 2 ^ last ≤ 2 ^ (-1075 : Int) := by
  have half : (2 : ℚ) ^ (-1075 : Int) = 1 / 2 * 2 ^ (-1074 : Int) := by
    rw [show (-1075 : Int) = -1 + -1074 from rfl, zpow_add₀ two_ne_zero]
    norm_num
  rw [half]
  by_cases bottom : last = -1074
  · rw [bottom, mul_le_mul_iff_of_pos_right (by positivity)]
  · have large := normal.resolve_right bottom
    refine iff_of_false (by linarith) (not_le.mpr ?_)
    have range : (2 : ℚ) ^ (-1074 : Int) ≤ 2 ^ last := zpow_le_zpow_right₀ one_le_two least
    have positive : (0 : ℚ) < 2 ^ (-1074 : Int) := by positivity
    calc
      1 / 2 * 2 ^ (-1074 : Int) < 2 ^ 52 * 2 ^ (-1074 : Int) := by linarith
      _ ≤ number * 2 ^ last := mul_le_mul large range positive.le (by linarith)

section Shifted

variable {mantissa count : Nat} {number : ℚ}

theorem shifted_lt (lt : number < mantissa + 1) (short : mantissa.log2 + 1 ≤ 53 + count) :
    number / 2 ^ count < 2 ^ 53 := by
  rw [div_lt_iff₀ (by positivity), ← pow_add]
  refine lt.trans_le ?_
  have bound : mantissa + 1 ≤ 2 ^ (53 + count) :=
    Nat.lt_log2_self.trans_le (Nat.pow_le_pow_right two_pos short)
  exact_mod_cast bound

theorem le_shifted (le : mantissa ≤ number) (digits : mantissa.log2 = 52 + count) :
    2 ^ 52 ≤ number / 2 ^ count := by
  have filled : mantissa ≠ 0 := by
    rintro rfl
    rw [Nat.log2_zero] at digits
    omega
  rw [le_div_iff₀ (by positivity), ← pow_add, ← digits]
  refine le.trans' ?_
  exact_mod_cast Nat.log2_self_le filled

end Shifted

section Rounding

variable (sign : Sign) {mantissa : Nat} {exponent : Int} {accuracy : Accuracy} {number : ℚ}
  (represents : Represents (ExtendedMantissa.ofMantissaAndAccuracy mantissa accuracy) number)
  (low : exponent ≤ Format.binary64.targetExponent (totalExponent mantissa exponent))

include represents low

/-- A result is rounded at the exponent that leaves it 53 bits, or at the least one. -/
theorem roundWithAccuracy_eq_closed :
    ∃ extended shifted last, Represents extended shifted ∧
      roundWithAccuracy .binary64 sign mantissa exponent accuracy =
        closed sign extended.roundedMantissa last ∧
      extended.roundedMantissa ≤ 2 ^ 53 ∧
      -1074 ≤ last ∧ shifted < 2 ^ 53 ∧ (2 ^ 52 ≤ shifted ∨ last = -1074) ∧
      shifted * 2 ^ last = number * 2 ^ exponent := by
  have target : Format.binary64.targetExponent (totalExponent mantissa exponent) =
      max ((mantissa.log2 : Int) + 1 + exponent - 53) (-1074) := rfl
  have kept : (ExtendedMantissa.ofMantissaAndAccuracy mantissa accuracy).mantissa = mantissa := by
    cases accuracy with
    | exact => rfl
    | inexact order => cases order <;> rfl
  have le := represents.le
  have lt := represents.lt
  rw [kept] at le lt
  rcases Int.le.dest low with ⟨count, shift⟩
  have steps : (Format.binary64.targetExponent (totalExponent mantissa exponent) -
      exponent).toNat = count := by omega
  have shifted := represents.shiftRight count
  have few : number / 2 ^ count < 2 ^ 53 := shifted_lt lt (by omega)
  have normal : 2 ^ 52 ≤ number / 2 ^ count ∨ exponent + count = -1074 := by
    by_cases least : exponent + count = -1074
    · exact Or.inr least
    · exact Or.inl (le_shifted le (by omega))
  have scale : number / 2 ^ count * 2 ^ (exponent + count) = number * 2 ^ exponent := by
    rw [zpow_add₀ two_ne_zero, zpow_natCast]
    field_simp
  have rounded : (ExtendedMantissa.ofMantissaAndAccuracy mantissa accuracy >>>
      count).roundedMantissa ≤ 2 ^ 53 := by
    have floor := shifted.le.trans_lt few
    have below : (ExtendedMantissa.ofMantissaAndAccuracy mantissa accuracy >>> count).mantissa <
        2 ^ 53 := by exact_mod_cast floor
    exact shifted.rounded_le.trans below
  have least : -1074 ≤ exponent + (count : Int) := by omega
  refine ⟨_, _, _, shifted, ?_, rounded, least, few, normal, scale⟩
  rw [roundWithAccuracy, shiftToTargetExponent, shiftToExponent, steps]
  exact close_rounded sign rounded least

theorem rounds_roundWithAccuracy :
    Rounds (number * 2 ^ exponent)
      (roundWithAccuracy .binary64 sign mantissa exponent accuracy) := by
  rcases roundWithAccuracy_eq_closed sign represents low with
    ⟨extended, shifted, last, held, equal, most, least, few, normal, scale⟩
  have full : extended.roundedMantissa < 2 ^ 53 ↔ shifted < 2 ^ 53 - 1 / 2 := by
    rw [← not_le, show (2 : Nat) ^ 53 = 2 * 2 ^ 52 from rfl, held.even_le_rounded_iff, not_le,
      ← lt_sub_iff_add_lt]
    norm_num
  have normal' : 2 ^ 52 ≤ extended.roundedMantissa ∨ last = -1074 := by
    refine normal.imp_left fun large => ?_
    rw [show (2 : Nat) ^ 52 = 2 * 2 ^ 51 from rfl, held.even_le_rounded_iff]
    push_cast
    linarith
  rw [equal, ← scale]
  refine ⟨isFinite_closed sign _ last, canonical_closed sign most least normal', ?_, ?_⟩
  · rw [fits_closed_iff sign most normal']
    exact fits_iff_lt_overflow full few normal
  · rw [← abs_eq_zero, abs_unpackedValue_closed, mul_eq_zero,
      or_iff_left (zpow_ne_zero _ two_ne_zero), Nat.cast_eq_zero, held.rounded_eq_zero_iff]
    exact le_half_iff least normal

end Rounding

end MapIngest.Decimal
