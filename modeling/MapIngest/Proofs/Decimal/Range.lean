import MapIngest.Decimal.Binary64

/-!
# The range of integers that have a double

An integer whose absolute value is below `2 ^ 1023` is far from the bound beyond
which the nearest double is infinite.  Its mantissa is rounded to at most
`2 ^ 53`, and its exponent is at most that of the second largest binade.

In the last binade the bound is `2 ^ 1024 - 2 ^ 970`, halfway between the largest
double and the power of two after it: the mantissa of the largest double is odd, so
that the half itself is rounded up and has no double.
-/

namespace MapIngest.Decimal

/-- A quotient of at most a bound rounds to at most the bound. -/
theorem roundDiv_le {numerator denominator bound : Nat} (positive : 0 < denominator)
    (below : numerator ≤ bound * denominator) : roundDiv numerator denominator ≤ bound := by
  rcases roundDiv_near numerator positive with ⟨near, -⟩
  refine Nat.le_of_not_lt fun above => ?_
  have step : (bound + 1) * denominator ≤ roundDiv numerator denominator * denominator :=
    Nat.mul_le_mul_right denominator above
  rw [Nat.succ_mul] at step
  omega

/-- The doubles around an integer of at least one leave 53 bits. -/
theorem lastBitExponent_one {n : Nat} (positive : n ≠ 0) :
    lastBitExponent n 1 = (n.log2 : Int) - 52 := by
  have reached := Nat.log2_self_le positive
  have unit : Nat.log2 1 = 0 := by decide
  simp only [lastBitExponent, unit]
  have estimate : ((n.log2 : Int) - ((0 : Nat) : Int)).toNat = n.log2 := by omega
  have negated : (-((n.log2 : Int) - ((0 : Nat) : Int))).toNat = 0 := by omega
  rw [estimate, negated, if_neg (by omega)]
  omega

/-- The mantissa of an integer has at most 53 bits, or is `2 ^ 53`. -/
theorem mantissa_le (n : Nat) :
    roundDiv (n * 2 ^ (-((n.log2 : Int) - 52)).toNat) (1 * 2 ^ ((n.log2 : Int) - 52).toNat) ≤
      2 ^ 53 := by
  refine roundDiv_le (Nat.mul_pos Nat.one_pos (Nat.two_pow_pos _)) ?_
  have balance : n.log2 + 1 + (-((n.log2 : Int) - 52)).toNat =
      53 + ((n.log2 : Int) - 52).toNat := by omega
  calc
    n * 2 ^ (-((n.log2 : Int) - 52)).toNat
        ≤ 2 ^ (n.log2 + 1) * 2 ^ (-((n.log2 : Int) - 52)).toNat :=
      Nat.mul_le_mul_right _ (Nat.le_of_lt Nat.lt_log2_self)
    _ = 2 ^ 53 * (1 * 2 ^ ((n.log2 : Int) - 52).toNat) := by
      rw [← Nat.pow_add, balance, Nat.pow_add, Nat.one_mul]

/-- The double nearest to an integer below `2 ^ 1023` is finite. -/
theorem nearestBits_lt {n : Nat} (small : n < 2 ^ 1023) : nearestBits n 1 < infinityBits := by
  unfold nearestBits
  split
  · decide
  · rename_i positive
    have exponent : n.log2 < 1023 := (Nat.log2_lt positive).mpr small
    have mantissa := mantissa_le n
    simp only [lastBitExponent_one positive]
    generalize roundDiv _ _ = rounded at mantissa ⊢
    have leading : ((n.log2 : Int) - 52 + 1075).toNat ≤ 2045 := by omega
    have finite : 2046 * 2 ^ 52 < infinityBits := by decide
    split
    · omega
    · have : ((n.log2 : Int) - 52 + 1075).toNat * 2 ^ 52 ≤ 2045 * 2 ^ 52 :=
        Nat.mul_le_mul_right _ leading
      omega

/-- An integer whose absolute value is below `2 ^ 1023` has a double. -/
theorem ofInteger?_isSome {n : Int} (small : n.natAbs < 2 ^ 1023) :
    ofInteger? n = some (ofInteger n) := by
  rw [ofInteger?, if_pos (nearestBits_lt small)]

/-! ## The bound -/

theorem div_le_roundDiv (numerator denominator : Nat) :
    numerator / denominator ≤ roundDiv numerator denominator := by
  unfold roundDiv
  dsimp only
  repeat' split
  all_goals omega

theorem roundDiv_le_div_succ (numerator denominator : Nat) :
    roundDiv numerator denominator ≤ numerator / denominator + 1 := by
  unfold roundDiv
  dsimp only
  repeat' split
  all_goals omega

/-- A quotient of at least a bound rounds to at least the bound. -/
theorem le_roundDiv {numerator denominator bound : Nat} (positive : 0 < denominator)
    (above : bound * denominator ≤ numerator) : bound ≤ roundDiv numerator denominator :=
  Nat.le_trans ((Nat.le_div_iff_mul_le positive).mpr above) (div_le_roundDiv _ _)

/-- A half below an even bound is rounded up to the bound. -/
theorem roundDiv_lt_iff {numerator denominator bound : Nat} (positive : 0 < denominator)
    (even : bound % 2 = 0) :
    roundDiv numerator denominator < bound ↔
      2 * numerator + denominator < 2 * (bound * denominator) := by
  have split := Nat.div_add_mod numerator denominator
  have small := Nat.mod_lt numerator positive
  have lower := div_le_roundDiv numerator denominator
  have upper := roundDiv_le_div_succ numerator denominator
  rw [Nat.mul_comm] at split
  -- The quotient decides, unless it is the last one below the bound.
  rcases Nat.lt_trichotomy (numerator / denominator + 1) bound with below | last | above
  · have room : (numerator / denominator + 2) * denominator ≤ bound * denominator :=
      Nat.mul_le_mul_right denominator below
    rw [Nat.add_mul] at room
    exact iff_of_true (by omega) (by omega)
  · have step : bound * denominator =
        numerator / denominator * denominator + denominator := by
      rw [← last, Nat.add_mul, Nat.one_mul]
    unfold roundDiv
    dsimp only
    repeat' split
    all_goals omega
  · have room : bound * denominator ≤ numerator / denominator * denominator :=
      Nat.mul_le_mul_right denominator (Nat.le_of_lt_succ above)
    exact iff_of_false (by omega) (by omega)

/-- The mantissa of a large integer fills its 53 bits. -/
theorem le_mantissa {n : Nat} (positive : n ≠ 0) (large : 52 ≤ n.log2) :
    2 ^ 52 ≤ roundDiv n (2 ^ (n.log2 - 52)) := by
  refine le_roundDiv (Nat.two_pow_pos _) ?_
  calc
    2 ^ 52 * 2 ^ (n.log2 - 52) = 2 ^ n.log2 := by
      rw [← Nat.pow_add, Nat.add_sub_of_le large]
    _ ≤ n := Nat.log2_self_le positive

/-- The bits nearest to a large integer, by its rounded mantissa. -/
theorem nearestBits_of_large {n : Nat} (positive : n ≠ 0) (large : 52 ≤ n.log2) :
    nearestBits n 1 =
      min infinityBits
        ((n.log2 + 1023) * 2 ^ 52 + (roundDiv n (2 ^ (n.log2 - 52)) - 2 ^ 52)) := by
  have mantissa := le_mantissa positive large
  have upward : (-((n.log2 : Int) - 52)).toNat = 0 := by omega
  have downward : ((n.log2 : Int) - 52).toNat = n.log2 - 52 := by omega
  have field : ((n.log2 : Int) - 52 + 1075).toNat = n.log2 + 1023 := by omega
  rw [nearestBits, if_neg positive]
  simp only [lastBitExponent_one positive, upward, downward, field, Nat.pow_zero, Nat.mul_one,
    Nat.one_mul]
  rw [if_neg (Nat.not_lt.mpr mantissa)]

/-- The double nearest to an integer is finite below the overflow threshold. -/
theorem nearestBits_lt_iff {n : Nat} :
    nearestBits n 1 < infinityBits ↔ n < 2 ^ 1024 - 2 ^ 970 := by
  rw [show (1024 : Nat) = 54 + 970 from rfl]
  have threshold := Nat.pow_add 2 54 970
  have half := Nat.pow_add 2 53 970
  have unit := Nat.two_pow_succ 970
  have filled := Nat.two_pow_pos 970
  by_cases small : n < 2 ^ 1023
  · refine iff_of_true (nearestBits_lt small) ?_
    rw [show (1023 : Nat) = 53 + 970 from rfl] at small
    generalize (2 : Nat) ^ 970 = step at *
    omega
  · have positive : n ≠ 0 := by
      rintro rfl
      exact small (Nat.two_pow_pos 1023)
    have exponent : 1023 ≤ n.log2 := (Nat.le_log2 positive).mpr (Nat.not_lt.mp small)
    have mantissa := le_mantissa positive (by omega)
    have infinite : infinityBits = 2047 * 2 ^ 52 := by decide
    rw [nearestBits_of_large positive (by omega), infinite]
    by_cases last : n.log2 = 1023
    · -- In the last binade the mantissa may be rounded up to the next power of two.
      have digits : n.log2 - 52 = 970 + 1 := by omega
      have rounded := @roundDiv_lt_iff n (2 ^ (970 + 1)) (2 ^ 53)
        (Nat.two_pow_pos (970 + 1)) (by decide)
      rw [digits] at mantissa ⊢
      rw [last]
      generalize roundDiv n (2 ^ (970 + 1)) = bits at *
      generalize (2 : Nat) ^ 970 = step at *
      omega
    · have beyond := (Nat.le_log2 positive (k := 54 + 970)).mp (by omega)
      refine iff_of_false ?_ ?_
      · have field : 2047 * 2 ^ 52 ≤ (n.log2 + 1023) * 2 ^ 52 :=
          Nat.mul_le_mul_right _ (by omega)
        generalize roundDiv n _ = bits at *
        omega
      · generalize (2 : Nat) ^ 970 = step at *
        omega

/-- An integer has a double exactly if its absolute value is below the overflow threshold. -/
theorem ofInteger?_eq_none_iff {n : Int} :
    ofInteger? n = none ↔ 2 ^ 1024 - 2 ^ 970 ≤ n.natAbs := by
  rw [← Nat.not_lt, ← nearestBits_lt_iff, ofInteger?]
  split <;> simp [*]

end MapIngest.Decimal
