import MapIngest.Proofs.Decimal.Bits

/-!
# Unpacked doubles

An operation on doubles unpacks its operands, works on signs, mantissas and exponents,
and packs the result.  A finite double is unpacked in a canonical form: its mantissa has
53 bits, or fewer at the least exponent, and its exponent is in the range of the format.
Packing such a form is undone by unpacking; a form with a larger exponent is packed as
an infinite double.

The exact value of a double is the one of its unpacked form, which negation negates.
-/

namespace MapIngest.Decimal

open Float.Model
open Float.Model.UnpackedFloat (Sign unpackSign unpackExponent unpackMantissa packComponents)

/-- The mantissa has 53 bits, or fewer of them at the least exponent. -/
def Canonical : UnpackedFloat → Prop
  | .finite _ mantissa exponent _ =>
    mantissa < 2 ^ 53 ∧ -1074 ≤ exponent ∧ (2 ^ 52 ≤ mantissa ∨ exponent = -1074)
  | _ => True

/-- The exponent is within the range of the format. -/
def Fits : UnpackedFloat → Prop
  | .finite _ _ exponent _ => exponent ≤ 971
  | _ => True

/-! ## Components -/

/-- The double that a sign, an exponent field and a fraction stand for. -/
def ofComponents (sign : Sign) (field : BitVec 11) (fraction : BitVec 52) : UnpackedFloat :=
  if field = -1#11 then
    if fraction = 0#52 then .infinity sign else .notANumber
  else if field = 0#11 then
    if filled : 0 < fraction.toNat then .finite sign fraction.toNat (-1074) filled
    else .zero sign
  else
    .finite sign (2 ^ 52 + fraction.toNat) (field.toNat - 1075) (by omega)

/-- A fraction with the leading bit that is left out of the bits. -/
theorem toNat_append (fraction : BitVec 52) :
    (1#1 ++ fraction).toNat = 2 ^ 52 + fraction.toNat := by
  rw [BitVec.toNat_append, ← Nat.shiftLeft_add_eq_or_of_lt fraction.isLt]
  rfl

theorem unpack_eq_ofComponents (bits : BitVec Format.binary64.numBits) :
    UnpackedFloat.unpack .binary64 bits =
      ofComponents (Sign.ofBitVec (unpackSign bits)) (unpackExponent bits)
        (unpackMantissa bits) := by
  have empty : ¬ 0 < (unpackMantissa bits).toNat ↔ unpackMantissa bits = 0#_ := by
    rw [← BitVec.toNat_inj]
    simp
  rw [UnpackedFloat.unpack, ofComponents]
  dsimp only
  split
  · rfl
  · split
    next zero =>
      split
      next none => rw [dif_neg (empty.mpr none)]
      next some =>
        rw [dif_pos (Decidable.not_not.mp (mt empty.mp some)), zero]
        rfl
    next =>
      simp only [toNat_append]
      rfl

theorem canonical_ofComponents (sign : Sign) (field : BitVec 11) (fraction : BitVec 52) :
    Canonical (ofComponents sign field fraction) ∧ Fits (ofComponents sign field fraction) := by
  have few := fraction.isLt
  have bound := field.isLt
  rw [ofComponents]
  split
  · split <;> exact ⟨trivial, trivial⟩
  next finite =>
    have below : field.toNat ≠ 2047 := fun all => finite (BitVec.eq_of_toNat_eq all)
    split
    next zero =>
      split
      · exact ⟨⟨by omega, Int.le_refl _, Or.inr rfl⟩, Int.le_of_lt (by decide)⟩
      · exact ⟨trivial, trivial⟩
    next filled =>
      have above : field.toNat ≠ 0 := fun none => filled (BitVec.eq_of_toNat_eq none)
      simp only [Canonical, Fits]
      omega

theorem canonical_unpack (x : Float) : Canonical x.toModel.unpack ∧ Fits x.toModel.unpack := by
  rw [Float.Model.unpack, unpack_eq_ofComponents]
  exact canonical_ofComponents _ _ _

theorem unpack_packComponents (sign : Sign) (field : BitVec 11) (fraction : BitVec 52) :
    UnpackedFloat.unpack .binary64 (packComponents .binary64 sign field fraction) =
      ofComponents sign field fraction := by
  rw [unpack_eq_ofComponents, UnpackedFloat.unpackSign_packComponents, Sign.ofBitVec_toBitVec,
    UnpackedFloat.unpackExponent_packComponents, UnpackedFloat.unpackMantissa_packComponents]

/-! ## Packing -/

theorem log2_of_canonical {sign : Sign} {mantissa : Nat} {exponent : Int}
    {positive : 0 < mantissa} (canonical : Canonical (.finite sign mantissa exponent positive)) :
    mantissa.log2 + 1 = 53 ↔ 2 ^ 52 ≤ mantissa := by
  have filled : mantissa ≠ 0 := Nat.ne_of_gt positive
  have least := Nat.le_log2 (k := 52) filled
  have most := (Nat.log2_lt filled).mpr canonical.1
  omega

/-- The bits of a finite form. -/
theorem pack_finite (sign : Sign) (mantissa : Nat) (exponent : Int) (positive : 0 < mantissa) :
    UnpackedFloat.pack .binary64 (.finite sign mantissa exponent positive) =
      if 2047 ≤ (exponent + 1075).toNat then packComponents .binary64 sign (-1#11) 0#52
      else if mantissa.log2 + 1 = 53 then
        packComponents .binary64 sign (BitVec.ofNat 11 (exponent + 1075).toNat)
          (BitVec.ofNat 52 mantissa)
      else packComponents .binary64 sign 0#11 (BitVec.ofNat 52 mantissa) := by
  have bias : exponent + (Format.binary64.exponentBias : Int) +
      (Format.binary64.mantissaBitsWithoutImplicit : Int) = exponent + 1075 := by
    rw [Int.add_assoc]
    rfl
  simp only [UnpackedFloat.pack, bias]
  rw [show Format.binary64.mantissaBits = 53 from rfl]
  congr 1
  simp

/-- Unpacking undoes packing, unless the exponent is out of range. -/
theorem unpack_pack {form : UnpackedFloat} (canonical : Canonical form) (fits : Fits form) :
    (Float.Model.pack form).unpack = form := by
  change UnpackedFloat.unpack .binary64 (UnpackedFloat.pack .binary64 form) = form
  cases form with
  | notANumber => rfl
  | infinity sign =>
      cases sign <;> rfl
  | zero sign =>
      cases sign <;> rfl
  | finite sign mantissa exponent positive =>
      have full := log2_of_canonical canonical
      rcases canonical with ⟨few, least, normal⟩
      have range : exponent ≤ 971 := fits
      rw [pack_finite, if_neg (by omega)]
      split
      · have field : (BitVec.ofNat 11 (exponent + 1075).toNat).toNat = (exponent + 1075).toNat := by
          rw [BitVec.toNat_ofNat, Nat.mod_eq_of_lt (by omega)]
        have fraction : 2 ^ 52 + (BitVec.ofNat 52 mantissa).toNat = mantissa := by
          rw [BitVec.toNat_ofNat]
          omega
        rw [unpack_packComponents, ofComponents, if_neg, if_neg]
        · simp only [fraction, field]
          congr 1
          omega
        · intro zero
          rw [← BitVec.toNat_inj, field] at zero
          simp at zero
          omega
        · intro all
          rw [← BitVec.toNat_inj, field] at all
          simp at all
          omega
      · have fraction : (BitVec.ofNat 52 mantissa).toNat = mantissa := by
          rw [BitVec.toNat_ofNat, Nat.mod_eq_of_lt (by omega)]
        rw [unpack_packComponents, ofComponents, if_neg (by decide), if_pos rfl]
        simp only [fraction]
        rw [dif_pos positive]
        congr 1
        omega

/-- A form with too large an exponent is packed as an infinite double. -/
theorem unpack_pack_of_large {sign : Sign} {mantissa : Nat} {exponent : Int}
    {positive : 0 < mantissa} (large : 971 < exponent) :
    (Float.Model.pack (.finite sign mantissa exponent positive)).unpack = .infinity sign := by
  change UnpackedFloat.unpack .binary64 (UnpackedFloat.pack .binary64 _) = _
  rw [pack_finite, if_pos (by omega), unpack_packComponents, ofComponents, if_pos rfl, if_pos rfl]

/-! ## Exact values -/

/-- The value of a number with a mantissa and an exponent. -/
def Scaled.value (number : Scaled) : ℚ :=
  (if number.negative then -1 else 1) * number.mantissa * 2 ^ number.exponent

/-- The exact value of a double; zero, if it is infinite or not a number. -/
def exact (x : Float) : ℚ :=
  (scaled? x).elim 0 Scaled.value

/-- The exact value of an unpacked double. -/
def unpackedValue : UnpackedFloat → ℚ
  | .finite sign mantissa exponent _ => sign.apply mantissa * 2 ^ exponent
  | _ => 0

theorem toNat_unpackExponent (bits : BitVec Format.binary64.numBits) :
    (unpackExponent bits).toNat = bits.toNat / 2 ^ 52 % 2 ^ 11 := by
  simp [unpackExponent, BitVec.extractLsb, Nat.shiftRight_eq_div_pow]

theorem toNat_unpackMantissa (bits : BitVec Format.binary64.numBits) :
    (unpackMantissa bits).toNat = bits.toNat % 2 ^ 52 := by
  simp [unpackMantissa, BitVec.extractLsb]

theorem ofBitVec_unpackSign (bits : BitVec Format.binary64.numBits) :
    Sign.ofBitVec (unpackSign bits) = if 2 ^ 63 ≤ bits.toNat then .negative else .positive := by
  have bound : bits.toNat < 2 ^ 64 := bits.isLt
  have value : (unpackSign bits).toNat = bits.toNat / 2 ^ 63 := by
    simp [unpackSign, BitVec.extractLsb, Nat.shiftRight_eq_div_pow]
    omega
  have positive : unpackSign bits = 0#1 ↔ ¬ 2 ^ 63 ≤ bits.toNat := by
    rw [← BitVec.toNat_inj, value, BitVec.toNat_zero]
    omega
  rw [Sign.ofBitVec]
  split
  next plus => rw [if_neg (positive.mp plus)]
  next minus => rw [if_pos (Decidable.not_not.mp (mt positive.mpr minus))]

theorem unpackedValue_ofComponents (sign : Sign) (field : BitVec 11) (fraction : BitVec 52) :
    unpackedValue (ofComponents sign field fraction) =
      if field.toNat = 2047 then 0
      else if field.toNat = 0 then (sign.apply fraction.toNat : ℚ) * 2 ^ (-1074 : Int)
      else (sign.apply (2 ^ 52 + fraction.toNat : Nat) : ℚ) * 2 ^ (field.toNat - 1075 : Int) := by
  have all : field = -1#11 ↔ field.toNat = 2047 := by
    rw [← BitVec.toNat_inj]
    rfl
  have none : field = 0#11 ↔ field.toNat = 0 := by
    rw [← BitVec.toNat_inj]
    rfl
  rw [ofComponents]
  simp only [all, none]
  split
  · split <;> rfl
  · split
    · split
      · rfl
      next empty =>
        rw [Nat.eq_zero_of_not_pos empty]
        cases sign <;> simp [unpackedValue, Sign.apply]
    · rfl

theorem exact_eq_unpackedValue (x : Float) : exact x = unpackedValue x.toModel.unpack := by
  have signed : ∀ mantissa : Nat,
      (((if 2 ^ 63 ≤ x.toBits.toNat then Sign.negative else .positive).apply mantissa : Int) : ℚ) =
        (if decide (2 ^ 63 ≤ x.toBits.toNat) then -1 else 1) * mantissa := by
    intro mantissa
    by_cases holds : 2 ^ 63 ≤ x.toBits.toNat <;> simp [holds, Sign.apply]
  have bits : x.toModel.toBits.toBitVec.toNat = x.toBits.toNat := rfl
  rw [exact, ← exactValue?_toBits, Float.Model.unpack, unpack_eq_ofComponents,
    ofBitVec_unpackSign, unpackedValue_ofComponents, toNat_unpackExponent, toNat_unpackMantissa,
    bits, signed, signed, exactValue?]
  split
  · rfl
  · split
    · rfl
    · rfl

/-! ## Finite doubles -/

/-- A finite double is a zero, or has a mantissa. -/
theorem isFinite_iff (x : Float) :
    x.isFinite = true ↔ (∃ sign, x.toModel.unpack = .zero sign) ∨
      ∃ sign mantissa exponent positive,
        x.toModel.unpack = .finite sign mantissa exponent positive := by
  change x.toModel.unpack.isFinite = true ↔ _
  cases x.toModel.unpack with
  | finite sign mantissa exponent positive =>
      exact iff_of_true rfl (Or.inr ⟨sign, mantissa, exponent, positive, rfl⟩)
  | zero sign => exact iff_of_true rfl (Or.inl ⟨sign, rfl⟩)
  | _ => simp [UnpackedFloat.isFinite]

theorem abs_unpackedValue_finite (sign : Sign) (mantissa : Nat) (exponent : Int)
    (positive : 0 < mantissa) :
    |unpackedValue (.finite sign mantissa exponent positive)| = mantissa * 2 ^ exponent := by
  cases sign <;> simp [unpackedValue, Sign.apply, abs_mul]

/-- The exact value of every double is below `2 ^ 1024`. -/
theorem abs_exact_lt (x : Float) : |exact x| < 2 ^ 1024 := by
  rw [exact_eq_unpackedValue]
  rcases canonical_unpack x with ⟨canonical, fits⟩
  cases form : x.toModel.unpack with
  | finite sign mantissa exponent positive =>
      rw [form] at canonical fits
      rw [abs_unpackedValue_finite]
      have few : (mantissa : ℚ) < 2 ^ 53 := by exact_mod_cast canonical.1
      have range : (2 : ℚ) ^ exponent ≤ 2 ^ (971 : Int) := zpow_le_zpow_right₀ (by norm_num) fits
      calc
        (mantissa : ℚ) * 2 ^ exponent
            < 2 ^ 53 * 2 ^ exponent := mul_lt_mul_of_pos_right few (by positivity)
        _ ≤ 2 ^ 53 * 2 ^ (971 : Int) := mul_le_mul_of_nonneg_left range (by positivity)
        _ = 2 ^ 1024 := by rw [show (971 : Int) = (971 : Nat) from rfl, zpow_natCast, ← pow_add]
  | _ => simp [unpackedValue]

theorem exact_zero : exact 0 = 0 := by
  have scaled : scaled? 0 = some ⟨false, 0, -1074⟩ := by decide +kernel
  rw [exact, scaled]
  norm_num [Scaled.value]

theorem exact_one : exact 1 = 1 := by
  have scaled : scaled? 1 = some ⟨false, 2 ^ 52, -52⟩ := by decide +kernel
  rw [exact, scaled]
  norm_num [Scaled.value]

/-- A double equals zero if it is finite and its exact value is zero. -/
theorem beq_zero_iff (x : Float) : (x == 0) = true ↔ x.isFinite = true ∧ exact x = 0 := by
  rw [exact_eq_unpackedValue]
  change (x.toModel.unpack.compare (.zero .positive) == some .eq) = true ↔
    x.toModel.unpack.isFinite = true ∧ _
  cases x.toModel.unpack with
  | infinity sign => cases sign <;> simp [UnpackedFloat.compare, UnpackedFloat.isFinite]
  | notANumber => simp [UnpackedFloat.compare, UnpackedFloat.isFinite]
  | zero sign => exact iff_of_true rfl ⟨rfl, rfl⟩
  | finite sign mantissa exponent positive =>
      refine iff_of_false ?_ (fun both => ?_)
      · cases sign <;> simp [UnpackedFloat.compare]
      · have size := abs_unpackedValue_finite sign mantissa exponent positive
        rw [both.2, abs_zero] at size
        have filled : (0 : ℚ) < mantissa * 2 ^ exponent := by positivity
        exact filled.ne size

/-! ## Negation -/

theorem unpack_neg (x : Float) : (-x).toModel.unpack = x.toModel.unpack.neg := by
  change (Float.Model.pack x.toModel.unpack.neg).unpack = _
  have canonical := canonical_unpack x
  generalize x.toModel.unpack = form at canonical ⊢
  refine unpack_pack ?_ ?_
  · cases form <;> exact canonical.1
  · cases form <;> exact canonical.2

theorem isFinite_neg (x : Float) : (-x).isFinite = x.isFinite := by
  change (-x).toModel.unpack.isFinite = x.toModel.unpack.isFinite
  rw [unpack_neg]
  cases x.toModel.unpack <;> rfl

theorem apply_neg (sign : Sign) (number : Int) : (-sign).apply number = -sign.apply number := by
  cases sign with
  | negative => exact (Int.neg_neg number).symm
  | positive => rfl

theorem exact_neg (x : Float) : exact (-x) = -exact x := by
  rw [exact_eq_unpackedValue, exact_eq_unpackedValue, unpack_neg]
  cases x.toModel.unpack with
  | finite sign mantissa exponent positive =>
      simp [UnpackedFloat.neg, unpackedValue, apply_neg]
  | _ => simp [UnpackedFloat.neg, unpackedValue]

end MapIngest.Decimal
