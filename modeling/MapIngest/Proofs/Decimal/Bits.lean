import Mathlib
import MapIngest.Decimal.Binary64

/-!
# The bits of a double

The bits of a binary interchange format have three parts: a sign, an exponent field
and a fraction.  This file says what exact value they stand for, and that the exact
value of a double is the one that its bits stand for.  All patterns that are not a
number are read as one double, and none of them has an exact value.  A double is
finite if it has one.
-/

namespace MapIngest.Decimal

open Float.Model
open Float.Model.UnpackedFloat (isNaNBits unpackExponent)

/--
The exact value that bits of a binary interchange format stand for, unless they are
infinite or not a number.
-/
def exactValue? (exponentWidth fractionWidth bits : Nat) : Option Scaled :=
  let field := bits / 2 ^ fractionWidth % 2 ^ exponentWidth
  let fraction := bits % 2 ^ fractionWidth
  let negative := decide (2 ^ (exponentWidth + fractionWidth) ≤ bits)
  let last : Nat := 2 ^ (exponentWidth - 1) - 1 + fractionWidth
  if field = 2 ^ exponentWidth - 1 then
    none
  else if field = 0 then
    some ⟨negative, fraction, 1 - last⟩
  else
    some ⟨negative, 2 ^ fractionWidth + fraction, field - last⟩

theorem exactValue?_toBits (x : Float) : exactValue? 11 52 x.toBits.toNat = scaled? x := rfl

theorem exactValue?_eq_none_iff {bits : Nat} :
    exactValue? 11 52 bits = none ↔ bits / 2 ^ 52 % 2 ^ 11 = 2047 := by
  simp only [exactValue?]
  split
  next all => simpa using all
  next finite =>
    split <;> simpa using finite

theorem unpackExponent_eq_iff {bits : BitVec Format.binary64.numBits} {field : BitVec 11} :
    unpackExponent bits = field ↔ bits.toNat / 2 ^ 52 % 2 ^ 11 = field.toNat := by
  have value : (unpackExponent bits).toNat = bits.toNat / 2 ^ 52 % 2 ^ 11 := by
    simp [unpackExponent, BitVec.extractLsb, Nat.shiftRight_eq_div_pow]
  rw [← value]
  exact BitVec.toNat_inj.symm

/-- A double has the bits that it is read from, unless they are not a number. -/
theorem toBits_ofBits (bits : UInt64) :
    (Float.ofBits bits).toBits.toBitVec =
      if @isNaNBits .binary64 bits.toBitVec then UnpackedFloat.packedNaN .binary64
      else bits.toBitVec :=
  UnpackedFloat.pack_unpack _

/-- The exact value of a double is the one that the bits it is read from stand for. -/
theorem scaled?_ofBits {bits : Nat} (fits : bits < 2 ^ 64) :
    scaled? (Float.ofBits (UInt64.ofNat bits)) = exactValue? 11 52 bits := by
  have same : (UInt64.ofNat bits).toBitVec.toNat = bits := UInt64.toNat_ofNat_of_lt' fits
  rw [← exactValue?_toBits, ← UInt64.toNat_toBitVec, toBits_ofBits]
  split
  next stray =>
    have all := (of_decide_eq_true stray).1
    rw [unpackExponent_eq_iff, same] at all
    rw [exactValue?_eq_none_iff.mpr all]
    rfl
  next number => rw [same]

theorem isFinite_eq_isSome (x : Float) : x.isFinite = (scaled? x).isSome := by
  have field : @unpackExponent .binary64 x.toBits.toBitVec = -1#_ ↔
      x.toBits.toNat / 2 ^ 52 % 2 ^ 11 = 2047 := unpackExponent_eq_iff
  have unpacked : x.isFinite =
      (UnpackedFloat.unpack .binary64 x.toBits.toBitVec).isFinite := rfl
  rw [unpacked, UnpackedFloat.unpack, ← exactValue?_toBits]
  split
  next infinite =>
    rw [exactValue?_eq_none_iff.mpr (field.mp infinite)]
    split <;> rfl
  next finite =>
    have found : exactValue? 11 52 x.toBits.toNat ≠ none := fun none =>
      finite (field.mpr (exactValue?_eq_none_iff.mp none))
    rw [Option.isSome_iff_ne_none.mpr found]
    split
    · split <;> rfl
    · rfl

end MapIngest.Decimal
