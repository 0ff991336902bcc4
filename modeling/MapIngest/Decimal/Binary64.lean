import MapIngest.Decimal.Rounding

/-!
# Doubles as exact numbers

A finite double is a sign, a natural mantissa and a power of two.  This file
reads that triple off the bits of a double and, in the other direction, rounds
a quotient of natural numbers to the nearest double, a half going to the even
mantissa.  Both directions use natural number arithmetic only, so the exact
value of every intermediate result is at hand.
-/

-- A power is the one of the core library, also where numbers are known to form a monoid.
attribute [instance (1100), default_instance (20000)] instPowNat

namespace MapIngest.Decimal

/-- The number `± mantissa * 2 ^ exponent`. -/
structure Scaled where
  negative : Bool
  mantissa : Nat
  exponent : Int
deriving DecidableEq, Repr

namespace Scaled

/-- The numerator of the absolute value, over `denominator`. -/
def numerator (number : Scaled) : Nat :=
  number.mantissa * 2 ^ number.exponent.toNat

/-- A power of two that clears the negative part of the exponent. -/
def denominator (number : Scaled) : Nat :=
  2 ^ (-number.exponent).toNat

/-- The number is an integer: its mantissa absorbs the denominator. -/
def isIntegral (number : Scaled) : Bool :=
  decide (number.numerator % number.denominator = 0)

/-- The integral part, rounding toward zero. -/
def truncate (number : Scaled) : Int :=
  let size : Int := Int.ofNat (number.numerator / number.denominator)
  if number.negative then -size else size

end Scaled

/-- The exact value of a double, unless it is infinite or not a number. -/
def scaled? (x : Float) : Option Scaled :=
  let bits : Nat := x.toBits.toNat
  let negative := decide (2 ^ 63 ≤ bits)
  let field : Nat := bits / 2 ^ 52 % 2 ^ 11
  let fraction : Nat := bits % 2 ^ 52
  if field = 2047 then
    none
  else if field = 0 then
    some ⟨negative, fraction, -1074⟩
  else
    some ⟨negative, 2 ^ 52 + fraction, (field : Int) - 1075⟩

/-- The bit pattern of the positive infinite double. -/
def infinityBits : Nat := 0x7FF0000000000000

/--
The exponent of the last mantissa bit of the doubles around
`numerator / denominator`: it leaves 53 bits, unless the number is subnormal.
-/
def lastBitExponent (numerator denominator : Nat) : Int :=
  let estimate : Int := (numerator.log2 : Int) - (denominator.log2 : Int)
  let leading :=
    if numerator * 2 ^ (-estimate).toNat < denominator * 2 ^ estimate.toNat then
      estimate - 1
    else
      estimate
  max (leading - 52) (-1074)

/-- The bits of the non-negative double nearest to `numerator / denominator`. -/
def nearestBits (numerator denominator : Nat) : Nat :=
  if numerator = 0 then
    0
  else
    let last := lastBitExponent numerator denominator
    let mantissa :=
      roundDiv (numerator * 2 ^ (-last).toNat) (denominator * 2 ^ last.toNat)
    if mantissa < 2 ^ 52 then
      mantissa
    else
      min infinityBits ((last + 1075).toNat * 2 ^ 52 + (mantissa - 2 ^ 52))

/-- The double nearest to `± numerator / denominator`. -/
def nearest (negative : Bool) (numerator denominator : Nat) : Float :=
  let magnitude := nearestBits numerator denominator
  Float.ofBits (UInt64.ofNat (if negative then 2 ^ 63 + magnitude else magnitude))

/-- The infinite double of a sign. -/
def infinity (negative : Bool) : Float :=
  Float.ofBits (UInt64.ofNat (if negative then 2 ^ 63 + infinityBits else infinityBits))

/-- The double nearest to an integer; it is infinite when the integer is out of range. -/
def ofInteger (n : Int) : Float :=
  nearest (decide (n < 0)) n.natAbs 1

/-- The double nearest to an integer, unless the integer is out of range. -/
def ofInteger? (n : Int) : Option Float :=
  if nearestBits n.natAbs 1 < infinityBits then some (ofInteger n) else none

/-- The integer that a double is, if it is one. -/
def toInteger? (x : Float) : Option Int :=
  match scaled? x with
  | some number => if number.isIntegral then some number.truncate else none
  | none => none

end MapIngest.Decimal
