import MapIngest.Decimal.Binary64

/-!
# The shortest decimal that reads back

Among the decimals that round to a given double, the reports show one with the
fewest digits, and of those the nearest to the double.

The reals that round to a double form an interval around it, which contains
its end points exactly when the mantissa is even.  For one, two, and at most
seventeen digits the search tests the two neighbours of the double on the grid
of decimals with that many digits.  The first grid with a hit decides; of two
hits the nearer is taken, and of two equally near ones the even.
-/

namespace MapIngest.Decimal

/-- The number `digits * 10 ^ exponent`. -/
structure Digits where
  digits : Nat
  exponent : Int
deriving DecidableEq, Repr

/-- Positive rationals as the search handles them: numerator and denominator. -/
structure Fraction where
  numerator : Nat
  denominator : Nat

/-- The order of two fractions, by cross multiplication. -/
def Fraction.below (left right : Fraction) : Bool :=
  left.numerator * right.denominator < right.numerator * left.denominator

/-- The fraction `number * 10 ^ exponent`. -/
def Fraction.onGrid (number : Nat) (exponent : Int) : Fraction :=
  ⟨number * 10 ^ exponent.toNat, 10 ^ (-exponent).toNat⟩

/-- The fraction `quarters / 4 * 2 ^ exponent`. -/
def Fraction.ofQuarters (quarters : Nat) (exponent : Int) : Fraction :=
  ⟨quarters * 2 ^ exponent.toNat, 4 * 2 ^ (-exponent).toNat⟩

/-- The interval of reals that round to a double. -/
structure Neighbourhood where
  low : Fraction
  centre : Fraction
  high : Fraction
  closed : Bool

/-- The neighbourhood of a positive double. -/
def Neighbourhood.of (number : Scaled) : Neighbourhood :=
  let gap := if number.mantissa = 2 ^ 52 ∧ -1074 < number.exponent then 1 else 2
  { low := .ofQuarters (4 * number.mantissa - gap) number.exponent
    centre := .ofQuarters (4 * number.mantissa) number.exponent
    high := .ofQuarters (4 * number.mantissa + 2) number.exponent
    closed := number.mantissa % 2 == 0 }

/-- Whether a fraction rounds to the double of a neighbourhood. -/
def Neighbourhood.contains (around : Neighbourhood) (point : Fraction) : Bool :=
  if around.closed then
    !(point.below around.low) && !(around.high.below point)
  else
    around.low.below point && point.below around.high

/-- Raise an exponent until the next power of ten exceeds the number. -/
def raiseExponent (centre : Fraction) : (steps : Nat) → (exponent : Int) → Int
  | 0, exponent => exponent
  | steps + 1, exponent =>
    if centre.below (.onGrid 1 (exponent + 1)) then
      exponent
    else
      raiseExponent centre steps (exponent + 1)

/-- The exponent of the leading decimal digit of a positive fraction. -/
def leadingExponent (centre : Fraction) : Int :=
  let bits : Int := (centre.numerator.log2 : Int) - (centre.denominator.log2 : Int)
  raiseExponent centre 4 (Int.fdiv (bits * 30103) 100000 - 2)

/-- The better of two neighbours `floor` and `floor + 1` of a fraction on a grid. -/
def nearerOf (centre : Fraction) (floor : Nat) (exponent : Int) : Nat :=
  let middle := Fraction.onGrid (2 * floor + 1) exponent
  let twice : Fraction := ⟨2 * centre.numerator, centre.denominator⟩
  if twice.below middle then
    floor
  else if middle.below twice then
    floor + 1
  else if floor % 2 = 0 then
    floor
  else
    floor + 1

/-- The decimal with the given number of digits that reads back, if there is one. -/
def onGrid? (around : Neighbourhood) (leading : Int) (count : Nat) : Option Digits :=
  let exponent := leading - (count : Int) + 1
  let floor :=
    around.centre.numerator * 10 ^ (-exponent).toNat /
      (around.centre.denominator * 10 ^ exponent.toNat)
  let reads := fun digits => around.contains (.onGrid digits exponent)
  match reads floor, reads (floor + 1) with
  | true, true => some ⟨nearerOf around.centre floor exponent, exponent⟩
  | true, false => some ⟨floor, exponent⟩
  | false, true => some ⟨floor + 1, exponent⟩
  | false, false => none

/-- Move trailing zeros from the digits into the exponent. -/
def Digits.trimZeros : (steps : Nat) → Digits → Digits
  | 0, number => number
  | steps + 1, number =>
    if number.digits % 10 = 0 ∧ number.digits ≠ 0 then
      trimZeros steps ⟨number.digits / 10, number.exponent + 1⟩
    else
      number

/-- The shortest decimal of a positive double. -/
def shortest (number : Scaled) : Digits :=
  let around := Neighbourhood.of number
  let leading := leadingExponent around.centre
  let found := (List.range 17).findSome? fun count => onGrid? around leading (count + 1)
  (found.getD ⟨0, 0⟩).trimZeros 18

end MapIngest.Decimal
