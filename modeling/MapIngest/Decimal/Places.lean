import MapIngest.Decimal.Binary64

/-!
# Rounding to decimal places

A rate is reported with a fixed number of decimal places.  The exact value of
the double is rounded to the nearest multiple of the last place, a half going
to the even multiple, and the double nearest to that decimal is the result.
-/

namespace MapIngest.Decimal

/-- Round a double to a number of decimal places; an infinity or a NaN stays as it is. -/
def roundToPlaces (places : Nat) (x : Float) : Float :=
  match scaled? x with
  | some number =>
    nearest number.negative
      (roundDiv (number.numerator * 10 ^ places) number.denominator) (10 ^ places)
  | none => x

end MapIngest.Decimal
