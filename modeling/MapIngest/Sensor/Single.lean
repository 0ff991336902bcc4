import MapIngest.Decimal.Binary64

/-!
# Numbers of single precision

Sensors send numbers of single precision: a sign, eight bits of exponent and
twenty-three bits of fraction.  Every such number is also a double, and
widening it is exact.  Narrowing rounds a double to the nearest number of
single precision, a half going to the even one; beyond the greatest the result
is infinite.
-/

namespace MapIngest.Sensor

/-- The bits of the infinite number of single precision. -/
def infiniteSingle : Nat := 0x7F800000

/-- The bits of a double with a sign, an exponent field and a fraction field. -/
def assemble (negative : Bool) (exponent fraction : Nat) : Float :=
  Float.ofBits
    (UInt64.ofNat ((if negative then 2 ^ 63 else 0) + exponent * 2 ^ 52 + fraction))

/-- The double that a number of single precision is, given by its bits. -/
def widen (bits : Nat) : Float :=
  let negative := decide (2 ^ 31 ≤ bits)
  let field := bits / 2 ^ 23 % 2 ^ 8
  let fraction := bits % 2 ^ 23
  if field = 255 then
    if fraction = 0 then assemble negative 2047 0 else assemble false 2047 (2 ^ 51)
  else if field = 0 then
    if fraction = 0 then
      assemble negative 0 0
    else
      let leading := fraction.log2
      assemble negative (leading + 874) ((fraction - 2 ^ leading) * 2 ^ (52 - leading))
  else
    assemble negative (field + 896) (fraction * 2 ^ 29)

/-- The bits of the number of single precision nearest to `mantissa * 2 ^ exponent`. -/
def nearestSingle (mantissa : Nat) (exponent : Int) : Nat :=
  let last : Int := max (exponent + mantissa.log2 - 23) (-149)
  let rounded :=
    Decimal.roundDiv (mantissa * 2 ^ (exponent - last).toNat) (2 ^ (last - exponent).toNat)
  if rounded < 2 ^ 23 then
    rounded
  else
    min infiniteSingle ((last + 150).toNat * 2 ^ 23 + (rounded - 2 ^ 23))

/-- The bits of the number of single precision nearest to a double. -/
def narrow (x : Float) : Nat :=
  match Decimal.scaled? x with
  | none =>
    if x.isNaN then 0x7FC00000 else (if x < 0.0 then 2 ^ 31 else 0) + infiniteSingle
  | some number =>
    (if number.negative then 2 ^ 31 else 0) +
      if number.mantissa = 0 then 0 else nearestSingle number.mantissa number.exponent

/-- Round a double to single precision. -/
def toSingle (x : Float) : Float :=
  widen (narrow x)

end MapIngest.Sensor
