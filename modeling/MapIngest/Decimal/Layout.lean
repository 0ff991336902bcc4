import MapIngest.Decimal.Shortest

/-!
# How a number is laid out in text

A layout says where positional writing ends, whether a whole number keeps a
point and a zero, how wide an exponent is, and how the doubles without digits
are spelled.  The reports of the library use one layout throughout.
-/

namespace MapIngest.Decimal

/-- The choices that turn the digits of a number into text. -/
structure Layout where
  /-- The least exponent of the leading digit that is written positionally. -/
  leastPositional : Int
  /-- The greatest exponent of the leading digit that is written positionally. -/
  greatestPositional : Int
  /-- A whole number written positionally ends in this text. -/
  wholeEnding : List Char
  /-- An exponent has at least this many digits. -/
  exponentWidth : Nat
  /-- The spelling of infinity. -/
  infinity : List Char
  /-- The spelling of the result that is not a number. -/
  notANumber : List Char

/-- The digits of a natural number in base ten. -/
def naturalText (n : Nat) : List Char :=
  Nat.toDigits 10 n

/-- An integer in base ten, with a sign only if it is negative. -/
def integerText (n : Int) : List Char :=
  if n < 0 then '-' :: naturalText n.natAbs else naturalText n.natAbs

/-- Write digits around a point that stands after `whole` of them. -/
def Layout.positional (layout : Layout) (digits : List Char) (whole : Int) : List Char :=
  if whole ≤ 0 then
    '0' :: '.' :: List.replicate (-whole).toNat '0' ++ digits
  else if digits.length ≤ whole.toNat then
    digits ++ List.replicate (whole.toNat - digits.length) '0' ++ layout.wholeEnding
  else
    digits.take whole.toNat ++ '.' :: digits.drop whole.toNat

/-- Write digits with one of them before the point, and an exponent. -/
def Layout.scientific (layout : Layout) (digits : List Char) (exponent : Int) : List Char :=
  let mantissa :=
    match digits with
    | [] => []
    | [digit] => [digit]
    | digit :: rest => digit :: '.' :: rest
  let size := naturalText exponent.natAbs
  mantissa ++ 'e' :: (if exponent < 0 then '-' else '+') ::
    List.replicate (layout.exponentWidth - size.length) '0' ++ size

/-- The text of a positive decimal. -/
def Layout.digitsText (layout : Layout) (number : Digits) : List Char :=
  let digits := naturalText number.digits
  let leading := number.exponent + digits.length - 1
  if layout.leastPositional ≤ leading ∧ leading ≤ layout.greatestPositional then
    layout.positional digits (leading + 1)
  else
    layout.scientific digits leading

/-- The text of a double: the shortest decimal that reads back, laid out. -/
def Layout.floatText (layout : Layout) (x : Float) : List Char :=
  match scaled? x with
  | some number =>
    let size :=
      if number.mantissa = 0 then
        '0' :: layout.wholeEnding
      else
        layout.digitsText (shortest number)
    if number.negative then '-' :: size else size
  | none =>
    if x.isNaN then
      layout.notANumber
    else if x < 0.0 then
      '-' :: layout.infinity
    else
      layout.infinity

/--
Reports write numbers positionally from `0.0001` up to sixteen whole digits,
keep `.0` on whole numbers, and give exponents a sign and two digits.
-/
def report : Layout :=
  { leastPositional := -4
    greatestPositional := 15
    wholeEnding := ['.', '0']
    exponentWidth := 2
    infinity := ['i', 'n', 'f']
    notANumber := ['n', 'a', 'n'] }

/-- The text of a double in a report. -/
def floatText (x : Float) : String :=
  String.ofList (report.floatText x)

/-- The text of an integer in a report. -/
def intText (n : Int) : String :=
  String.ofList (integerText n)

end MapIngest.Decimal
