import MapIngest.Decimal.Numeral
import MapIngest.Text.Hex

/-!
# Reading integers

An integer is an optional sign and digits, with single underscores allowed
between digits.  A setting may add a point and zeros; elsewhere the digits may
be of any script and the base is at most sixteen.
-/

namespace MapIngest.Decimal

/-- The longest text that is read as an integer. -/
def longestInteger : Nat := 4300

/-- Remove a point and the zeros after it, if that is how the text ends. -/
def dropZeroPart (text : List Char) : List Char :=
  let whole := text.takeWhile (· ≠ '.')
  match text.dropWhile (· ≠ '.') with
  | '.' :: zeros => if !zeros.isEmpty && zeros.all (· = '0') then whole else text
  | _ => text

/-- An optional sign and basic digits with single underscores between them. -/
def signedDigits? (text : List Char) : Option Int :=
  let (negative, rest) := splitSign text
  (joinDigits? false rest).bind fun digits =>
    if digits.isEmpty || !digits.all Char.isDigit then
      none
    else
      some (if negative then -(digitsValue digits : Int) else digitsValue digits)

/-- The integer that a trimmed setting spells. -/
def settingInteger? (text : List Char) : Option Int :=
  signedDigits? (dropZeroPart text)

/-- The value of digits in a base; an underscore may stand before any digit but the first. -/
def digitsIn? (base : Nat) : (value : Nat) → (fresh : Bool) → List Char → Option Nat
  | value, fresh, [] => if fresh then none else some value
  | value, fresh, '_' :: rest => if fresh then none else digitsIn? base value true rest
  | value, _, c :: rest =>
    ((Text.hexValue? c).filter (· < base)).bind fun digit =>
      digitsIn? base (base * value + digit) false rest

/-- The integer that a text spells in base ten, trimmed and in digits of any script. -/
def integer? (blank : Char → Bool) (text : List Char) : Option Int :=
  let basic := (Text.trim blank text).map Text.basicForm
  if longestInteger < (basic.filter Char.isDigit).length then
    none
  else
    signedDigits? basic

/-- The integer that a text spells in a base up to sixteen, with an optional sign. -/
def integerIn? (base : Nat) (text : List Char) : Option Int :=
  let (negative, digits) := splitSign ((Text.trim Text.isBlank text).map Text.basicForm)
  (digitsIn? base 0 true digits).map fun value => if negative then -(value : Int) else value

end MapIngest.Decimal
