/-!
# Hexadecimal digits

Fixed-width lower-case hexadecimal, as escapes and byte dumps use it, and the
value of a hexadecimal digit of either case.
-/

namespace MapIngest.Text

/-- The lower-case digit of a number below sixteen. -/
def hexDigit (value : Nat) : Char :=
  if value < 10 then Char.ofNat (48 + value) else Char.ofNat (87 + value)

/-- The value of a hexadecimal digit of either case. -/
def hexValue? (c : Char) : Option Nat :=
  if c.isDigit then
    some (c.toNat - 48)
  else if 'a' ≤ c && c ≤ 'f' then
    some (c.toNat - 87)
  else if 'A' ≤ c && c ≤ 'F' then
    some (c.toNat - 55)
  else
    none

/-- The last `width` hexadecimal digits of a number, most significant first. -/
def hexDigits : (width : Nat) → (number : Nat) → List Char
  | 0, _ => []
  | width + 1, number => hexDigits width (number / 16) ++ [hexDigit (number % 16)]

@[simp]
theorem length_hexDigits (width number : Nat) : (hexDigits width number).length = width := by
  induction width generalizing number with
  | zero => rfl
  | succ width ih => simp [hexDigits, ih]

/-- The number that a list of hexadecimal digits stands for, if all of them are digits. -/
def ofHexDigits? (digits : List Char) : Option Nat :=
  digits.foldl
    (fun number? c => number?.bind fun number => (hexValue? c).map (16 * number + ·))
    (some 0)

end MapIngest.Text
