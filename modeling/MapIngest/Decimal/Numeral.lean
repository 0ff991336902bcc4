import MapIngest.Decimal.Binary64
import MapIngest.Text.Blank
import MapIngest.Text.Digit

/-!
# Reading decimal numbers

A numeral is an optional sign, digits with an optional point among or beside
them, and an optional exponent; or one of the words for infinity and for the
result that is not a number, in any case.  Two conventions extend it.  A
setting may hold single underscores anywhere inside; a number in an array of
text may hold them between digits, and may be written with the digits of any
script.
-/

namespace MapIngest.Decimal

/-- What a decimal numeral stands for. -/
inductive Numeral where
  /-- The number `± digits * 10 ^ exponent`. -/
  | finite (negative : Bool) (digits : Nat) (exponent : Int)
  | infinite (negative : Bool)
  | notANumber
deriving DecidableEq, Repr

/-- The value of a list of basic digits. -/
def digitsValue (digits : List Char) : Nat :=
  digits.foldl (fun value digit => 10 * value + (digit.toNat - 48)) 0

/-- Split a text into its leading basic digits and the rest. -/
def spanDigits (text : List Char) : List Char × List Char :=
  (text.takeWhile Char.isDigit, text.dropWhile Char.isDigit)

/-- Split an optional sign off a text; the flag is set by a minus. -/
def splitSign (text : List Char) : Bool × List Char :=
  match text with
  | '-' :: rest => (true, rest)
  | '+' :: rest => (false, rest)
  | _ => (false, text)

/-- The exponent part of a numeral: nothing, or a mark, a sign and digits up to the end. -/
def exponentValue? (text : List Char) : Option Int :=
  match text with
  | [] => some 0
  | mark :: rest =>
    if mark = 'e' ∨ mark = 'E' then
      let (negative, digits) := splitSign rest
      if digits.isEmpty || !digits.all Char.isDigit then
        none
      else
        some (if negative then -(digitsValue digits : Int) else digitsValue digits)
    else
      none

/-- The numeral of a text without a sign. -/
def unsignedNumeral? (negative : Bool) (text : List Char) : Option Numeral :=
  let word := text.map Char.toLower
  if word = ['i', 'n', 'f'] ∨ word = ['i', 'n', 'f', 'i', 'n', 'i', 't', 'y'] then
    some (.infinite negative)
  else if word = ['n', 'a', 'n'] then
    some .notANumber
  else
    let (whole, rest) := spanDigits text
    let (part, rest) :=
      match rest with
      | '.' :: rest => spanDigits rest
      | _ => ([], rest)
    if whole.isEmpty && part.isEmpty then
      none
    else
      (exponentValue? rest).map fun exponent =>
        .finite negative (digitsValue (whole ++ part)) (exponent - part.length)

/-- The numeral that a text spells from its first character to its last. -/
def Numeral.read? (text : List Char) : Option Numeral :=
  let (negative, rest) := splitSign text
  unsignedNumeral? negative rest

/--
The double nearest to a numeral.  The size of a number whose exponent is far
beyond the range of doubles is settled by comparing logarithms, so that no
huge power is formed.
-/
def Numeral.toFloat : Numeral → Float
  | .infinite negative => infinity negative
  | .notANumber => Float.ofBits (UInt64.ofNat (infinityBits + 2 ^ 51))
  | .finite negative digits exponent =>
    let magnitude := Int.fdiv ((digits.log2 : Int) * 30103) 100000 + exponent
    if digits = 0 ∨ magnitude < -400 then
      nearest negative 0 1
    else if 400 < magnitude then
      infinity negative
    else
      nearest negative (digits * 10 ^ exponent.toNat) (10 ^ (-exponent).toNat)

/-- Drop the underscores of a text, unless one stands at an end or beside another. -/
def dropUnderscores? (text : List Char) : Option (List Char) :=
  let doubled := (text.zip text.tail).any fun pair => pair.1 = '_' && pair.2 = '_'
  if text.head? = some '_' || text.getLast? = some '_' || doubled then
    none
  else
    some (text.filter (· ≠ '_'))

/-- Drop the underscores of a text, provided each stands between two digits. -/
def joinDigits? : (afterDigit : Bool) → List Char → Option (List Char)
  | _, [] => some []
  | afterDigit, '_' :: rest =>
    if afterDigit && (rest.head?.any Char.isDigit) then
      joinDigits? false rest
    else
      none
  | _, c :: rest => (joinDigits? c.isDigit rest).map (c :: ·)

/-- The number that a setting spells: trimmed, or else with underscores dropped. -/
def settingNumeral? (text : List Char) : Option Numeral :=
  (Numeral.read? (Text.trim Text.isWhiteSpace text)).or
    ((dropUnderscores? text).bind Numeral.read?)

/-- The number that an element of an array spells: trimmed, in digits of any script. -/
def elementNumeral? (blank : Char → Bool) (text : List Char) : Option Numeral :=
  (joinDigits? false ((Text.trim blank text).map Text.basicForm)).bind Numeral.read?

end MapIngest.Decimal
