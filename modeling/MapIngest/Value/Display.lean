import MapIngest.Decimal.Layout
import MapIngest.Text.Quoted
import MapIngest.Value.Basic

/-!
# The text of a value

A value is shown in a report in one of two ways.  Standing alone, a text is
shown as it is; inside a collection, or where a report asks for it, a text is
quoted.  All other scalars are shown alike in both places.
-/

namespace MapIngest

/-- The quoted form of a byte string. -/
def quotedBytes (content : List UInt8) : String :=
  let chars := content.map fun byte => Char.ofNat byte.toNat
  let mark := Text.Quoted.delimiter chars
  let written := chars.flatMap fun c =>
    if 0x7F ≤ c.toNat then Text.Quoted.numbered c else Text.Quoted.escape mark c
  String.ofList ('b' :: mark :: written ++ [mark])

/-- A scalar as it is shown inside a collection. -/
def Scalar.quoted : Scalar → String
  | .null => "None"
  | .bool truth => if truth then "True" else "False"
  | .int number => Decimal.intText number
  | .float number => Decimal.floatText number
  | .text content => Text.quoted content
  | .bytes content => quotedBytes content
  | .date iso => iso

mutual

/-- A value as it is shown inside a collection. -/
def Value.quoted : Value → String
  | .scalar content => content.quoted
  | .list items => "[" ++ ", ".intercalate (quotedItems items) ++ "]"
  | .mapping entries => "\x7b" ++ ", ".intercalate (quotedEntries entries) ++ "\x7d"

/-- The items of a list as they are shown in it. -/
def quotedItems : List Value → List String
  | [] => []
  | item :: rest => item.quoted :: quotedItems rest

/-- The entries of a mapping as they are shown in it. -/
def quotedEntries : List (Scalar × Value) → List String
  | [] => []
  | (key, value) :: rest => (key.quoted ++ ": " ++ value.quoted) :: quotedEntries rest

end

/-- A value as it is shown standing alone. -/
def Value.display : Value → String
  | .text content => content
  | value => value.quoted

/-- A list of doubles as it is shown in a report. -/
def displayFloats (numbers : List Float) : String :=
  "[" ++ ", ".intercalate (numbers.map Decimal.floatText) ++ "]"

end MapIngest
