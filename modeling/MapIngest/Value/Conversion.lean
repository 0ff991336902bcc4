import MapIngest.Decimal.Integer
import MapIngest.Fault.Basic
import MapIngest.Value.Mapping

/-!
# Converting dynamic values

A field of a message or of a script is turned into the type that its reader
needs.  Conversions are generous: truth values and texts that spell numbers
are numbers, a mapping is the sequence of its keys, a text is the sequence of
its characters.  What cannot be converted is refused with the cause.
-/

namespace MapIngest

/-- The name of a sort of values in the text of a fault. -/
def Scalar.sort : Scalar → String
  | .null => "NoneType"
  | .bool _ => "bool"
  | .int _ => "int"
  | .float _ => "float"
  | .text _ => "str"
  | .bytes _ => "bytes"
  | .date _ => "datetime.date"

namespace Value

/-- The name of the sort of a value in the text of a fault. -/
def sort : Value → String
  | .scalar content => content.sort
  | .list _ => "list"
  | .mapping _ => "dict"

/-- Refuse a value with the cause of a failed conversion. -/
def refuse {α : Type} (cause : Conversion) : Except Fault α :=
  .error (.conversion cause)

/-- The characters that a byte string stands for, one for each byte. -/
def byteChars (content : List UInt8) : List Char :=
  content.map fun byte => Char.ofNat byte.toNat

/-- Read a value as an integer; a double loses its fractional part. -/
def toInteger : Value → Except Fault Int
  | .bool truth => .ok (if truth then 1 else 0)
  | .int number => .ok number
  | .float number =>
    match Decimal.scaled? number with
    | some exact => .ok exact.truncate
    | none => refuse (if number.isNaN then .integerOfNaN else .integerOfInfinity)
  | .text content =>
    match Decimal.integer? Text.isBlank content.toList with
    | some number => .ok number
    | none => refuse (.integerText content)
  | .bytes content =>
    match Decimal.integer? Text.isBasicBlank (byteChars content) with
    | some number => .ok number
    | none => refuse (.integerText (String.ofList (byteChars content)))
  | value => refuse (.integerSort value.sort)

/-- Read a value as a double. -/
def toFloat : Value → Except Fault Float
  | .bool truth => .ok (if truth then 1.0 else 0.0)
  | .int number =>
    match Decimal.ofInteger? number with
    | some near => .ok near
    | none => refuse .numberRange
  | .float number => .ok number
  | .text content =>
    match Decimal.elementNumeral? Text.isBlank content.toList with
    | some numeral => .ok numeral.toFloat
    | none => refuse (.numberText content)
  | .bytes content =>
    match Decimal.elementNumeral? Text.isBasicBlank (byteChars content) with
    | some numeral => .ok numeral.toFloat
    | none => refuse (.numberText (String.ofList (byteChars content)))
  | value => refuse (.numberSort value.sort)

/-- The items of a value that has any: of a mapping the keys, of a text the characters. -/
def items : Value → Except Fault (List Value)
  | .list contents => .ok contents
  | .mapping entries => .ok (entries.map fun entry => .scalar entry.1)
  | .text content => .ok (content.toList.map fun c => .text (String.singleton c))
  | .bytes content => .ok (content.map fun byte => .int byte.toNat)
  | value => refuse (.noItems value.sort)

/-- How many items a value has. -/
def length (value : Value) : Except Fault Nat :=
  match value.items with
  | .ok contents => .ok contents.length
  | .error _ => refuse (.noLength value.sort)

/-- Read one item as a byte. -/
def toByte : Value → Except Fault UInt8
  | .bool truth => .ok (if truth then 1 else 0)
  | .int number =>
    if 0 ≤ number ∧ number < 256 then .ok (UInt8.ofNat number.toNat) else refuse .byteRange
  | value => refuse (.bytesSort value.sort)

/-- A byte string of zeros. -/
def zeroBytes (count : Int) : Except Fault (List UInt8) :=
  if count < 0 then
    refuse (.byteCount false)
  else if 2 ^ 63 ≤ count then
    refuse (.byteCount true)
  else
    .ok (List.replicate count.toNat 0)

/-- Read a value as a byte string: its bytes, a list of bytes, or a count of zeros. -/
def toBytes : Value → Except Fault (List UInt8)
  | .bytes content => .ok content
  | .mapping [] => .ok []
  | .list contents => contents.mapM toByte
  | .int count => zeroBytes count
  | .bool truth => zeroBytes (if truth then 1 else 0)
  | value => refuse (.bytesSort value.sort)

/-- Read a value as a key. -/
def toKey : Value → Except Fault Scalar
  | .scalar content => .ok content
  | value => refuse (.keySort value.sort)

/-- Read an item of a sequence of pairs. -/
def toPair (index : Nat) (item : Value) : Except Fault (Value × Value) :=
  match item.items with
  | .error _ => refuse (.pairSort index)
  | .ok [first, second] => .ok (first, second)
  | .ok contents => refuse (.pairLength index contents.length)

/-- Store a sequence of pairs, the first of which has the given index. -/
def storePairs : (index : Nat) → (stored : Mapping) → List Value → Except Fault Mapping
  | _, stored, [] => .ok stored
  | index, stored, item :: rest => do
    let (first, second) ← toPair index item
    let key ← first.toKey
    storePairs (index + 1) (stored.insert key second) rest

/-- Read a value as a mapping: a mapping itself, or a sequence of pairs. -/
def toMapping : Value → Except Fault Mapping
  | .mapping entries => .ok entries
  | value => do storePairs 0 [] (← value.items)

/-- Read a value as a mapping, where anything that counts as false is the empty mapping. -/
def toMappingOrEmpty (value : Value) : Except Fault Mapping :=
  if value.isTruthy then value.toMapping else .ok []

/-- The field of a message. -/
def field (message : Value) (name : String) : Except Fault Value :=
  match message with
  | .mapping entries =>
    match Mapping.named? entries name with
    | some value => .ok value
    | none => refuse (.noField name)
  | _ => refuse (.noField name)

/-- The field of a message, if it has one of that name. -/
def field? (message : Value) (name : String) : Option Value :=
  match message with
  | .mapping entries => Mapping.named? entries name
  | _ => none

end Value

end MapIngest
