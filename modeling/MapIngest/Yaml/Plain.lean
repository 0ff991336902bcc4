import MapIngest.Text.Sextets
import MapIngest.Yaml.Node
import MapIngest.Yaml.Timestamp

/-!
# What a scalar stands for

A plain scalar without a tag stands for a truth value, a number, a point in
time, null or one of the special keys, if it is spelled like one; otherwise
for a text.  A scalar that has a tag is read as the tag says, whatever it is
spelled like.

Integers may be binary, octal, hexadecimal or in base sixty, and may hold
underscores.  A float needs a point, and its exponent needs a sign.
-/

namespace MapIngest.Yaml

/-- The spellings of true. -/
def trueSpellings : List String :=
  ["yes", "Yes", "YES", "true", "True", "TRUE", "on", "On", "ON"]

/-- The spellings of false. -/
def falseSpellings : List String :=
  ["no", "No", "NO", "false", "False", "FALSE", "off", "Off", "OFF"]

/-- The spellings of null. -/
def nullSpellings : List String :=
  ["", "~", "null", "Null", "NULL"]

/-- The spellings of infinity, without a sign. -/
def infinitySpellings : List String :=
  [".inf", ".Inf", ".INF"]

/-- The spellings of the result that is not a number. -/
def notANumberSpellings : List String :=
  [".nan", ".NaN", ".NAN"]

/-- A digit or an underscore. -/
def isDigitOrJoin (c : Char) : Bool :=
  c.isDigit || c == '_'

/-- A digit followed by digits and underscores. -/
def isDigits : List Char → Bool
  | c :: rest => c.isDigit && rest.all isDigitOrJoin
  | [] => false

/-- A digit other than zero, followed by digits and underscores. -/
def isCounting : List Char → Bool
  | c :: rest => c.isDigit && c != '0' && rest.all isDigitOrJoin
  | [] => false

/-- A mark, a sign and digits, or nothing. -/
def isExponent : List Char → Bool
  | [] => true
  | mark :: sign :: digits =>
    (mark == 'e' || mark == 'E') && (sign == '+' || sign == '-') &&
      !digits.isEmpty && digits.all Char.isDigit
  | _ => false

/-- A number of minutes or seconds: one digit, or two of which the first is at most five. -/
def isSixtieth : List Char → Bool
  | [ones] => ones.isDigit
  | [tens, ones] => tens.isDigit && tens ≤ '5' && ones.isDigit
  | _ => false

/-- Cut a text at the colons. -/
def atColons (text : List Char) : List (List Char) :=
  text.splitOn ':'

/-- A number in base sixty, the first part of which is in a given class. -/
def isBaseSixty (leading : List Char → Bool) (text : List Char) : Bool :=
  match atColons text with
  | first :: second :: rest => leading first && (second :: rest).all isSixtieth
  | _ => false

/-- Whether a text without its sign is spelled like an integer. -/
def isIntegerSpelling (text : List Char) : Bool :=
  match text with
  | ['0'] => true
  | '0' :: 'b' :: digits => !digits.isEmpty && digits.all ("01_".toList.contains ·)
  | '0' :: 'x' :: digits =>
    !digits.isEmpty && digits.all fun c => (Text.hexValue? c).isSome || c == '_'
  | '0' :: digits => digits.all ("01234567_".toList.contains ·)
  | digits => isCounting digits || isBaseSixty isCounting digits

/-- Whether a text without its sign is spelled like a float. -/
def isFloatSpelling (text : List Char) : Bool :=
  let whole := text.takeWhile (· != '.')
  match text.dropWhile (· != '.') with
  | '.' :: rest =>
    let exponent := rest.dropWhile isDigitOrJoin
    (isDigits whole && isExponent exponent) ||
      (isBaseSixty isDigits whole && exponent.isEmpty) ||
      infinitySpellings.contains (String.ofList text)
  | _ => false

/-- Whether a text is spelled like a float without digits before the point. -/
def isFractionSpelling (text : List Char) : Bool :=
  match text with
  | '.' :: rest =>
    isDigits (rest.takeWhile isDigitOrJoin) && isExponent (rest.dropWhile isDigitOrJoin)
  | _ => false

/-- The tag of a plain scalar. -/
def Tag.ofPlain (content : String) : Tag :=
  let text := content.toList
  let unsigned := (Decimal.splitSign text).2
  if trueSpellings.contains content || falseSpellings.contains content then
    .bool
  else if isFloatSpelling unsigned || isFractionSpelling text ||
      notANumberSpellings.contains content then
    .float
  else if isIntegerSpelling unsigned then
    .int
  else if content == "<<" then
    .merge
  else if nullSpellings.contains content then
    .null
  else if Timestamp.isWritten text then
    .timestamp
  else if content == "=" then
    .default
  else if content == "!" || content == "&" || content == "*" then
    .unknown
  else
    .text

/-- The outcome of reading an integer from a text. -/
def integerOr (content : String) : Option Int → Except Fault Int
  | some number => .ok number
  | none => Value.refuse (.integerText content)

/-- The value of numbers in base sixty, the last of which counts ones. -/
def baseSixty (parts : List Int) : Int :=
  parts.foldl (fun value part => 60 * value + part) 0

/-- The integer that a text without underscores and sign stands for. -/
def unsignedInteger (content : String) (text : List Char) : Except Fault Int :=
  match text with
  | [] => Value.refuse .noItem
  | ['0'] => .ok 0
  | '0' :: 'b' :: digits => integerOr content (Decimal.integerIn? 2 digits)
  | '0' :: 'x' :: digits => integerOr content (Decimal.integerIn? 16 digits)
  | '0' :: 'o' :: digits => integerOr content (Decimal.integerIn? 8 digits)
  | '0' :: digits => integerOr content (Decimal.integerIn? 8 ('0' :: digits))
  | digits =>
    let read := fun part => integerOr content (Decimal.integer? Text.isBlank part)
    if digits.contains ':' then
      (atColons digits).mapM read |>.map baseSixty
    else
      read digits

/-- The integer that a scalar stands for. -/
def integerOf (content : String) : Except Fault Int :=
  let text := content.toList.filter (· != '_')
  if text.isEmpty then
    Value.refuse .noItem
  else
    let (negative, unsigned) := Decimal.splitSign text
    (unsignedInteger content unsigned).map fun number => if negative then -number else number

/-- The float that a text stands for, without underscores. -/
def plainFloat (content : String) (text : List Char) : Except Fault Float :=
  match Decimal.elementNumeral? Text.isBlank text with
  | some numeral => .ok numeral.toFloat
  | none => Value.refuse (.numberText content)

/-- Add numbers in base sixty up, the first of which counts ones. -/
def addSixties : (base : Nat) → (sum : Float) → List Float → Float
  | _, sum, [] => sum
  | base, sum, part :: rest => addSixties (60 * base) (sum + part * Decimal.ofInteger base) rest

/-- The float that a text without underscores and sign stands for. -/
def unsignedFloat (content : String) (text : List Char) : Except Fault Float :=
  if text == ".inf".toList then
    .ok (Decimal.infinity false)
  else if text == ".nan".toList then
    .ok (0.0 / 0.0)
  else if text.contains ':' then
    ((atColons text).mapM (plainFloat content)).map fun parts => addSixties 1 0.0 parts.reverse
  else
    plainFloat content text

/-- The float that a scalar stands for. -/
def floatOf (content : String) : Except Fault Float :=
  let text := (content.toList.filter (· != '_')).map Char.toLower
  if text.isEmpty then
    Value.refuse .noItem
  else
    let (negative, unsigned) := Decimal.splitSign text
    (unsignedFloat content unsigned).map fun number => if negative then -number else number

/-- The truth value that a scalar stands for. -/
def truthOf (content : String) : Except Fault Bool :=
  let word := String.ofList (content.toList.map Char.toLower)
  if trueSpellings.contains word then
    .ok true
  else if falseSpellings.contains word then
    .ok false
  else
    Value.refuse (.noKey word)

/-- The bytes that a scalar stands for. -/
def bytesOf (content : String) : Except Fault (List UInt8) :=
  match content.toList.all (·.toNat < 128), Text.bytesOfSextets? content.toList with
  | true, some bytes => .ok bytes
  | _, _ => .error .document

/-- The value that a scalar stands for under a tag. -/
def scalarOf (tag : Tag) (content : String) : Except Fault Scalar :=
  match tag with
  | .null => .ok .null
  | .bool => (truthOf content).map .bool
  | .int => (integerOf content).map .int
  | .float => (floatOf content).map .float
  | .text => .ok (.text content)
  | .bytes => (bytesOf content).map .bytes
  | .timestamp => Timestamp.toScalar content
  | _ => .error .document

end MapIngest.Yaml
