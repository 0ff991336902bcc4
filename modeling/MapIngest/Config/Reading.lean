import MapIngest.Config.Issue
import MapIngest.Decimal.Integer
import MapIngest.Text.Encoding
import MapIngest.Value.Mapping

/-!
# Reading settings

A setting is read generously.  A double may be given as an integer, a truth
value or a text; an integer as a whole double of 64 bits, a truth value or a
text; a truth value as zero or one, or as one of a few words.  Wherever a text
may be given, so may bytes that spell one.  Nothing else is coerced: a text is
not made of a number, and a list only of a list.

What is read is then held against the limits of its field.  Each reader either
returns the value to store or says why it refuses.
-/

namespace MapIngest.Config

/-- A limit on a double. -/
inductive Limit where
  | above (bound : Float)
  | atLeast (bound : Float)
  | below (bound : Float)
  | atMost (bound : Float)

/-- Whether a double keeps a limit; a comparison with the result that is not a number fails. -/
def Limit.admits : Limit → Float → Bool
  | .above bound, x => bound < x
  | .atLeast bound, x => bound ≤ x
  | .below bound, x => x < bound
  | .atMost bound, x => x ≤ bound

/-- The refusal of a double outside a limit. -/
def Limit.refusal : Limit → Refusal
  | .above _ => .notAbove
  | .atLeast _ => .notAtLeast
  | .below _ => .notBelow
  | .atMost _ => .notAtMost

/-- Read bytes as the text that they spell. -/
def readSpelled {α : Type} (invalid : Refusal) (read : String → Except Refusal α)
    (content : List UInt8) : Except Refusal α :=
  match Text.decode? content with
  | some text => read text
  | none => .error invalid

/-- Read a text as a double. -/
def floatOfText (content : String) : Except Refusal Float :=
  match Decimal.settingNumeral? content.toList with
  | some numeral => .ok numeral.toFloat
  | none => .error .unreadableFloat

/-- Read a setting as a double. -/
def readFloat : Value → Except Refusal Float
  | .float number => .ok number
  | .bool truth => .ok (if truth then 1.0 else 0.0)
  | .int number =>
    match Decimal.ofInteger? number with
    | some near => .ok near
    | none => .error .notFloat
  | .text content => floatOfText content
  | .bytes content => readSpelled .unreadableFloat floatOfText content
  | _ => .error .notFloat

/-- Hold a double against limits; the first that it breaks decides. -/
def withinLimits (limits : List Limit) (number : Float) : Except Refusal Float :=
  match limits.find? fun limit => !limit.admits number with
  | some limit => .error limit.refusal
  | none => .ok number

/-- Read a setting as a double within limits. -/
def readFloatWithin (limits : List Limit) (value : Value) : Except Refusal Float := do
  withinLimits limits (← readFloat value)

/-- Read a double as an integer: it must be one, and within the range of 64 bits. -/
def integerOfFloat (number : Float) : Except Refusal Int :=
  match Decimal.scaled? number with
  | none => .error .notFinite
  | some exact =>
    if !exact.isIntegral then
      .error .fractional
    else if -2 ^ 63 < exact.truncate ∧ exact.truncate < 2 ^ 63 then
      .ok exact.truncate
    else
      .error .oversizedInteger

/-- Read a text as an integer. -/
def integerOfText (content : String) : Except Refusal Int :=
  let trimmed := Text.trim Text.isWhiteSpace content.toList
  if Decimal.longestInteger < trimmed.length then
    .error .oversizedInteger
  else
    match Decimal.settingInteger? trimmed with
    | some number => .ok number
    | none => .error .unreadableInteger

/-- Read a setting as an integer. -/
def readInteger : Value → Except Refusal Int
  | .int number => .ok number
  | .bool truth => .ok (if truth then 1 else 0)
  | .float number => integerOfFloat number
  | .text content => integerOfText content
  | .bytes content => readSpelled .unreadableInteger integerOfText content
  | _ => .error .notInteger

/-- Read a setting as a positive integer. -/
def readPositive (value : Value) : Except Refusal Int := do
  let number ← readInteger value
  if 0 < number then .ok number else .error .notAbove

/-- The words for a true setting. -/
def trueWords : List String :=
  ["1", "on", "t", "true", "y", "yes"]

/-- The words for a false setting. -/
def falseWords : List String :=
  ["0", "off", "f", "false", "n", "no"]

/-- Read a word in any case as a truth value. -/
def truthOfText (content : String) : Except Refusal Bool :=
  let word := String.ofList (content.toList.map Char.toLower)
  if trueWords.contains word then
    .ok true
  else if falseWords.contains word then
    .ok false
  else
    .error .unreadableTruth

/-- Read an integer as a truth value. -/
def truthOfInteger (number : Int) : Except Refusal Bool :=
  if number = 0 then
    .ok false
  else if number = 1 then
    .ok true
  else if -2 ^ 63 ≤ number ∧ number < 2 ^ 63 then
    .error .unreadableTruth
  else
    .error .notTruth

/-- Read a double as a truth value: it must be an integer. -/
def truthOfFloat (number : Float) : Except Refusal Bool :=
  match integerOfFloat number with
  | .ok whole => truthOfInteger whole
  | .error _ => .error .notTruth

/-- Read a setting as a truth value. -/
def readTruth : Value → Except Refusal Bool
  | .bool truth => .ok truth
  | .int number => truthOfInteger number
  | .float number => truthOfFloat number
  | .text content => truthOfText content
  | .bytes content => readSpelled .unreadableTruth truthOfText content
  | _ => .error .notTruth

/-- Require a text to have at least the given length. -/
def longEnough (least : Nat) (content : String) : Except Refusal String :=
  if content.length < least then .error .shortText else .ok content

/-- Read a setting as a text of at least the given length. -/
def readText (least : Nat) : Value → Except Refusal String
  | .text content => longEnough least content
  | .bytes content => readSpelled .undecodable (longEnough least) content
  | _ => .error .notText

/-- Read items as doubles, the first of which has the given index; all issues are reported. -/
def readFloats : (index : Nat) → List Value → Except (List Issue) (List Float)
  | _, [] => .ok []
  | index, item :: rest =>
    match readFloat item, readFloats (index + 1) rest with
    | .ok number, .ok numbers => .ok (number :: numbers)
    | .ok _, .error issues => .error issues
    | .error refusal, .ok _ => .error [⟨refusal, [.item index]⟩]
    | .error refusal, .error issues => .error (⟨refusal, [.item index]⟩ :: issues)

/-- Read a setting as a list of doubles that may be left out. -/
def readFloatList? : Value → Except (List Issue) (Option (List Float))
  | .null => .ok none
  | .list contents => (readFloats 0 contents).map some
  | _ => .error [⟨.notList, []⟩]

end MapIngest.Config
