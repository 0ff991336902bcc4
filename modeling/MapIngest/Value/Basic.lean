import MapIngest.Decimal.Binary64

/-!
# Dynamic values

Parameters, configuration files and message fields arrive without a fixed
type.  A value is a scalar, a list of values, or a mapping whose entries keep
the order in which their keys first appeared.  The keys of a mapping are
scalars.

Two scalars are the same key when they have one canonical form: truth values
and whole doubles count as the integers they equal, and every other scalar is
its own canonical form.
-/

namespace MapIngest

/-- A value without parts. -/
inductive Scalar where
  | null
  | bool (truth : Bool)
  | int (number : Int)
  | float (number : Float)
  | text (content : String)
  | bytes (content : List UInt8)
  /-- A calendar date or a point in time, in its ISO form. -/
  | date (iso : String)
deriving DecidableEq, Inhabited

/-- A value of any shape. -/
inductive Value where
  | scalar (content : Scalar)
  | list (items : List Value)
  | mapping (entries : List (Scalar × Value))
deriving Inhabited

/-- The entries of a mapping, in order. -/
abbrev Mapping := List (Scalar × Value)

namespace Value

@[match_pattern] abbrev null : Value := .scalar .null

@[match_pattern] abbrev bool (truth : Bool) : Value := .scalar (.bool truth)

@[match_pattern] abbrev int (number : Int) : Value := .scalar (.int number)

@[match_pattern] abbrev float (number : Float) : Value := .scalar (.float number)

@[match_pattern] abbrev text (content : String) : Value := .scalar (.text content)

@[match_pattern] abbrev bytes (content : List UInt8) : Value := .scalar (.bytes content)

@[match_pattern] abbrev date (iso : String) : Value := .scalar (.date iso)

end Value

/-- The canonical form of a scalar as a key. -/
def Scalar.canonical : Scalar → Scalar
  | .bool truth => .int (if truth then 1 else 0)
  | .float number =>
    match Decimal.toInteger? number with
    | some whole => .int whole
    | none => .float number
  | scalar => scalar

/-- Two scalars name the same entry of a mapping. -/
def Scalar.sameKey (left right : Scalar) : Bool :=
  left.canonical == right.canonical

@[simp]
theorem Scalar.sameKey_refl (key : Scalar) : key.sameKey key = true := by
  simp [Scalar.sameKey]

@[simp]
theorem Scalar.sameKey_text (left right : String) :
    Scalar.sameKey (.text left) (.text right) = (left == right) := by
  rw [Bool.eq_iff_iff]
  simp [Scalar.sameKey, Scalar.canonical]

theorem Scalar.sameKey_iff {left right : Scalar} :
    left.sameKey right = true ↔ left.canonical = right.canonical := by
  simp [Scalar.sameKey]

/-- A scalar counts as true unless it is empty, zero, false or null. -/
def Scalar.isTruthy : Scalar → Bool
  | .null => false
  | .bool truth => truth
  | .int number => number != 0
  | .float number => !(number == 0.0)
  | .text content => !content.isEmpty
  | .bytes content => !content.isEmpty
  | .date _ => true

/-- A value counts as true unless it is an empty collection or a scalar that does not. -/
def Value.isTruthy : Value → Bool
  | .scalar content => content.isTruthy
  | .list items => !items.isEmpty
  | .mapping entries => !entries.isEmpty

mutual

/-- Two values are equal: the same shape, and scalars that are the same key. -/
def Value.same : Value → Value → Bool
  | .scalar left, .scalar right => left.sameKey right
  | .list left, .list right => sameItems left right
  | .mapping left, .mapping right => sameEntries left right
  | _, _ => false

/-- Two lists of values are equal, item by item. -/
def sameItems : List Value → List Value → Bool
  | [], [] => true
  | x :: xs, y :: ys => Value.same x y && sameItems xs ys
  | _, _ => false

/-- Two mappings are equal, entry by entry. -/
def sameEntries : List (Scalar × Value) → List (Scalar × Value) → Bool
  | [], [] => true
  | (k, v) :: rest, (l, w) :: others => k.sameKey l && Value.same v w && sameEntries rest others
  | _, _ => false

end

end MapIngest
