import MapIngest.Geometry.Vector
import MapIngest.Value.Conversion

/-!
# Rectangular arrays of doubles

A value is read as an array by descending through its lists.  First the shape
is found: all items of a list must have one shape, or the value is ragged and
is refused, and so is a value that is nested deeper than an array can have
dimensions.  Then every element is converted, in order; a null becomes the
double that is not a number.  The array is kept as its shape and its elements
in row-major order.
-/

namespace MapIngest

open MapIngest.Geometry

/-- An array: its dimensions, outermost first, and its elements in row-major order. -/
structure Tensor where
  shape : List Nat
  elements : List Float
deriving DecidableEq

/-- The leading dimensions that two shapes share. -/
def sharedDimensions : List Nat → List Nat → List Nat
  | m :: ms, n :: ns => if m = n then m :: sharedDimensions ms ns else []
  | _, _ => []

/-- The shape of nested lists as far as it is regular, and whether it is regular throughout. -/
structure Outline where
  dimensions : List Nat
  regular : Bool

/-- The outline of a list whose items have the given outlines. -/
def Outline.ofItems : List Outline → Outline
  | [] => ⟨[0], true⟩
  | first :: rest =>
    let shared := rest.foldl
      (fun found outline =>
        ⟨sharedDimensions found.dimensions outline.dimensions,
          found.regular && outline.regular && found.dimensions == outline.dimensions⟩)
      first
    ⟨(rest.length + 1) :: shared.dimensions, shared.regular⟩

mutual

/-- The outline of a value. -/
def Value.outline : Value → Outline
  | .scalar _ => ⟨[], true⟩
  | .mapping _ => ⟨[], true⟩
  | .list contents => Outline.ofItems (itemOutlines contents)

/-- The outlines of the items of a list. -/
def itemOutlines : List Value → List Outline
  | [] => []
  | item :: rest => item.outline :: itemOutlines rest

end

mutual

/-- The values that are no lists, in order. -/
def Value.leaves : Value → List Value
  | .list contents => itemLeaves contents
  | value => [value]

/-- The leaves of the items of a list. -/
def itemLeaves : List Value → List Value
  | [] => []
  | item :: rest => item.leaves ++ itemLeaves rest

end

/-- Drop the null characters at the end of a text. -/
def dropPadding (content : String) : String :=
  String.ofList (content.toList.reverse.dropWhile fun c => c.toNat == 0).reverse

/-- Read an element of an array; a text may be padded with null characters. -/
def Value.toElement : Value → Except Fault Float
  | .null => .ok (0.0 / 0.0)
  | .text content => (Value.text (dropPadding content)).toFloat
  | value => value.toFloat

namespace Tensor

/-- The number of dimensions that an array has at most. -/
def maxDimensions : Nat := 64

/-- Why nested lists that are no array are refused. -/
def refusal (dimensions : List Nat) : Conversion :=
  if dimensions.length < maxDimensions then .ragged dimensions else .nesting maxDimensions

/-- Read a value as an array. -/
def ofValue (value : Value) : Except Fault Tensor :=
  let outline := value.outline
  if outline.regular ∧ outline.dimensions.length ≤ maxDimensions then
    (value.leaves.mapM Value.toElement).map fun elements => ⟨outline.dimensions, elements⟩
  else
    Value.refuse (refusal outline.dimensions)

/-- The number of elements. -/
def size (tensor : Tensor) : Nat :=
  tensor.elements.length

/-- An array of two dimensions, given by its rows. -/
def ofRows (width : Nat) (rows : List (List Float)) : Tensor :=
  ⟨[rows.length, width], rows.flatten⟩

/-- Cut a list into triples, if it is a whole number of them. -/
def triples? {α : Type} : List α → Option (List (Vec3 α))
  | [] => some []
  | x :: y :: z :: rest => (triples? rest).map (⟨x, y, z⟩ :: ·)
  | _ => none

/-- Cut a list into quadruples, if it is a whole number of them. -/
def quadruples? {α : Type} : List α → Option (List (Vec4 α))
  | [] => some []
  | x :: y :: z :: w :: rest => (quadruples? rest).map (⟨x, y, z, w⟩ :: ·)
  | _ => none

/-- The outcome of laying a number of elements out in a shape. -/
def laidOut {α : Type} (size : Nat) (shape : List (Option Nat)) : Option α → Except Fault α
  | some layout => .ok layout
  | none => Value.refuse (.shape size shape)

/-- Lay the elements out as one vector of three components. -/
def toVec3 (tensor : Tensor) : Except Fault (Vec3 Float) :=
  laidOut tensor.size [some 3] (Vec3.ofList? tensor.elements)

/-- Lay the elements out as rows of three. -/
def toPoints (tensor : Tensor) : Except Fault (List (Vec3 Float)) :=
  laidOut tensor.size [none, some 3] (triples? tensor.elements)

/-- Lay the elements out as a matrix of three rows and three columns. -/
def toMat3 (tensor : Tensor) : Except Fault (Mat3 Float) :=
  laidOut tensor.size [some 3, some 3] ((triples? tensor.elements).bind Vec3.ofList?)

/-- Lay the elements out as a matrix of three rows and four columns. -/
def toMat34 (tensor : Tensor) : Except Fault (Mat34 Float) :=
  laidOut tensor.size [some 3, some 4] ((quadruples? tensor.elements).bind Vec3.ofList?)

/-- Lay the elements out as a matrix of four rows and four columns. -/
def toMat4 (tensor : Tensor) : Except Fault (Mat4 Float) :=
  laidOut tensor.size [some 4, some 4] ((quadruples? tensor.elements).bind Vec4.ofList?)

/-- Cut a list into a number of pieces of equal length. -/
def pieces {α : Type} : (count : Nat) → (stride : Nat) → List α → List (List α)
  | 0, _, _ => []
  | count + 1, stride, elements =>
    let (piece, rest) := elements.splitAt stride
    piece :: pieces count stride rest

/-- Nest the elements along the dimensions, the outermost first. -/
def nested : (shape : List Nat) → (elements : List Float) → Value
  | [], elements => .float (elements.headD 0.0)
  | [_], elements => .list (elements.map .float)
  | count :: inner, elements =>
    .list ((pieces count (inner.foldl (· * ·) 1) elements).map (nested inner))

/-- The array as nested lists of doubles. -/
def toValue (tensor : Tensor) : Value :=
  nested tensor.shape tensor.elements

end Tensor

end MapIngest
