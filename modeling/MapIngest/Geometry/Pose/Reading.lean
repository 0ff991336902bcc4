import MapIngest.Geometry.Pose.Basic
import MapIngest.Tensor

/-!
# Reading poses

A pose is read from a position and a quaternion given as values.  The
quaternion must have four components and a direction: one whose length is
zero, or is not a number, is refused.  The quaternion is looked at before the
position.

Several quaternions may be given at once.  They give a stack of rotations, and
a stack rotates points along its own axes: the result is indexed by the column
of the rotation, by the point, and by the place in the stack, to which the
position is added.
-/

namespace MapIngest.Geometry

/-- A quaternion of doubles at unit length, unless it has no direction. -/
def unit? (q : Quaternion Float) : Option (Quaternion Float) :=
  let length := q.norm Float.sqrt
  if length.isNaN || length == 0.0 then none else some (q.divide length)

/-- Read the rotation of one quaternion. -/
def readRotation (q : Quaternion Float) : Except Fault (Mat3 Float) :=
  match unit? q with
  | some unit => .ok unit.toMatrix
  | none => Value.refuse .zeroNorm

/-- The rotations of one quaternion, or of several. -/
inductive Attitude where
  | single (rotation : Mat3 Float)
  | stack (rotations : List (Mat3 Float))

/-- Read rotations from an array that ends in four components. -/
def Attitude.ofTensor (tensor : Tensor) : Except Fault Attitude :=
  match tensor.shape, Tensor.quadruples? tensor.elements with
  | [4], some [q] => (readRotation q).map .single
  | [_, 4], some qs => (qs.mapM readRotation).map .stack
  | _, _ => Value.refuse .quaternionShape

/-- Read rotations from a value. -/
def Attitude.ofValue (quaternion : Value) : Except Fault Attitude := do
  Attitude.ofTensor (← Tensor.ofValue quaternion)

/-- Read a vector of three components. -/
def readVector (value : Value) : Except Fault (Vec3 Float) := do
  (← Tensor.ofValue value).toVec3

/-- Read points, three components each. -/
def readPoints (value : Value) : Except Fault (List (Vec3 Float)) := do
  (← Tensor.ofValue value).toPoints

/-- Read a pose from a position and one quaternion. -/
def Pose.ofValues (position quaternion : Value) : Except Fault (Pose Float) := do
  match ← Attitude.ofValue quaternion with
  | .single rotation => return ⟨rotation, ← readVector position⟩
  | .stack _ => Value.refuse .quaternionShape

/-- The pose of a position and a quaternion given as numbers. -/
def Pose.ofNumbers (position : Vec3 Float) (q : Quaternion Float) :
    Except Fault (Pose Float) := do
  return ⟨← readRotation q, position⟩

/-- Add a position to the places of a stack: a single place serves every component. -/
def shiftRow (row : List Float) (position : Vec3 Float) : List Float :=
  match row with
  | [only] => position.toList.map (only + ·)
  | row => (row.zip position.toList).map fun pair => pair.1 + pair.2

/-- One component of a point rotated by every rotation of a stack. -/
def rotateRow (rotations : List (Mat3 Float)) (axis : Vec3 Float → Float)
    (point : Vec3 Float) : List Float :=
  rotations.map fun m => point.x * axis m.x + point.y * axis m.y + point.z * axis m.z

/-- Rotate points by a stack of one or three rotations and add a position. -/
def applyStack (rotations : List (Mat3 Float)) (position : Vec3 Float)
    (points : List (Vec3 Float)) : Except Fault (List (List (List Float))) :=
  if rotations.length = 1 ∨ rotations.length = 3 then
    .ok ([Vec3.x, Vec3.y, Vec3.z].map fun axis =>
      points.map fun point => shiftRow (rotateRow rotations axis point) position)
  else
    Value.refuse (.shape rotations.length [some 3])

end MapIngest.Geometry
