import MapIngest.Geometry.Quaternion

/-!
# Poses

A pose carries points from the frame of a sensor into another frame: a point
is rotated and then shifted.
-/

namespace MapIngest.Geometry

/-- A rotation, and the position to which the turned points are shifted. -/
structure Pose (α : Type) where
  rotation : Mat3 α
  position : Vec3 α
deriving DecidableEq

namespace Pose

variable {α : Type}

/-- The pose that leaves every point in place. -/
def identity [OfNat α 0] [OfNat α 1] : Pose α where
  rotation := ⟨⟨1, 0, 0⟩, ⟨0, 1, 0⟩, ⟨0, 0, 1⟩⟩
  position := ⟨0, 0, 0⟩

/-- The pose with a position and the rotation of a quaternion, given a square root. -/
def ofQuaternion [Add α] [Sub α] [Mul α] [Div α] [Neg α] (sqrt : α → α)
    (position : Vec3 α) (q : Quaternion α) : Pose α where
  rotation := q.rotation sqrt
  position := position

/-- Carry a point over. -/
def apply [Add α] [Mul α] (pose : Pose α) (point : Vec3 α) : Vec3 α :=
  (pose.rotation.apply point).add pose.position

/-- Carry points over, one by one. -/
def applyAll [Add α] [Mul α] (pose : Pose α) (points : List (Vec3 α)) : List (Vec3 α) :=
  points.map pose.apply

@[simp]
theorem length_applyAll [Add α] [Mul α] (pose : Pose α) (points : List (Vec3 α)) :
    (pose.applyAll points).length = points.length := by
  simp [applyAll]

end Pose

end MapIngest.Geometry
