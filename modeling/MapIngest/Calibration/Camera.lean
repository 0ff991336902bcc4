import MapIngest.Tensor

/-!
# Camera records

A camera record holds the frame of the camera, the size of its image, its
intrinsic matrix and its projection matrix.  The size is kept as it was given:
it is only read as integers when it is needed.
-/

namespace MapIngest.Calibration

open MapIngest.Geometry

/-- One camera of a stereo pair. -/
structure Camera where
  frame : String
  width : Value
  height : Value
  /-- The intrinsic matrix. -/
  intrinsics : Mat3 Float
  /-- The projection matrix. -/
  projection : Mat34 Float
deriving Inhabited

section Projection

variable {α : Type}

/-- The horizontal focal length of a projection. -/
def focalLength (projection : Mat34 α) : α :=
  projection.x.x

/-- The horizontal coordinate of the principal point. -/
def centreX (projection : Mat34 α) : α :=
  projection.x.z

/-- The vertical coordinate of the principal point. -/
def centreY (projection : Mat34 α) : α :=
  projection.y.z

/-- The horizontal offset: minus focal length times distance for a right camera. -/
def offsetX (projection : Mat34 α) : α :=
  projection.x.w

end Projection

/-- Build a camera record from the values of a message. -/
def Camera.ofValues (frame : String) (width height intrinsics projection : Value) :
    Except Fault Camera := do
  let intrinsics ← (← Tensor.ofValue intrinsics).toMat3
  let projection ← (← Tensor.ofValue projection).toMat34
  return ⟨frame, width, height, intrinsics, projection⟩

/-- The size of the image in integers: width and height. -/
def Camera.size (camera : Camera) : Except Fault (Int × Int) := do
  let width ← camera.width.toInteger
  let height ← camera.height.toInteger
  return (width, height)

end MapIngest.Calibration
