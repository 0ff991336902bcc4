import MapIngest.Calibration.Camera

/-!
# The reprojection matrix

The reprojection matrix of a rectified pair of cameras turns a pixel of the
left image and its disparity into a point: `(x, y, z, w) = Q (u, v, d, 1)`, and
the point is `(x, y, z) / w`.  It exists unless the right camera has no focal
length or no distance to the left one.

The matrix is defined over any arithmetic.  The program uses doubles.
-/

namespace MapIngest.Calibration

open MapIngest.Geometry

/-- Why a pair of cameras has no reprojection matrix. -/
inductive StereoDefect where
  /-- The right camera has no focal length. -/
  | focalLength
  /-- The cameras stand at the same place. -/
  | baseline
deriving DecidableEq, Repr

section Matrix

variable {α : Type} [Neg α] [Sub α] [Mul α] [Div α] [OfNat α 0] [OfNat α 1] [BEq α]

/-- The distance between the cameras, given the projection of the right one. -/
def baseline (right : Mat34 α) : α :=
  -offsetX right / focalLength right

/-- The reprojection matrix for a distance between the cameras. -/
def matrixFor (left right : Mat34 α) (distance : α) : Mat4 α :=
  let shift := -distance
  { x := ⟨1, 0, 0, -centreX left⟩
    y := ⟨0, 1, 0, -centreY left⟩
    z := ⟨0, 0, 0, focalLength left⟩
    w := ⟨0, 0, -1 / shift, (centreX left - centreX right) / shift⟩ }

/-- The reprojection matrix of a pair of cameras. -/
def reprojection (left right : Mat34 α) : Except StereoDefect (Mat4 α) :=
  if focalLength right == 0 then
    .error .focalLength
  else if baseline right == 0 then
    .error .baseline
  else
    .ok (matrixFor left right (baseline right))

end Matrix

/-- The defect of a pair as a fault that names the right camera. -/
def StereoDefect.fault (frame : String) : StereoDefect → Fault
  | .focalLength => .focalLength frame
  | .baseline => .baseline frame

/-- The reprojection matrix of two camera records. -/
def reprojectionOf (left right : Camera) : Except Fault (Mat4 Float) :=
  (reprojection left.projection right.projection).mapError (StereoDefect.fault right.frame)

end MapIngest.Calibration
