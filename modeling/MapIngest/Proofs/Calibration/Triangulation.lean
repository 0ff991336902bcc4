import Mathlib.Tactic.FieldSimp
import Mathlib.Tactic.Ring
import MapIngest.Calibration.Reprojection

/-!
# Triangulation is exact

A rectified pair of cameras has one focal length and looks in one direction; the right
camera is shifted along the rows of the image, and its principal point may stand in
another column.  A point that is not in the plane of the cameras is seen by both of them
in the same row.  The pixel of the left image together with the disparity, which is how
far apart the two columns are, gives the point back: the reprojection matrix takes them
to a nonzero multiple of the point.

All of this is stated in exact arithmetic, over any field.
-/

namespace MapIngest.Calibration

open MapIngest.Geometry

/-- A rectified pair of cameras that stand apart. -/
structure RectifiedPair (K : Type) [Field K] where
  focal : K
  /-- The column of the principal point in the left image. -/
  leftCentre : K
  /-- The column of the principal point in the right image. -/
  rightCentre : K
  /-- The row of the principal point in both images. -/
  centreRow : K
  /-- The horizontal offset of the right camera. -/
  offset : K
  focal_ne_zero : focal ≠ 0
  offset_ne_zero : offset ≠ 0

variable {K : Type} [Field K]

namespace RectifiedPair

variable (pair : RectifiedPair K)

/-- The projection of the left camera. -/
def left : Mat34 K where
  x := ⟨pair.focal, 0, pair.leftCentre, 0⟩
  y := ⟨0, pair.focal, pair.centreRow, 0⟩
  z := ⟨0, 0, 1, 0⟩

/-- The projection of the right camera. -/
def right : Mat34 K where
  x := ⟨pair.focal, 0, pair.rightCentre, pair.offset⟩
  y := ⟨0, pair.focal, pair.centreRow, 0⟩
  z := ⟨0, 0, 1, 0⟩

end RectifiedPair

/-- What a projection makes of a point, up to a factor. -/
def projected (projection : Mat34 K) (point : Vec3 K) : Vec3 K :=
  projection.map fun row => row.dot ⟨point.x, point.y, point.z, 1⟩

/-- A place in an image. -/
structure Pixel (K : Type) where
  column : K
  row : K

/-- Where a camera sees a point. -/
def pixel (projection : Mat34 K) (point : Vec3 K) : Pixel K :=
  let seen := projected projection point
  ⟨seen.x / seen.z, seen.y / seen.z⟩

/-- The point that a multiple of it stands for. -/
def pointOf (multiple : Vec4 K) : Vec3 K :=
  ⟨multiple.x / multiple.w, multiple.y / multiple.w, multiple.z / multiple.w⟩

namespace RectifiedPair

variable (pair : RectifiedPair K)

theorem baseline_right : baseline pair.right = -pair.offset / pair.focal := rfl

/-- Cameras that stand apart have a reprojection matrix. -/
theorem reprojection_eq [DecidableEq K] :
    reprojection pair.left pair.right =
      .ok (matrixFor pair.left pair.right (baseline pair.right)) := by
  have focal : (focalLength pair.right == 0) = false := beq_false_of_ne pair.focal_ne_zero
  have apart : (baseline pair.right == 0) = false := by
    refine beq_false_of_ne ?_
    rw [baseline_right]
    exact div_ne_zero (neg_ne_zero.mpr pair.offset_ne_zero) pair.focal_ne_zero
  rw [reprojection, focal, apart]
  rfl

variable {point : Vec3 K} (deep : point.z ≠ 0)

include deep

theorem pixel_left :
    pixel pair.left point =
      ⟨pair.focal * point.x / point.z + pair.leftCentre,
        pair.focal * point.y / point.z + pair.centreRow⟩ := by
  simp only [pixel, projected, left, Vec3.map, Vec4.dot, zero_mul, one_mul, zero_add, add_zero,
    Pixel.mk.injEq]
  constructor <;> field_simp

theorem pixel_right :
    pixel pair.right point =
      ⟨(pair.focal * point.x + pair.offset) / point.z + pair.rightCentre,
        pair.focal * point.y / point.z + pair.centreRow⟩ := by
  simp only [pixel, projected, right, Vec3.map, Vec4.dot, zero_mul, one_mul, mul_one, zero_add,
    add_zero, Pixel.mk.injEq]
  constructor
  · field_simp
    ring
  · field_simp

/-- The disparity is that of the principal points, less a share that falls with the depth. -/
theorem disparity :
    (pixel pair.left point).column - (pixel pair.right point).column =
      pair.leftCentre - pair.rightCentre - pair.offset / point.z := by
  rw [pair.pixel_left deep, pair.pixel_right deep]
  ring

/-- The matrix takes the left pixel and the disparity to a multiple of the point. -/
theorem apply_matrixFor :
    (matrixFor pair.left pair.right (baseline pair.right)).apply
        ⟨(pixel pair.left point).column, (pixel pair.left point).row,
          (pixel pair.left point).column - (pixel pair.right point).column, 1⟩ =
      ⟨pair.focal / point.z * point.x, pair.focal / point.z * point.y,
        pair.focal / point.z * point.z, pair.focal / point.z⟩ := by
  have focal := pair.focal_ne_zero
  have offset := pair.offset_ne_zero
  rw [pair.disparity deep, pair.pixel_left deep, baseline_right]
  simp only [matrixFor, Mat4.apply, Vec4.dot, Vec4.mk.injEq, focalLength, centreX, centreY, left,
    right]
  refine ⟨?_, ?_, ?_, ?_⟩
  all_goals field_simp
  all_goals ring

end RectifiedPair

/--
A rectified pair has a reprojection matrix.  Every point out of the plane of the cameras is
seen by both of them in one row, and the matrix takes its left pixel and its disparity to a
vector whose last component is not zero and which stands for the point.
-/
theorem reprojection_triangulates [DecidableEq K] (pair : RectifiedPair K) :
    ∃ matrix, reprojection pair.left pair.right = .ok matrix ∧
      ∀ point : Vec3 K, point.z ≠ 0 →
        let left := pixel pair.left point
        let right := pixel pair.right point
        let found := matrix.apply ⟨left.column, left.row, left.column - right.column, 1⟩
        right.row = left.row ∧ found.w ≠ 0 ∧ pointOf found = point := by
  refine ⟨_, pair.reprojection_eq, fun point deep => ?_⟩
  intro left right found
  have nonzero : pair.focal / point.z ≠ 0 := div_ne_zero pair.focal_ne_zero deep
  have multiple : found = _ := pair.apply_matrixFor deep
  refine ⟨?_, ?_, ?_⟩
  · simp only [left, right, pair.pixel_left deep, pair.pixel_right deep]
  · rw [multiple]
    exact nonzero
  · rw [multiple]
    simp only [pointOf, mul_div_cancel_left₀ _ nonzero]

/-- A pair whose principal points stand in different columns. -/
def shiftedPair : RectifiedPair ℚ where
  focal := 450
  leftCentre := 376
  rightCentre := 350
  centreRow := 240
  offset := -99 / 2
  focal_ne_zero := by norm_num
  offset_ne_zero := by norm_num

/-- A point that is seen in columns 526 and 483.5 of row 90 is found again. -/
theorem shiftedPair_triangulates :
    (3 : ℚ) ≠ 0 ∧ ∃ matrix, reprojection shiftedPair.left shiftedPair.right = .ok matrix ∧
      pointOf (matrix.apply ⟨526, 90, 526 - 967 / 2, 1⟩) = ⟨1, -1, 3⟩ := by
  have deep : (3 : ℚ) ≠ 0 := by norm_num
  rcases reprojection_triangulates shiftedPair with ⟨matrix, exists_, found⟩
  refine ⟨deep, matrix, exists_, ?_⟩
  have left : pixel shiftedPair.left ⟨1, -1, 3⟩ = ⟨526, 90⟩ := by
    rw [shiftedPair.pixel_left deep, shiftedPair]
    norm_num
  have right : pixel shiftedPair.right ⟨1, -1, 3⟩ = ⟨967 / 2, 90⟩ := by
    rw [shiftedPair.pixel_right deep, shiftedPair]
    norm_num
  have back := (found ⟨1, -1, 3⟩ deep).2.2
  rwa [left, right] at back

end MapIngest.Calibration
