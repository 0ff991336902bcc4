import MapIngest.Tensor

/-!
# Observations

An observation is what a sensor saw at one moment, in the frame of the sensor:
a disparity image with the constants that turn disparity into distance, or a
point cloud.  The stamp is kept as the sensor gave it, since only the source of
poses reads it.
-/

namespace MapIngest.Sensor

/-- A disparity image with the constants of the pair of cameras. -/
structure DisparityImage where
  /-- The disparities in pixels. -/
  pixels : Tensor
  focalLength : Value
  baseline : Value
  /-- Smaller disparities are invalid. -/
  least : Value := .float 0.0
  greatest : Value := .float (1.0 / 0.0)

/-- One size of an array, counted from the outermost dimension. -/
def extentAt (pixels : Tensor) (dimension : Nat) : Except Fault Nat :=
  match pixels.shape[dimension]? with
  | some size => .ok size
  | none => Value.refuse .noItem

/-- The width of a disparity image. -/
def DisparityImage.width (image : DisparityImage) : Except Fault Nat :=
  extentAt image.pixels 1

/-- The height of a disparity image. -/
def DisparityImage.height (image : DisparityImage) : Except Fault Nat :=
  extentAt image.pixels 0

/-- A disparity image seen by a camera. -/
structure DisparityObservation where
  frame : String
  stamp : Value
  image : DisparityImage

/-- Points seen by a sensor. -/
structure CloudObservation where
  frame : String
  stamp : Value
  points : Value

end MapIngest.Sensor
