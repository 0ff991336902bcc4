import MapIngest.Rehearsal.Script
import MapIngest.Sensor.Observation
import MapIngest.Sensor.Single

/-!
# Scripted observations

A script gives a disparity image either by its rows or by its size and one
disparity that fills it.  Disparities are rounded to single precision.  The
constants of the pair of cameras may be left out.
-/

namespace MapIngest.Rehearsal

open Sensor

/-- Round every element of an array to single precision. -/
def toSingles (pixels : Tensor) : Tensor :=
  { pixels with elements := pixels.elements.map toSingle }

/-- An image of one disparity. -/
def uniformImage (height width : Nat) (disparity : Float) : Tensor :=
  ⟨[height, width], List.replicate (height * width) disparity⟩

/-- Read an image that is given by its size and one disparity. -/
def readUniform (image disparity : Value) : Except Fault Tensor := do
  let height ← (← image.field "height").toInteger
  let width ← (← image.field "width").toInteger
  return uniformImage height.toNat width.toNat (← disparity.toFloat)

/-- Read an image. -/
def readPixels (image : Value) : Except Fault Tensor := do
  match image.field? "fill" with
  | some disparity => return toSingles (← readUniform image disparity)
  | none => return toSingles (← Tensor.ofValue image)

/-- Read a disparity observation. -/
def readDisparity (observation : Value) : Except Fault DisparityObservation := do
  let pixels ← readPixels ((observation.field? "image").getD .null)
  let image : DisparityImage :=
    { pixels := pixels
      focalLength := (observation.field? "f").getD (.float 450.0)
      baseline := (observation.field? "baseline").getD (.float 0.11)
      least := (observation.field? "min_disparity").getD (.float 0.0)
      greatest := (observation.field? "max_disparity").getD (.float (1.0 / 0.0)) }
  return ⟨textField observation "frame" "", (observation.field? "stamp").getD .null, image⟩

/-- Read a point cloud observation; its points are kept as they are given. -/
def readCloudObservation (observation : Value) : CloudObservation :=
  ⟨textField observation "frame" "", (observation.field? "stamp").getD .null,
    (observation.field? "points").getD .null⟩

end MapIngest.Rehearsal
