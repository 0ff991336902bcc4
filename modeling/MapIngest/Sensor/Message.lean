import MapIngest.Sensor.Image
import MapIngest.Sensor.Observation
import MapIngest.Sensor.PointCloud

/-!
# Observations in messages

A message has a header with the frame of the sensor and a stamp.  A disparity
message holds an image and four constants, a point cloud message the layout
and the bytes of its points.  Reading a message gives an observation or fails;
nothing else comes of it.
-/

namespace MapIngest.Sensor

open MapIngest.Geometry

/-- The frame that a message names. -/
def readFrame (message : Value) : Except Fault String := do
  match ← (← message.field "header").field "frame_id" with
  | .text frame => return frame
  | frame => return frame.display

/-- The stamp of a message, as it is. -/
def readStamp (message : Value) : Except Fault Value := do
  (← message.field "header").field "stamp"

/-- Read a field of a message as a double. -/
def readNumber (message : Value) (name : String) : Except Fault Float := do
  (← message.field name).toFloat

/-- Read the image and the constants of a disparity message. -/
def DisparityImage.ofMessage (message : Value) : Except Fault DisparityImage := do
  let pixels ← readImage (← message.field "image")
  let focalLength ← readNumber message "f"
  let baseline ← readNumber message "t"
  let least ← readNumber message "min_disparity"
  let greatest ← readNumber message "max_disparity"
  return {
    pixels := pixels
    focalLength := .float focalLength
    baseline := .float baseline
    least := .float least
    greatest := .float greatest }

/-- Read a disparity message. -/
def DisparityObservation.ofMessage (message : Value) : Except Fault DisparityObservation := do
  let image ← DisparityImage.ofMessage message
  return ⟨← readFrame message, ← readStamp message, image⟩

/-- Points as a value: a list of rows. -/
def pointsValue (points : List (Vec3 Float)) : Value :=
  .list (points.map fun point => .list (point.toList.map .float))

/-- Read a point cloud message. -/
def CloudObservation.ofMessage (message : Value) : Except Fault CloudObservation := do
  let frame ← readFrame message
  let stamp ← readStamp message
  return ⟨frame, stamp, pointsValue (← readCloud message)⟩

end MapIngest.Sensor
