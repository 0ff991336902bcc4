import MapIngest.Calibration.Camera
import MapIngest.Sensor.Message

/-!
# Camera records in messages

A camera message names the frame of the camera and gives the size of its image
and its two matrices as rows of numbers.
-/

namespace MapIngest.Calibration

/-- Read a camera message. -/
def Camera.ofMessage (message : Value) : Except Fault Camera := do
  let frame ← Sensor.readFrame message
  let width ← (← message.field "width").toInteger
  let height ← (← message.field "height").toInteger
  let intrinsics ← (← Tensor.ofValue (← message.field "k")).toMat3
  let projection ← (← Tensor.ofValue (← message.field "p")).toMat34
  return ⟨frame, .int width, .int height, intrinsics, projection⟩

end MapIngest.Calibration
