import MapIngest.Calibration.Message
import MapIngest.Node.Basic

/-!
# Receiving messages

A camera message becomes a record of the calibration.  A disparity image or a
point cloud is read and inserted; one whose content does not make sense is
reported and leaves no other trace.
-/

namespace MapIngest.MapNode

open Node Sensor

variable {ε β ω α : Type}

/-- How often a malformed message is reported at most, in seconds. -/
def malformedSpacing : Float := 5.0

/-- The record of a malformed message. -/
def malformed (title : String) (fault : Fault) : LogRecord :=
  (LogRecord.warn (title ++ " conversion failed: " ++ fault.text)).every malformedSpacing

/-- Take an observation that was read, or report that it makes no sense. -/
def takeRead (title : String) (read : Except Fault α) (take : α → Act (MapNode ε β ω) Bool) :
    Act (MapNode ε β ω) Unit := do
  match read with
  | .ok observation => do
    let _ ← take observation
    return ()
  | .error fault =>
    if fault.kind.isValue then
      Act.log (malformed title fault)
    else
      Act.fail fault

/-- Take a message of the left camera. -/
def takeLeftCamera (message : Value) : Act (MapNode ε β ω) Unit := do
  let camera ← Act.ofExcept (Calibration.Camera.ofMessage message)
  onCoordinator (Coordinator.onCalibration (Calibration.takeLeft camera))

/-- Take a message of the right camera. -/
def takeRightCamera (message : Value) : Act (MapNode ε β ω) Unit := do
  let camera ← Act.ofExcept (Calibration.Camera.ofMessage message)
  onCoordinator (Coordinator.onCalibration (Calibration.takeRight camera))

/-- Take a disparity image. -/
def takeDisparity (components : NodeComponents ε β ω) (message : Value) :
    Act (MapNode ε β ω) Unit :=
  takeRead (Coordinator.streamTitle .disparity) (DisparityObservation.ofMessage message)
    fun observation => coordinate components fun components =>
      Coordinator.insertDisparity components observation

/-- Take a point cloud. -/
def takeCloud (components : NodeComponents ε β ω) (message : Value) :
    Act (MapNode ε β ω) Unit :=
  takeRead (Coordinator.streamTitle .pointcloud) (CloudObservation.ofMessage message)
    fun observation => coordinate components fun components =>
      Coordinator.insertCloud components observation

/-- Receive a message on a topic. -/
def receive (components : NodeComponents ε β ω) : Input → Value → Act (MapNode ε β ω) Unit
  | .leftCamera => takeLeftCamera
  | .rightCamera => takeRightCamera
  | .disparity => takeDisparity components
  | .pointcloud => takeCloud components

end MapIngest.MapNode
