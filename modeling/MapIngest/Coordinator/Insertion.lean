import MapIngest.Coordinator.Basic

/-!
# Forward or drop

Every observation is counted as received and then either handed to the engine
once or dropped for one of three reasons: there is no calibration yet, there
is no pose, or the engine failed.  Nothing is kept back or tried again.  A
disparity image needs a calibration; a point cloud does not.

The first observation of each stream that reaches the engine is announced.
-/

namespace MapIngest.Coordinator

open Ingest Sensor

variable {ε τ π : Type}

/-- Count an observation. -/
def count (stream : Stream) (counter : Counter) : Act (Coordinator ε τ π) Int :=
  onStats (Stats.bump stream counter)

/-- Count a dropped observation; the result says that it was dropped. -/
def drop (stream : Stream) (reason : Counter) : Act (Coordinator ε τ π) Bool := do
  let _ ← count stream reason
  return false

/-- The record of a disparity image that comes before the calibration. -/
def notReadyRecord : LogRecord :=
  (LogRecord.warn "No camera info available yet, skipping adding disparity.").every 1.0

/-- How a stream is called in log records. -/
def streamTitle : Stream → String
  | .disparity => "Disparity"
  | .pointcloud => "Pointcloud"

/-- The record of an insertion that failed. -/
def insertionFailed (stream : Stream) (frame : String) (fault : Fault) : LogRecord :=
  .error (streamTitle stream ++ " insertion failed (" ++ frame ++ "): " ++ faultText fault)

/-- The record of the first disparity image. -/
def firstDisparity (frame : String) (width height : Nat) : LogRecord :=
  .info ("First disparity image inserted, frame_id=" ++ frame ++ ", size=" ++
    Decimal.intText width ++ "x" ++ Decimal.intText height)

/-- The record of the first point cloud. -/
def firstCloud (frame : String) (points : Nat) : LogRecord :=
  .info ("First pointcloud inserted, frame_id=" ++ frame ++ ", points=" ++
    Decimal.intText points)

/-- Announce the first disparity image of a run. -/
def announceDisparity (observation : DisparityObservation) : Act (Coordinator ε τ π) Unit := do
  let width ← Act.ofExcept observation.image.width
  let height ← Act.ofExcept observation.image.height
  Act.log (firstDisparity observation.frame width height)

/-- Announce the first point cloud of a run. -/
def announceCloud (observation : CloudObservation) : Act (Coordinator ε τ π) Unit := do
  let points ← Act.ofExcept observation.points.length
  Act.log (firstCloud observation.frame points)

/-- Hand an observation to the engine: count it, and announce it if it is the first. -/
def hand (stream : Stream) (frame : String) (call : Call ε Unit)
    (announce : Act (Coordinator ε τ π) Unit) : Act (Coordinator ε τ π) Bool := do
  match ← tryEngine call with
  | .error fault => do
    let _ ← count stream .engineError
    Act.log (insertionFailed stream frame fault)
    return false
  | .ok _ => do
    if (← count stream .inserted) = 1 then
      announce
    return true

/-- Insert a disparity image; the result says whether it reached the engine. -/
def insertDisparity (components : Components ε τ π) (observation : DisparityObservation) :
    Act (Coordinator ε τ π) Bool := do
  let _ ← count .disparity .received
  let coordinator ← Act.get
  match coordinator.calibration.readiness.working? with
  | none => do
    let _ ← count .disparity .notReady
    Act.log notReadyRecord
    return false
  | some working => do
    match ← onPoses (PoseDesk.resolve components.poses observation.frame coordinator.worldFrame
        observation.stamp) with
    | none => drop .disparity .noPose
    | some pose =>
      hand .disparity observation.frame
        (components.engine.insertDisparity pose observation.image working.matrix working.size)
        (announceDisparity observation)

/-- Insert a point cloud; the result says whether it reached the engine. -/
def insertCloud (components : Components ε τ π) (observation : CloudObservation) :
    Act (Coordinator ε τ π) Bool := do
  let _ ← count .pointcloud .received
  let coordinator ← Act.get
  match ← onPoses (PoseDesk.resolve components.poses observation.frame coordinator.worldFrame
      observation.stamp) with
  | none => drop .pointcloud .noPose
  | some pose =>
    hand .pointcloud observation.frame (components.engine.insertPoints pose observation.points)
      (announceCloud observation)

end MapIngest.Coordinator
