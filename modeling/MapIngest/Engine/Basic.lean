import MapIngest.Act
import MapIngest.Config.EngineParams
import MapIngest.Engine.Snapshot
import MapIngest.Geometry.Pose.Basic
import MapIngest.Sensor.Observation

/-!
# The map engine

The map itself is kept by an engine outside this library.  An engine is known
by the calls that it answers.  Each call may change the engine and may fail.
-/

namespace MapIngest

open MapIngest.Geometry Sensor

/-- The calls of an engine whose state has type `ε`. -/
structure MapEngine (ε : Type) where
  /-- Take over the parameters of the map. -/
  setParameters : Config.EngineParams → Call ε Unit
  /-- Insert a disparity image, given the pose, the reprojection matrix and the image size. -/
  insertDisparity : Pose Float → DisparityImage → Mat4 Float → Int × Int → Call ε Unit
  /-- Insert points, given the pose. -/
  insertPoints : Pose Float → Value → Call ε Unit
  /-- Mark a box, given by centre and size, as occupied. -/
  setOccupied : Vec3 Float → Vec3 Float → Call ε Unit
  /-- Mark a box, given by centre and size, as free. -/
  setFree : Vec3 Float → Vec3 Float → Call ε Unit
  /-- Forget the map. -/
  reset : Call ε Unit
  /-- The markers of occupied and of free cells, expressed in a frame. -/
  markers : String → Call ε (Value × Value)
  /-- The map in the binary encoding, if the engine can serialize it. -/
  binaryMap : Call ε (Option Snapshot)
  /-- The map in the full encoding, if the engine can serialize it. -/
  fullMap : Call ε (Option Snapshot)
  /-- Write the map to a file; the answer counts as true on success. -/
  save : String → Call ε Value
  /-- Read the map from a file; the answer counts as true on success. -/
  load : String → Call ε Value

end MapIngest
