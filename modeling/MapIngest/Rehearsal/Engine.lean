import MapIngest.Engine.Basic
import MapIngest.Geometry.Pose.Reading
import MapIngest.Rehearsal.Script

/-!
# An engine that follows a script

The engine of a rehearsal writes down every call with its arguments, and then
answers as its script says.  Points are written down as they are after the
pose has carried them over; points that cannot be read fail before the call is
written down.
-/

namespace MapIngest.Rehearsal

open MapIngest.Geometry Sensor

/-- A call of the engine with its arguments. -/
inductive EngineCall where
  | setParameters (params : Config.EngineParams)
  | insertDisparity (pose : Pose Float) (image : DisparityImage) (matrix : Mat4 Float)
      (size : Int × Int)
  | insertPoints (pose : Pose Float) (points : List (Vec3 Float))
  | setOccupied (centre size : Vec3 Float)
  | setFree (centre size : Vec3 Float)
  | reset
  | markers (frame : String)
  | binaryMap
  | fullMap
  | save (path : String)
  | load (path : String)

/-- The name of a call. -/
def EngineCall.label : EngineCall → String
  | .setParameters _ => "set_octomap_parameters"
  | .insertDisparity _ _ _ _ => "insert_disparity_image"
  | .insertPoints _ _ => "insert_pointcloud"
  | .setOccupied _ _ => "set_occupied"
  | .setFree _ _ => "set_free"
  | .reset => "reset_map"
  | .markers _ => "generate_marker_array"
  | .binaryMap => "get_octomap_binary_msg"
  | .fullMap => "get_octomap_full_msg"
  | .save _ => "write_octomap_to_file"
  | .load _ => "load_octomap_from_file"

/-- The state of the engine: its class, its script, and the calls so far, in order. -/
structure ScriptedEngine where
  title : String := "ScriptedEngine"
  script : Script := {}
  calls : List EngineCall := []

namespace ScriptedEngine

/-- Write a call down and answer it: fail as the script says, or give a value. -/
def answer {α : Type} (call : EngineCall) (value : Script → Except Fault α) :
    Call ScriptedEngine α := fun engine =>
  let outcome :=
    match engine.script.fault? call.label with
    | some fault => .error fault
    | none => value engine.script
  (outcome, { engine with calls := engine.calls ++ [call] })

/-- Answer a call that has no result. -/
def acknowledge (call : EngineCall) : Call ScriptedEngine Unit :=
  answer call fun _ => .ok ()

/-- The markers of one sort of cells, expressed in a frame. -/
def markersOf (sort frame : String) : Value :=
  .mapping [(.text "markers", .text sort), (.text "frame", .text frame)]

/-- Insert points, after carrying them over. -/
def insertPoints (pose : Pose Float) (points : Value) : Call ScriptedEngine Unit := fun engine =>
  match readPoints points with
  | .ok points => acknowledge (.insertPoints pose (pose.applyAll points)) engine
  | .error fault => (.error fault, engine)

/-- The calls that the engine of a rehearsal answers. -/
def mapEngine : MapEngine ScriptedEngine where
  setParameters params := acknowledge (.setParameters params)
  insertDisparity pose image matrix size := acknowledge (.insertDisparity pose image matrix size)
  insertPoints := insertPoints
  setOccupied centre size := acknowledge (.setOccupied centre size)
  setFree centre size := acknowledge (.setFree centre size)
  reset := acknowledge .reset
  markers frame := answer (.markers frame) fun _ =>
    .ok (markersOf "occupied" frame, markersOf "free" frame)
  binaryMap := answer .binaryMap fun script => readSnapshot? true script.binaryMap
  fullMap := answer .fullMap fun script => readSnapshot? false script.fullMap
  save path := answer (.save path) fun script => .ok script.saved
  load path := answer (.load path) fun script => .ok script.loaded

end ScriptedEngine

end MapIngest.Rehearsal
