import MapIngest.Calibration.State
import MapIngest.Config.ManagerParams
import MapIngest.Engine.Basic
import MapIngest.Ingest.Poses
import MapIngest.Ingest.Status

/-!
# The coordinator

The coordinator stands between sensors and a map engine.  It owns the
calibration and the counts, and it works with three outside components: the
engine, a source of poses, and a board on which maps are published.  The
components are known by their calls only, so everything here holds for any of
them.

This file defines the state of the coordinator and how actions on its parts,
and questions to the components, become actions on the whole.
-/

namespace MapIngest

open Ingest

/-- What is published: markers and maps. -/
inductive Publication where
  | occupiedMarkers (markers : Value)
  | freeMarkers (markers : Value)
  | binaryMap (snapshot : Snapshot)
  | fullMap (snapshot : Snapshot)

/-- The calls of a board whose state has type `π`. -/
structure PublicationBoard (π : Type) where
  publish : Publication → Call π Unit

/-- The calls of the components that a coordinator works with. -/
structure Components (ε τ π : Type) where
  engine : MapEngine ε
  poses : PoseSource τ
  board : PublicationBoard π

/-- The state of a coordinator and of the components that it works with. -/
structure Coordinator (ε τ π : Type) where
  /-- The frame that all map data is expressed in. -/
  worldFrame : String
  calibration : Calibration := {}
  stats : Stats := {}
  /-- Whether it is counted how often the latest pose stands in. -/
  countsFallbacks : Bool := true
  engine : ε
  source : τ
  board : π

namespace Coordinator

variable {ε τ π α : Type}

/-- Act on the calibration. -/
def onCalibration (action : Act Calibration α) : Act (Coordinator ε τ π) α :=
  Act.onPart Coordinator.calibration (fun part whole => { whole with calibration := part }) action

/-- Act on the counts. -/
def onStats (action : Act Stats α) : Act (Coordinator ε τ π) α :=
  Act.onPart Coordinator.stats (fun part whole => { whole with stats := part }) action

/-- The source of poses with the counts that go with it. -/
def poseDesk (coordinator : Coordinator ε τ π) : PoseDesk τ :=
  ⟨coordinator.source, if coordinator.countsFallbacks then some coordinator.stats else none⟩

/-- Put the source of poses and its counts back. -/
def withPoseDesk (desk : PoseDesk τ) (coordinator : Coordinator ε τ π) : Coordinator ε τ π :=
  { coordinator with
    source := desk.source
    stats := desk.stats?.getD coordinator.stats }

/-- Act on the source of poses and the counts. -/
def onPoses (action : Act (PoseDesk τ) α) : Act (Coordinator ε τ π) α :=
  Act.onPart poseDesk withPoseDesk action

/-- Ask the engine. -/
def askEngine (call : Call ε α) : Act (Coordinator ε τ π) α :=
  Act.ask Coordinator.engine (fun part whole => { whole with engine := part }) call

/-- Publish on the board. -/
def publish (components : Components ε τ π) (publication : Publication) :
    Act (Coordinator ε τ π) Unit :=
  Act.ask Coordinator.board (fun part whole => { whole with board := part })
    (components.board.publish publication)

/-- Ask the engine, and turn every failure but an interruption into a result. -/
def tryEngine (call : Call ε α) : Act (Coordinator ε τ π) (Except Fault α) := do
  match ← Act.attempt (askEngine call) with
  | .ok value => return .ok value
  | .error fault => if fault.kind = .interrupt then Act.fail fault else return .error fault

/-- The kind and the text of a fault in a log record. -/
def faultText (fault : Fault) : String :=
  fault.kind.label ++ ": " ++ fault.text

/-- A coordinator as it is before anything has happened. -/
def initial (params : Config.ManagerParams) (engine : ε) (source : τ) (board : π) :
    Coordinator ε τ π where
  worldFrame := params.worldFrame
  calibration := { configuredSize := params.fullImageSize }
  engine := engine
  source := source
  board := board

/-- Take over the reprojection matrix of the configuration, if it gives one. -/
def configure (params : Config.ManagerParams) : Act (Coordinator ε τ π) Unit :=
  match params.matrix with
  | some numbers => do
    let _ ← onCalibration (Calibration.configure (.list (numbers.map .float)))
    return ()
  | none => return ()

/-- Set a coordinator up. -/
def start (params : Config.ManagerParams) (engine : ε) (source : τ) (board : π) :
    Outcome (Coordinator ε τ π) Unit :=
  (configure params).run (initial params engine source board)

/-- Report on the state of the coordinator. -/
def status (now start : ClockReading) : Act (Coordinator ε τ π) Status := do
  let coordinator ← Act.get
  Act.ofExcept (Status.of coordinator.stats coordinator.calibration.readiness now start)

end Coordinator

end MapIngest
