import MapIngest.Geometry.Pose.Basic
import MapIngest.Ingest.Stats

/-!
# Finding the pose of a sensor

The pose of a sensor at a stamp is asked of a source of poses.  If the source
has no pose at that stamp, the latest pose is asked for instead, and this is
counted.  Exactly one look-up follows in either case.  A look-up that fails for
want of a pose is reported and gives no pose; any other failure is passed on.
-/

namespace MapIngest.Ingest

open MapIngest.Geometry

/-- The questions that a source of poses with state of type `τ` answers. -/
structure PoseSource (τ : Type) where
  /-- Whether there is a pose from one frame into another at a stamp. -/
  canTransform : (target source : String) → (stamp : Value) → Call τ Bool
  /-- The pose from one frame into another at a stamp. -/
  lookup : (target source : String) → (stamp : Value) → Call τ (Pose Float)

/-- The stamp that asks for the latest pose. -/
def latestStamp : Value := .null

/-- A source of poses in use, with the counts to keep, if any are kept. -/
structure PoseDesk (τ : Type) where
  source : τ
  stats? : Option Stats := none

namespace PoseDesk

variable {τ : Type}

/-- The record of falling back on the latest pose. -/
def fallbackRecord : LogRecord :=
  .warn "Using latest TF transform instead of timestamp match."

/-- The record of a failed look-up. -/
def failureRecord (fault : Fault) : LogRecord :=
  .error ("Error getting TF transform from sensor data: " ++ fault.text)

/-- Ask the source. -/
def ask {α : Type} (call : Call τ α) : Act (PoseDesk τ) α :=
  Act.ask PoseDesk.source (fun source desk => { desk with source := source }) call

/-- Report and count that the latest pose stands in. -/
def noteFallback : Act (PoseDesk τ) Unit := do
  Act.log fallbackRecord
  Act.modify fun desk =>
    { desk with stats? := desk.stats?.map fun stats => (Stats.noteFallback.run stats).state }

/-- The stamp to look up: the given one, or the latest if there is no pose at that. -/
def chooseStamp (poses : PoseSource τ) (origin target : String) (stamp : Value) :
    Act (PoseDesk τ) Value := do
  if ← ask (poses.canTransform target origin stamp) then
    return stamp
  else
    noteFallback
    return latestStamp

/-- Find the pose of a frame in another at a stamp. -/
def resolve (poses : PoseSource τ) (origin target : String) (stamp : Value) :
    Act (PoseDesk τ) (Option (Pose Float)) := do
  let chosen ← chooseStamp poses origin target stamp
  match ← Act.attempt (ask (poses.lookup target origin chosen)) with
  | .ok pose => return some pose
  | .error fault =>
    if fault.kind = .pose then
      Act.log (failureRecord fault)
      return none
    else
      Act.fail fault

end PoseDesk

end MapIngest.Ingest
