import MapIngest.Geometry.Pose.Reading
import MapIngest.Ingest.Poses
import MapIngest.Rehearsal.Script

/-!
# A table of poses

The source of poses of a rehearsal is a table.  An entry holds the pose from
one frame into another at a stamp, or the latest one.  A change of the table
adds entries, each in place of an earlier one for the same frames and stamp,
takes entries away, and says whether every pose is claimed to be there and
whether look-ups fail.

Look-ups are written down.
-/

namespace MapIngest.Rehearsal

open MapIngest.Geometry Ingest

/-- What a pose is looked up by: the frame to go to, the frame to come from, the stamp. -/
structure PoseKey where
  target : String
  source : String
  stamp : Value

/-- Two keys ask for the same pose. -/
def PoseKey.same (left right : PoseKey) : Bool :=
  left.target == right.target && left.source == right.source && left.stamp.same right.stamp

/-- The state of the source: its entries, its faults, and the look-ups so far. -/
structure PoseTable where
  entries : List (PoseKey × Pose Float) := []
  /-- Whether every pose is claimed to be there. -/
  alwaysCan : Bool := false
  /-- The fault that look-ups fail with, if they do. -/
  fault? : Option Fault := none
  lookups : List PoseKey := []

namespace PoseTable

/-- The pose under a key. -/
def find? (table : PoseTable) (key : PoseKey) : Option (Pose Float) :=
  (table.entries.find? fun entry => entry.1.same key).map Prod.snd

/-- Take the pose under a key away. -/
def erase (table : PoseTable) (key : PoseKey) : PoseTable :=
  { table with entries := table.entries.filter fun entry => !entry.1.same key }

/-- Store a pose under a key. -/
def insert (table : PoseTable) (key : PoseKey) (pose : Pose Float) : PoseTable :=
  { table with entries := (table.erase key).entries ++ [(key, pose)] }

/-- Read a frame. -/
def readFrame : Value → String
  | .text content => content
  | _ => ""

/-- Read a pose: without a position it leaves every point in place. -/
def readPose (position quaternion : Value) : Except Fault (Pose Float) :=
  match position with
  | .null => .ok .identity
  | position => Pose.ofValues position quaternion

/-- Add one entry that a change gives. -/
def addEntry (entry : Value) : Act PoseTable Unit := do
  match ← Act.ofExcept entry.items with
  | [target, source, stamp, position, quaternion] => do
    let pose ← Act.ofExcept (readPose position quaternion)
    Act.modify fun table => table.insert ⟨readFrame target, readFrame source, stamp⟩ pose
  | _ => Act.fail (.conversion .noItem)

/-- Take away one entry that a change names. -/
def removeEntry (entry : Value) : Act PoseTable Unit := do
  match ← Act.ofExcept entry.items with
  | [target, source, stamp] =>
    Act.modify fun table => table.erase ⟨readFrame target, readFrame source, stamp⟩
  | _ => Act.fail (.conversion .noItem)

/-- The entries that a change lists under a name. -/
def listed (changes : Value) (name : String) : List Value :=
  match changes.field? name with
  | some (.list entries) => entries
  | _ => []

/-- Change the table. -/
def update (changes : Value) : Act PoseTable Unit := do
  (listed changes "add").forM addEntry
  (listed changes "remove").forM removeEntry
  Act.modify fun table =>
    { table with
      alwaysCan := ((changes.field? "always_can").getD .null).isTruthy
      fault? := readFault? (changes.field? "raise") }

/-- The answer to a look-up. -/
def answer (table : PoseTable) (key : PoseKey) : Except Fault (Pose Float) :=
  match table.fault?, table.find? key with
  | some fault, _ => .error fault
  | none, some pose => .ok pose
  | none, none => .error (.noPose key.target key.source "not connected")

/-- The table as a source of poses. -/
def poses : PoseSource PoseTable where
  canTransform target source stamp := fun table =>
    (.ok (table.alwaysCan || (table.find? ⟨target, source, stamp⟩).isSome), table)
  lookup target source stamp := fun table =>
    let key : PoseKey := ⟨target, source, stamp⟩
    (table.answer key, { table with lookups := table.lookups ++ [key] })

end PoseTable

end MapIngest.Rehearsal
