import MapIngest.Geometry.Pose.Reading

/-!
# Poses in messages

A transform message holds a position by its three components and a rotation
as a quaternion by its four.
-/

namespace MapIngest.Geometry

/-- The fields of a message that are the components of a vector. -/
def vectorNames : List String :=
  ["x", "y", "z"]

/-- The fields of a message that are the components of a quaternion. -/
def quaternionNames : List String :=
  ["x", "y", "z", "w"]

/-- Read fields of a message, in order, as a list. -/
def readFields (message : Value) (names : List String) : Except Fault Value := do
  return .list (← names.mapM message.field)

/-- Read the pose of a transform message. -/
def Pose.ofMessage (message : Value) : Except Fault (Pose Float) := do
  let transform ← message.field "transform"
  let position ← transform.field "translation"
  let rotation ← transform.field "rotation"
  Pose.ofValues (← readFields position vectorNames) (← readFields rotation quaternionNames)

end MapIngest.Geometry
