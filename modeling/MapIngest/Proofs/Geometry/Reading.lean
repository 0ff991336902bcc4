import MapIngest.Geometry.Pose.Message
import MapIngest.Proofs.Tensor

/-!
# Reading a pose from doubles

A transform message carries a position and a quaternion if its fields hold the
doubles of both.  Such a message is read as the pose of these doubles, and it is
refused exactly if the quaternion has no direction.
-/

namespace MapIngest.Geometry

/-- A message with a position and a quaternion of doubles. -/
structure Carries (message : Value) (position : Vec3 Float) (q : Quaternion Float) : Prop where
  parts : ∃ transform translation rotation,
    message.field "transform" = .ok transform ∧
      transform.field "translation" = .ok translation ∧
      transform.field "rotation" = .ok rotation ∧
      vectorNames.mapM translation.field = .ok (position.toList.map .float) ∧
      quaternionNames.mapM rotation.field = .ok (q.toList.map .float)

theorem attitude_floats (q : Quaternion Float) :
    Attitude.ofValue (.list (q.toList.map .float)) = (readRotation q).map .single := by
  rw [Attitude.ofValue, Tensor.ofValue_floats]
  rfl

theorem readVector_floats (position : Vec3 Float) :
    readVector (.list (position.toList.map .float)) = .ok position := by
  rw [readVector, Tensor.ofValue_floats]
  rfl

theorem ofValues_floats (position : Vec3 Float) (q : Quaternion Float) :
    Pose.ofValues (.list (position.toList.map .float)) (.list (q.toList.map .float)) =
      Pose.ofNumbers position q := by
  simp only [Pose.ofValues, Pose.ofNumbers, attitude_floats, readVector_floats]
  cases readRotation q <;> rfl

/-- A message with doubles is read as the pose of these doubles. -/
theorem Carries.ofMessage {message : Value} {position : Vec3 Float} {q : Quaternion Float}
    (carries : Carries message position q) :
    Pose.ofMessage message = Pose.ofNumbers position q := by
  rcases carries.parts with ⟨transform, translation, rotation, outer, left, right, places, turns⟩
  simp only [Pose.ofMessage, outer, left, right, readFields, places, turns, bind,
    Except.bind, pure, Except.pure]
  exact ofValues_floats position q

/-- A pose is read exactly if the quaternion has a direction. -/
theorem ofNumbers_eq (position : Vec3 Float) (q : Quaternion Float) :
    Pose.ofNumbers position q =
      match unit? q with
      | some unit => .ok ⟨unit.toMatrix, position⟩
      | none => Value.refuse .zeroNorm := by
  rw [Pose.ofNumbers, readRotation]
  cases unit? q <;> rfl

end MapIngest.Geometry
