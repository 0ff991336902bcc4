import MapIngest.Geometry.Pose.Message
import MapIngest.Ingest.Poses
import MapIngest.Transform.Stamp

/-!
# A buffer of transforms as a source of poses

A transform buffer answers in messages and may fail in ways of its own.  As a
source of poses it is tamed: where it cannot tell whether there is a pose,
there is none, and a look-up that it fails for a reason of its own is a pose
that is missing.  Every other failure is passed on, and so is that of a
message that holds no pose.
-/

namespace MapIngest.Transform

open MapIngest.Geometry Ingest

/-- The questions that a buffer with state of type `β` answers. -/
structure Buffer (β : Type) where
  /-- Whether there is a transform from one frame into another at a time. -/
  canTransform : (target source : String) → (nanoseconds : Int) → Call β Bool
  /-- The transform message from one frame into another at a time, within a span of seconds. -/
  lookup : (target source : String) → (nanoseconds : Int) → (timeout : Float) → Call β Value

/-- The kinds of failures after which nothing is said about a transform. -/
def isUnclear (kind : Kind) : Bool :=
  kind = .type || kind.isValue

/-- The kinds of failures that mean that there is no transform. -/
def isMissing (kind : Kind) : Bool :=
  kind = .transform || isUnclear kind

namespace Buffer

variable {β : Type}

/-- Ask about a stamp, once it has been read. -/
def atStamp {α : Type} (stamp : Value) (question : Int → Call β α) : Call β α := fun state =>
  match nanosecondsOf stamp with
  | .ok nanoseconds => question nanoseconds state
  | .error fault => (.error fault, state)

/-- An unclear answer is a denial. -/
def orDenied : Except Fault Bool → Except Fault Bool
  | .ok found => .ok found
  | .error fault => if isUnclear fault.kind then .ok false else .error fault

/-- Whether there is a pose. -/
def canPose (buffer : Buffer β) (target source : String) (stamp : Value) : Call β Bool :=
  fun state =>
    let (answer, state) := atStamp stamp (buffer.canTransform target source) state
    (orDenied answer, state)

/-- A transform message as a pose, or the missing of it as a missing pose. -/
def poseOf (target source : String) : Except Fault Value → Except Fault (Pose Float)
  | .ok message => Pose.ofMessage message
  | .error fault =>
    if isMissing fault.kind then .error (.noPose target source fault.text) else .error fault

/-- The pose from one frame into another. -/
def lookupPose (buffer : Buffer β) (timeout : Float) (target source : String) (stamp : Value) :
    Call β (Pose Float) := fun state =>
  let (answer, state) :=
    atStamp stamp (fun nanoseconds => buffer.lookup target source nanoseconds timeout) state
  (poseOf target source answer, state)

/-- The buffer as a source of poses. -/
def poses (buffer : Buffer β) (timeout : Float) : PoseSource β where
  canTransform := buffer.canPose
  lookup := buffer.lookupPose timeout

end Buffer

end MapIngest.Transform
