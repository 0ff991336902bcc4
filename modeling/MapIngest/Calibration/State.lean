import MapIngest.Act
import MapIngest.Calibration.Reprojection

/-!
# The state of the calibration

The reprojection matrix comes either from the configuration, as sixteen
numbers, or from the first pair of camera records that has one.  Whichever
comes first is kept for good.  Together with the matrix the working size of
the image is settled: the configured size, or the size of the left camera.

Camera records go on being stored after that, without effect.  A pair without
a matrix is reported, and the next record tries again.
-/

namespace MapIngest.Calibration

open MapIngest.Geometry

/-- A reprojection matrix with the working size of the image, width first. -/
structure Working where
  matrix : Mat4 Float
  size : Int × Int
deriving DecidableEq

/-- Whether and whence there is a reprojection matrix. -/
inductive Readiness where
  | uninitialized
  /-- The matrix was given by the configuration. -/
  | configured (working : Working)
  /-- The matrix was derived from two camera records. -/
  | derived (working : Working)
deriving DecidableEq

namespace Readiness

/-- The name of the state in reports. -/
def label : Readiness → String
  | .uninitialized => "uninitialized"
  | .configured _ => "configured_from_startup"
  | .derived _ => "derived_from_calibration"

/-- The matrix and the size, if there are any. -/
def working? : Readiness → Option Working
  | .uninitialized => none
  | .configured working => some working
  | .derived working => some working

/-- Whether there is a matrix. -/
def isReady (readiness : Readiness) : Bool :=
  readiness.working?.isSome

end Readiness

end Calibration

open Calibration MapIngest.Geometry

/-- The calibration of a stereo pair: the latest records, and what was settled. -/
structure Calibration where
  /-- The working size that goes with a configured matrix. -/
  configuredSize : Int × Int := (752, 480)
  left? : Option Camera := none
  right? : Option Camera := none
  readiness : Readiness := .uninitialized

namespace Calibration

/-- The number of entries of a configured matrix. -/
def matrixLength : Nat := 16

/-- The items of a size; a mapping has none under an index. -/
def sizeItems : Value → Except Fault (List Value)
  | .mapping _ => Value.refuse (.noKey "0")
  | size => size.items

/-- Read a size from a value with a width and a height. -/
def readSize (size : Value) : Except Fault (Int × Int) := do
  match ← sizeItems size with
  | width :: rest => do
    let width ← width.toInteger
    match rest with
    | height :: _ => return (width, ← height.toInteger)
    | [] => Value.refuse .noItem
  | [] => Value.refuse .noItem

/-- The record of a configured matrix of the wrong length. -/
def wrongLength (found : Nat) : LogRecord :=
  .error ("Invalid Q matrix size, expected size: " ++ Decimal.intText matrixLength ++
    ", actual size: " ++ Decimal.intText found)

/-- The record of a configured matrix that comes too late. -/
def alreadySettled (readiness : Readiness) : LogRecord :=
  .warn ("Q already " ++ readiness.label ++ "; ignoring startup Q")

/-- The record of a configured matrix that is taken over. -/
def settledByConfiguration : LogRecord :=
  .info "Reprojection matrix Q set from parameters"

/-- The record of a pair without a matrix. -/
def notDerived (fault : Fault) : LogRecord :=
  .error ("Cannot derive Q from camera info: " ++ fault.text)

/-- The record of a derived matrix. -/
def settledByCameras (left right : Camera) (size : Int × Int) : LogRecord :=
  .info ("Reprojection matrix Q derived from camera info (" ++ left.frame ++ ", " ++
    right.frame ++ "), image size " ++ Decimal.intText size.1 ++ "x" ++ Decimal.intText size.2)

/-- Settle the matrix, if it is not settled yet. -/
def settle (matrix : Mat4 Float) : Act Calibration Bool := do
  let calibration ← Act.get
  if calibration.readiness.isReady then
    Act.log (alreadySettled calibration.readiness)
    return false
  else
    Act.modify fun calibration =>
      { calibration with readiness := .configured ⟨matrix, calibration.configuredSize⟩ }
    Act.log settledByConfiguration
    return true

/-- Take a matrix from the configuration; the result says whether it is taken over. -/
def configure (values : Value) : Act Calibration Bool := do
  match values with
  | .null => return false
  | values =>
    let entries ← Act.ofExcept values.items
    if entries.length ≠ matrixLength then
      Act.log (wrongLength entries.length)
      return false
    else
      let tensor ← Act.ofExcept (Tensor.ofValue (.list entries))
      settle (← Act.ofExcept tensor.toMat4)

/-- Derive the matrix from a pair of records. -/
def derive (left right : Camera) : Act Calibration Unit := do
  match reprojectionOf left right with
  | .error fault => Act.log (notDerived fault)
  | .ok matrix =>
    let size ← Act.ofExcept left.size
    Act.modify fun calibration => { calibration with readiness := .derived ⟨matrix, size⟩ }
    Act.log (settledByCameras left right size)

/-- Derive the matrix, unless it is settled or a record is missing. -/
def deriveIfOpen : Act Calibration Unit := do
  let calibration ← Act.get
  match calibration.readiness, calibration.left?, calibration.right? with
  | .uninitialized, some left, some right => derive left right
  | _, _, _ => return ()

/-- Take a record of the left camera. -/
def takeLeft (camera : Camera) : Act Calibration Unit := do
  Act.modify fun calibration => { calibration with left? := some camera }
  deriveIfOpen

/-- Take a record of the right camera. -/
def takeRight (camera : Camera) : Act Calibration Unit := do
  Act.modify fun calibration => { calibration with right? := some camera }
  deriveIfOpen

end Calibration

end MapIngest
