import MapIngest.Coordinator.Basic
import MapIngest.Decimal.Places
import MapIngest.Rehearsal.Engine
import MapIngest.Text.Hex

/-!
# What is written down of a rehearsal

Calls of the engine are written down as a name with arguments.  Poses, and
points that a pose has carried over, are written down to six decimals, since
their last digits depend on the order of additions; negative zero is written
as zero.  All other numbers are written down as they are.
-/

namespace MapIngest.Rehearsal

open MapIngest.Geometry Sensor

/-- Six decimals, a half to the even one; negative zero is zero. -/
def sixDecimals (x : Float) : Float :=
  let rounded := Decimal.roundToPlaces 0 (x * 1e6) / 1e6
  if rounded == 0.0 then 0.0 else rounded

/-- Numbers as a value. -/
def numbers (row : List Float) : Value :=
  .list (row.map .float)

/-- Rows of numbers as a value. -/
def rows (table : List (List Float)) : Value :=
  .list (table.map numbers)

/-- Rows of numbers as a value, to six decimals. -/
def roundedRows (table : List (List Float)) : Value :=
  rows (table.map fun row => row.map sixDecimals)

/-- Named values as a mapping. -/
def named (entries : List (String × Value)) : Value :=
  .mapping (entries.map fun entry => (.text entry.1, entry.2))

/-- The parts of a pose. -/
def poseEntries (pose : Pose Float) : List (String × Value) :=
  [("rotation", roundedRows (Mat3.toRows pose.rotation)),
    ("translation", numbers (pose.position.toList.map sixDecimals))]

/-- A pose as a value. -/
def poseValue (pose : Pose Float) : Value :=
  named (poseEntries pose)

/-- The rows of a list of points. -/
def pointRows (points : List (Vec3 Float)) : List (List Float) :=
  points.map Vec3.toList

/-- A disparity image as a value. -/
def imageValue (image : DisparityImage) : Value :=
  named
    [("disparity", image.pixels.toValue), ("focal_length", image.focalLength),
      ("baseline", image.baseline), ("min", image.least), ("max", image.greatest)]

/-- An image size as a value. -/
def sizeValue (size : Int × Int) : Value :=
  .list [.int size.1, .int size.2]

/-- The arguments of a call. -/
def EngineCall.arguments : EngineCall → List Value
  | .setParameters params => [.mapping params.toMapping]
  | .insertDisparity pose image matrix size =>
    [poseValue pose, imageValue image, rows (Mat4.toRows matrix), sizeValue size]
  | .insertPoints pose points => [poseValue pose, roundedRows (pointRows points)]
  | .setOccupied centre size => [numbers centre.toList, numbers size.toList]
  | .setFree centre size => [numbers centre.toList, numbers size.toList]
  | .markers frame => [.text frame]
  | .save path => [.text path]
  | .load path => [.text path]
  | .reset => []
  | .binaryMap => []
  | .fullMap => []

/-- A call as a value: its name and its arguments. -/
def EngineCall.toValue (call : EngineCall) : Value :=
  .list (.text call.label :: call.arguments)

/-- Bytes as a text of two hexadecimal digits each. -/
def hexText (content : List UInt8) : String :=
  String.ofList (content.flatMap fun byte => Text.hexDigits 2 byte.toNat)

/-- A map as a value. -/
def snapshotValue (snapshot : Snapshot) : Value :=
  named
    [("map_id", .text snapshot.identifier), ("binary", snapshot.binary),
      ("resolution", snapshot.resolution), ("data", .text (hexText snapshot.data)),
      ("frame_id", .text snapshot.frame)]

/-- A map that was turned into a message, as a value. -/
def messageValue (message : MapMessage) : Value :=
  named
    [("frame_id", .text message.frame), ("stamp", message.stamp),
      ("binary", .bool message.binary), ("id", .text message.identifier),
      ("resolution", .float message.resolution), ("data", .list (message.data.map .int))]

/-- A publication as a value: where it is published, and what. -/
def publicationValue : Publication → Value
  | .occupiedMarkers markers => .list [.text "occupied_nodes", markers]
  | .freeMarkers markers => .list [.text "free_nodes", markers]
  | .binaryMap snapshot => .list [.text "binary_map", snapshotValue snapshot]
  | .fullMap snapshot => .list [.text "full_map", snapshotValue snapshot]

end MapIngest.Rehearsal
