import MapIngest.Geometry.Vector
import MapIngest.Sensor.Image

/-!
# Point clouds in messages

A point cloud is sent as a buffer of records, one for each point, in rows that
may end in padding.  A table of fields says where in a record each number
stands and in which format; of two fields with one name the last counts.  Only
the three axes are read.  A point is kept if all three are finite.
-/

namespace MapIngest.Sensor

open MapIngest.Geometry

/-- The format of a number in a record. -/
inductive NumberFormat where
  | single
  | double
deriving DecidableEq, Repr

namespace NumberFormat

/-- The size of a number in bytes. -/
def width : NumberFormat → Nat
  | .single => 4
  | .double => 8

/-- The format with a code. -/
def ofCode? (code : Scalar) : Option NumberFormat :=
  if code.sameKey (.int 7) then
    some .single
  else if code.sameKey (.int 8) then
    some .double
  else
    none

/-- The double that the bits of a number stand for. -/
def value : NumberFormat → (bits : Nat) → Float
  | .single, bits => widen bits
  | .double, bits => Float.ofBits (UInt64.ofNat bits)

end NumberFormat

/-- Where in a record a number stands, and in which format. -/
structure Slot where
  offset : Nat
  format : NumberFormat
deriving DecidableEq, Repr

namespace Slot

/-- The first byte after the number. -/
def stop (slot : Slot) : Nat :=
  slot.offset + slot.format.width

/-- Read the number out of a record. -/
def read (slot : Slot) (order : ByteOrder) (record : List UInt8) : Float :=
  slot.format.value (order.number ((record.drop slot.offset).take slot.format.width))

end Slot

/-- The records of a point cloud. -/
structure RecordLayout where
  order : ByteOrder
  axes : Vec3 Slot
  /-- The size of a record in bytes. -/
  size : Nat
deriving DecidableEq, Repr

namespace RecordLayout

/-- The least size of a record that holds the three axes. -/
def needed (axes : Vec3 Slot) : Nat :=
  max axes.x.stop (max axes.y.stop axes.z.stop)

/-- Read the point out of a record. -/
def point (layout : RecordLayout) (record : List UInt8) : Vec3 Float :=
  layout.axes.map fun slot => slot.read layout.order record

end RecordLayout

/-- The grid of a point cloud: sizes as the message gives them. -/
structure CloudExtent where
  width : Int
  height : Int
  /-- The size of a record in bytes. -/
  pointStep : Int
  /-- The size of a row with its padding, in bytes. -/
  rowStep : Int
deriving DecidableEq, Repr

namespace CloudExtent

/-- The number of points. -/
def count (extent : CloudExtent) : Int :=
  extent.width * extent.height

/-- The rows do not overlap. -/
def checkRow (extent : CloudExtent) : Except Fault Unit :=
  if extent.rowStep < extent.width * extent.pointStep then
    .error (.cloudRow extent.rowStep (extent.width * extent.pointStep))
  else
    .ok ()

/-- The buffer holds all rows. -/
def checkBuffer (extent : CloudExtent) (data : List UInt8) : Except Fault Unit :=
  if (data.length : Int) < extent.rowStep * extent.height then
    .error (.cloudBuffer data.length (extent.rowStep * extent.height))
  else
    .ok ()

/-- The buffer without the padding at the ends of rows. -/
def packed (extent : CloudExtent) (data : List UInt8) : Except Fault (List UInt8) := do
  let used := data.take (leadingCount (extent.rowStep * extent.height) data.length)
  let (rows, columns) ← tableExtent used.length extent.height extent.rowStep
  let width := leadingCount (extent.width * extent.pointStep) columns
  return (Tensor.pieces rows columns used).flatMap (·.take width)

end CloudExtent

/-- Read the size of a record, which must hold the axes. -/
def checkRecordSize (needed : Nat) (size : Int) : Except Fault Nat :=
  if !fitsWord size then
    Value.refuse .layoutOverflow
  else if size < needed then
    Value.refuse (.recordSize needed size)
  else
    .ok size.toNat

/-- Read the points out of a buffer. -/
def readRecords (extent : CloudExtent) (order : ByteOrder) (axes : Vec3 Slot)
    (data : List UInt8) : Except Fault (List (Vec3 Float)) := do
  let size ← checkRecordSize (RecordLayout.needed axes) extent.pointStep
  let layout : RecordLayout := ⟨order, axes, size⟩
  let packed ← extent.packed data
  let count ← elementCount size packed.length extent.count
  return ((Tensor.pieces count size packed).map layout.point).filter Vec3.isFinite

/-- The table of the fields of a message, by name. -/
def fieldTable (message : Value) : Except Fault Mapping := do
  let fields ← (← message.field "fields").items
  fields.foldlM
    (fun table field => do
      let key ← (← field.field "name").toKey
      return Mapping.insert table key field)
    []

/-- The fields of the three axes. -/
def axisFields (table : Mapping) : Except Fault (Vec3 Value) :=
  match table.named? "x", table.named? "y", table.named? "z" with
  | some x, some y, some z => .ok ⟨x, y, z⟩
  | _, _, _ => .error .cloudAxes

/-- The number format of a field. -/
def readFormat (axis : String) (field : Value) : Except Fault NumberFormat := do
  let code ← field.field "datatype"
  match NumberFormat.ofCode? (← code.toKey) with
  | some format => return format
  | none => throw (.cloudFormat code.display axis)

/-- The offset of a field: an integer that is not negative and fits into a machine word. -/
def readOffset (offset : Value) : Except Fault Nat :=
  match offset with
  | .int number =>
    if !fitsWord number then
      Value.refuse .layoutOverflow
    else if number < 0 then
      Value.refuse (.negativeOffset number)
    else
      .ok number.toNat
  | _ => Value.refuse .layoutSort

/-- Decode the points of a message. -/
def readCloud (message : Value) : Except Fault (List (Vec3 Float)) := do
  let fields ← axisFields (← fieldTable message)
  let order := orderOfFlag (← message.field "is_bigendian")
  let formatX ← readFormat "x" fields.x
  let formatY ← readFormat "y" fields.y
  let formatZ ← readFormat "z" fields.z
  let width ← integerField message "width"
  let height ← integerField message "height"
  let pointStep ← integerField message "point_step"
  let rowStep ← integerField message "row_step"
  let extent : CloudExtent := ⟨width, height, pointStep, rowStep⟩
  if extent.count = 0 then
    return []
  extent.checkRow
  let data ← (← message.field "data").toBytes
  extent.checkBuffer data
  let offsetX ← fields.x.field "offset"
  let offsetY ← fields.y.field "offset"
  let offsetZ ← fields.z.field "offset"
  let axes : Vec3 Slot :=
    ⟨⟨← readOffset offsetX, formatX⟩, ⟨← readOffset offsetY, formatY⟩,
      ⟨← readOffset offsetZ, formatZ⟩⟩
  readRecords extent order axes data

end MapIngest.Sensor
