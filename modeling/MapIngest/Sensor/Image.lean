import MapIngest.Sensor.Bytes
import MapIngest.Sensor.Extent
import MapIngest.Sensor.Single
import MapIngest.Tensor

/-!
# Disparity images in messages

A disparity image is sent as a buffer of numbers of single precision, row by
row.  Every row takes `step` bytes, of which those beyond the width are
padding and are dropped.  Only one encoding is supported.  The step must be a
whole number of elements and at least one row wide, and the buffer must hold
all rows.

Decoding gives the bits of the numbers.  Only then are they widened to doubles,
which does not tell apart the bits of what is not a number.
-/

namespace MapIngest.Sensor

/-- The name of the supported encoding: one channel of single precision. -/
def disparityEncoding : String := "32FC1"

/-- The size of one element in bytes. -/
def pixelWidth : Nat := 4

/-- Rows of numbers of single precision, given by their bits. -/
structure SingleTable where
  width : Nat
  rows : List (List UInt32)
deriving DecidableEq, Repr

/-- The numbers of a table as an array of doubles. -/
def SingleTable.toTensor (table : SingleTable) : Tensor :=
  Tensor.ofRows table.width (table.rows.map (·.map fun bits => widen bits.toNat))

/-- How the rows of an image are laid out. -/
structure ImageLayout where
  height : Int
  width : Int
  /-- The size of one row with its padding, in bytes. -/
  step : Int
  order : ByteOrder
deriving DecidableEq, Repr

namespace ImageLayout

/-- The number of elements in a row with its padding. -/
def stride (layout : ImageLayout) : Int :=
  layout.step.fdiv pixelWidth

/-- A row is a whole number of elements and holds the width. -/
def checkStep (layout : ImageLayout) : Except Fault Unit :=
  if layout.step % pixelWidth ≠ 0 ∨ layout.stride < layout.width then
    .error (.imageStep layout.step layout.width)
  else
    .ok ()

/-- The buffer holds all rows. -/
def checkBuffer (layout : ImageLayout) (data : List UInt8) : Except Fault Unit :=
  if (data.length : Int) < layout.step * layout.height then
    .error (.imageBuffer data.length (layout.step * layout.height))
  else
    .ok ()

/-- The bits of the elements of a buffer. -/
def elements (layout : ImageLayout) (count : Nat) (data : List UInt8) : List UInt32 :=
  (Tensor.pieces count pixelWidth data).map fun bytes =>
    UInt32.ofNat (layout.order.number bytes)

/-- Read the image out of a buffer. -/
def read (layout : ImageLayout) (data : List UInt8) : Except Fault SingleTable := do
  layout.checkBuffer data
  let count ← elementCount pixelWidth data.length (layout.stride * layout.height)
  let (rows, columns) ← tableExtent count layout.height layout.stride
  checkTable pixelWidth rows columns
  let width := leadingCount layout.width columns
  let pixels := Tensor.pieces rows columns (layout.elements count data)
  return ⟨width, pixels.map (·.take width)⟩

end ImageLayout

/-- The byte order that a flag stands for. -/
def orderOfFlag (flag : Value) : ByteOrder :=
  if flag.isTruthy then .big else .little

/-- The field of a message as an integer. -/
def integerField (message : Value) (name : String) : Except Fault Int := do
  (← message.field name).toInteger

/-- Require the supported encoding. -/
def checkEncoding (encoding : Value) : Except Fault Unit :=
  match encoding with
  | .text name =>
    if name = disparityEncoding then .ok () else .error (.imageEncoding encoding.quoted)
  | _ => .error (.imageEncoding encoding.quoted)

/-- Decode the bits of the disparity image of a message. -/
def readPixels (message : Value) : Except Fault SingleTable := do
  checkEncoding (← message.field "encoding")
  let height ← integerField message "height"
  let width ← integerField message "width"
  let step ← integerField message "step"
  let order := orderOfFlag (← message.field "is_bigendian")
  let layout : ImageLayout := ⟨height, width, step, order⟩
  layout.checkStep
  let data ← (← message.field "data").toBytes
  layout.read data

/-- Decode the disparity image of a message. -/
def readImage (message : Value) : Except Fault Tensor :=
  (readPixels message).map SingleTable.toTensor

end MapIngest.Sensor
