import MapIngest.Value.Conversion

/-!
# The extent of buffers

Messages give sizes as integers of any sign.  Sizes that are not negative mean
what they say.  A negative size is an open one: it leaves a count to be
determined by what is there, and as a limit it counts from the end.  Sizes
beyond the machine's range are refused, and so are tables of more bytes, where
an empty side counts as one.
-/

namespace MapIngest.Sensor

/-- Whether an integer fits into a signed machine word of 64 bits. -/
def fitsWord (number : Int) : Bool :=
  decide (-2 ^ 63 ≤ number ∧ number < 2 ^ 63)

/-- How many of `size` items come before a limit. -/
def leadingCount (limit : Int) (size : Nat) : Nat :=
  if 0 ≤ limit then min limit.toNat size else size - limit.natAbs

/-- How many elements to take from a buffer of `held` bytes; an open count takes all. -/
def elementCount (width held : Nat) (count : Int) : Except Fault Nat :=
  if !fitsWord count then
    Value.refuse .layoutOverflow
  else if count < 0 then
    if held % width = 0 then .ok (held / width) else Value.refuse .bufferSize
  else if held < count.toNat * width then
    Value.refuse .bufferShort
  else
    .ok count.toNat

/-- The open size of a table of `size` elements, given the other one and the shape. -/
def openExtent (size known : Nat) (shape : List (Option Nat)) : Except Fault Nat :=
  if known = 0 ∨ size % known ≠ 0 then
    Value.refuse (.shape size shape)
  else
    .ok (size / known)

/-- The rows and columns of a table of `size` elements; one of the two may be open. -/
def tableExtent (size : Nat) (rows columns : Int) : Except Fault (Nat × Nat) :=
  if !fitsWord rows || !fitsWord columns then
    Value.refuse .shapeRange
  else if rows < 0 then
    if columns < 0 then
      Value.refuse .openShape
    else
      (openExtent size columns.toNat [none, some columns.toNat]).map fun rows =>
        (rows, columns.toNat)
  else if columns < 0 then
    (openExtent size rows.toNat [some rows.toNat, none]).map fun columns =>
      (rows.toNat, columns)
  else if rows.toNat * columns.toNat = size then
    .ok (rows.toNat, columns.toNat)
  else
    Value.refuse (.shape size [some rows.toNat, some columns.toNat])

/-- A table of elements of `width` bytes takes no more bytes than a machine can address. -/
def checkTable (width rows columns : Nat) : Except Fault Unit :=
  if fitsWord (width * max rows 1 * max columns 1 : Nat) then
    .ok ()
  else
    Value.refuse .arraySize

end MapIngest.Sensor
