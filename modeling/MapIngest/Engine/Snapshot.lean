import MapIngest.Value.Conversion

/-!
# Serialized maps

An engine hands out its map as a snapshot: bytes in one of two encodings, with
an identifier and the resolution of the map.  A snapshot is stamped with the
frame that the map is expressed in before it leaves; nothing else of it
changes.

A snapshot becomes a message by spelling out its flag, its resolution and its
bytes, the last as signed numbers.
-/

namespace MapIngest

/-- The identifier of the kind of map. -/
def mapIdentifier : String := "OcTree"

/-- A serialized map. -/
structure Snapshot where
  identifier : String
  /-- Whether the map is in the binary encoding, as the engine says. -/
  binary : Value
  resolution : Value
  data : List UInt8
  frame : String := ""

namespace Snapshot

/-- A snapshot without content. -/
def blank (binary : Bool) : Snapshot where
  identifier := mapIdentifier
  binary := .bool binary
  resolution := .float 0.0
  data := []

/-- The same snapshot, expressed in a frame. -/
def stamped (snapshot : Snapshot) (frame : String) : Snapshot :=
  { snapshot with frame := frame }

/-- Two snapshots agree in all their parts. -/
def same (left right : Snapshot) : Bool :=
  left.identifier == right.identifier && left.binary.same right.binary &&
    left.resolution.same right.resolution && left.data == right.data &&
    left.frame == right.frame

end Snapshot

/-- A map as a message. -/
structure MapMessage where
  frame : String
  /-- The stamp of the message, if it is given one. -/
  stamp : Value
  binary : Bool
  identifier : String
  resolution : Float
  /-- The bytes of the map as signed numbers. -/
  data : List Int

/-- A byte as a signed number. -/
def signedByte (byte : UInt8) : Int :=
  if byte.toNat < 128 then byte.toNat else (byte.toNat : Int) - 256

/-- The message of a snapshot. -/
def Snapshot.toMessage (snapshot : Snapshot) (stamp : Value) : Except Fault MapMessage := do
  let resolution ← snapshot.resolution.toFloat
  return {
    frame := snapshot.frame
    stamp := stamp
    binary := snapshot.binary.isTruthy
    identifier := snapshot.identifier
    resolution := resolution
    data := snapshot.data.map signedByte }

end MapIngest
