import MapIngest.Coordinator.Basic

/-!
# Operations on the map

The map can be reset, published, handed out, saved, loaded, and corrected by
marking a box as occupied or free.  Each operation is a short sequence of
calls of the engine.  Publishing sends the markers of occupied cells, the
markers of free cells, the map in the binary and the map in the full encoding,
in this order; a map that the engine cannot serialize is sent without content.

A box is given by two vectors, which must have three finite components each,
and its size must not be negative.  A box that is refused, and a failure of
the engine while marking it, are reported and not passed on.
-/

namespace MapIngest

open MapIngest.Geometry

/-- The names of the components of a vector in a message. -/
def axisNames : List String :=
  ["x", "y", "z"]

/-- The components of a value: those of its axes, if it has all three, or itself. -/
def componentsOf (value : Value) : Value :=
  match axisNames.mapM value.field? with
  | some components => .list components
  | none => value

/-- Read a vector of exactly three finite components, if the value is one. -/
def readComponents (value : Value) : Except Fault (Option (Vec3 Float)) :=
  match Tensor.ofValue (componentsOf value) with
  | .ok tensor => .ok ((Vec3.ofList? tensor.elements).filter Vec3.isFinite)
  | .error fault =>
    if fault.kind = .type ∨ fault.kind.isValue then .ok none else .error fault

namespace Coordinator

variable {ε τ π : Type}

/-- Forget the map. -/
def reset (components : Components ε τ π) : Act (Coordinator ε τ π) Bool := do
  askEngine components.engine.reset
  Act.log (.info "Map reset")
  return true

/-- A snapshot, or one without content in its place, expressed in a frame. -/
def snapshotToSend (found? : Option Snapshot) (binary : Bool) (frame : String) : Snapshot :=
  (found?.getD (Snapshot.blank binary)).stamped frame

/-- Publish the markers and the map in both encodings. -/
def publishAll (components : Components ε τ π) : Act (Coordinator ε τ π) Bool := do
  let frame := (← Act.get).worldFrame
  let (occupied, free) ← askEngine (components.engine.markers frame)
  publish components (.occupiedMarkers occupied)
  publish components (.freeMarkers free)
  let binary? ← askEngine components.engine.binaryMap
  let full? ← askEngine components.engine.fullMap
  publish components (.binaryMap (snapshotToSend binary? true frame))
  publish components (.fullMap (snapshotToSend full? false frame))
  return true

/-- Hand out the map in the full encoding, if the engine can serialize it. -/
def getMap (components : Components ε τ π) : Act (Coordinator ε τ π) (Option Snapshot) := do
  let frame := (← Act.get).worldFrame
  match ← askEngine components.engine.fullMap with
  | some snapshot => return some (snapshot.stamped frame)
  | none => do
    Act.log (.error "Map engine could not serialize the full map")
    return none

/-- Ask the engine about a file; a failure is reported with the given words. -/
def fileOperation (call : Call ε Value) (words : String) (path : String) :
    Act (Coordinator ε τ π) Bool := do
  let done := (← askEngine call).isTruthy
  if !done then
    Act.log (.error (words ++ Text.quoted path))
  return done

/-- Write the map to a file. -/
def saveMap (components : Components ε τ π) (path : String) : Act (Coordinator ε τ π) Bool :=
  fileOperation (components.engine.save path) "Failed to save map to " path

/-- Read the map from a file. -/
def loadMap (components : Components ε τ π) (path : String) : Act (Coordinator ε τ π) Bool :=
  fileOperation (components.engine.load path) "Failed to load map from " path

/-- The record of a box whose vectors cannot be read. -/
def unreadableBox : LogRecord :=
  .error "set_box_occupancy: center and size need 3 finite components"

/-- The record of a box of negative size. -/
def negativeBox (size : Vec3 Float) : LogRecord :=
  .error ("set_box_occupancy: negative box size " ++ displayFloats size.toList)

/-- The record of a box that the engine failed to mark. -/
def boxFailed (fault : Fault) : LogRecord :=
  .error ("set_box_occupancy failed: " ++ faultText fault)

/-- Mark a box; the result says whether it was marked. -/
def markBox (call : Call ε Unit) : Act (Coordinator ε τ π) Bool := do
  match ← tryEngine call with
  | .ok _ => return true
  | .error fault => do
    Act.log (boxFailed fault)
    return false

/-- Mark a box as occupied or free; the result says whether it was marked. -/
def setBox (components : Components ε τ π) (centre size : Value) (occupied : Bool) :
    Act (Coordinator ε τ π) Bool := do
  let centre? ← Act.ofExcept (readComponents centre)
  let size? ← Act.ofExcept (readComponents size)
  match centre?, size? with
  | some centre, some size =>
    if size.hasNegative then do
      Act.log (negativeBox size)
      return false
    else if occupied then
      markBox (components.engine.setOccupied centre size)
    else
      markBox (components.engine.setFree centre size)
  | _, _ => do
    Act.log unreadableBox
    return false

end Coordinator

end MapIngest
