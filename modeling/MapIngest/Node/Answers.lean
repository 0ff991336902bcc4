import MapIngest.Node.Basic

/-!
# Services and timers

A service calls the operation of its name and wraps the result in a response.
The timers call publishing and status reports.
-/

namespace MapIngest

open Ingest Node

/-- The response of a service. -/
inductive Response where
  | empty
  /-- The map, if the engine could serialize it. -/
  | map (message? : Option MapMessage)
  | success (done : Bool)

namespace MapNode

variable {ε β ω : Type}

/-- The text of a field of a request. -/
def requestedText (request : Value) (name : String) : Except Fault String := do
  match ← request.field name with
  | .text content => return content
  | value => return value.display

/-- The time of the node. -/
def clock : Act (MapNode ε β ω) Clock := do
  return (← Act.get).coordinator.board.clock

/-- Reset the map. -/
def serveReset (components : NodeComponents ε β ω) : Act (MapNode ε β ω) Response := do
  let _ ← coordinate components Coordinator.reset
  return .empty

/-- Publish markers and maps. -/
def servePublishAll (components : NodeComponents ε β ω) : Act (MapNode ε β ω) Response := do
  let _ ← coordinate components Coordinator.publishAll
  return .empty

/-- Hand out the map, stamped with the time of the node. -/
def serveGetMap (components : NodeComponents ε β ω) : Act (MapNode ε β ω) Response := do
  match ← coordinate components Coordinator.getMap with
  | some snapshot =>
    return .map (some (← Act.ofExcept (snapshot.toMessage (← clock).stamp)))
  | none => return .map none

/-- Write the map to a file. -/
def serveSave (components : NodeComponents ε β ω) (request : Value) :
    Act (MapNode ε β ω) Response := do
  let path ← Act.ofExcept (requestedText request "file_path")
  return .success (← coordinate components fun components => Coordinator.saveMap components path)

/-- Read the map from a file. -/
def serveLoad (components : NodeComponents ε β ω) (request : Value) :
    Act (MapNode ε β ω) Response := do
  let path ← Act.ofExcept (requestedText request "file_path")
  return .success (← coordinate components fun components => Coordinator.loadMap components path)

/-- Mark a box as occupied or free. -/
def serveBox (components : NodeComponents ε β ω) (request : Value) :
    Act (MapNode ε β ω) Response := do
  let centre ← Act.ofExcept (request.field "box_center")
  let size ← Act.ofExcept (request.field "box_size")
  let occupied ← Act.ofExcept (request.field "set_occupied")
  return .success (← coordinate components fun components =>
    Coordinator.setBox components centre size occupied.isTruthy)

/-- Answer a request. -/
def serve (components : NodeComponents ε β ω) : Service → Value → Act (MapNode ε β ω) Response
  | .reset, _ => serveReset components
  | .publishAll, _ => servePublishAll components
  | .getMap, _ => serveGetMap components
  | .saveMap, request => serveSave components request
  | .loadMap, request => serveLoad components request
  | .setBox, request => serveBox components request

/-- Publish a status report. -/
def publishStatus (components : NodeComponents ε β ω) : Act (MapNode ε β ω) Unit := do
  let node ← Act.get
  let now ← Act.ofExcept (← clock).reading
  let status ← onCoordinator (Coordinator.status now node.startTime)
  onCoordinator (Act.ask Coordinator.board (fun part whole => { whole with board := part })
    (Outbox.send components.bus .status (.status status.toMapping)))

/-- Do what a timer calls. -/
def fire (components : NodeComponents ε β ω) (timer : Timer) : Act (MapNode ε β ω) Unit := do
  match timer.task with
  | .publishing => do
    let _ ← coordinate components Coordinator.publishAll
    return ()
  | .status => publishStatus components

/-- Do what all timers call, in the order in which they were created. -/
def fireAll (components : NodeComponents ε β ω) : Act (MapNode ε β ω) Unit := do
  (← Act.get).timers.forM (fire components)

end MapNode

end MapIngest
