import MapIngest.Config.Parameters
import MapIngest.Coordinator.Insertion
import MapIngest.Coordinator.Operations
import MapIngest.Node.Bus
import MapIngest.Transform.Buffer

/-!
# The node

The node puts a coordinator into a message graph.  It owns the parameters, the
coordinator and the timers, and it works with an engine, a buffer of
transforms and a bus.  What the node does on each occasion is defined in the
modules beside this one; here are its state, its timers, and how actions of
the coordinator become actions of the node.
-/

namespace MapIngest

open Ingest Node Transform

/-- The calls of the components that a node works with. -/
structure NodeComponents (ε β ω : Type) where
  engine : MapEngine ε
  buffer : Transform.Buffer β
  bus : Bus ω

/-- The components of a node as those of its coordinator. -/
def NodeComponents.coordinator {ε β ω : Type} (components : NodeComponents ε β ω)
    (timeout : Float) :
    Components ε β (Outbox ω) where
  engine := components.engine
  poses := components.buffer.poses timeout
  board := Outbox.board components.bus

/-- The state of a node. -/
structure MapNode (ε β ω : Type) where
  params : Config.ManagerParams
  coordinator : Coordinator ε β (Outbox ω)
  timers : List Timer
  /-- When the coordinator was set up. -/
  startTime : ClockReading

namespace MapNode

variable {ε β ω α : Type}

/-- The timer of periodic publishing, unless it is disabled. -/
def publishingTimer? (params : Config.ManagerParams) : Option Timer :=
  params.publishPeriod?.map fun period => ⟨.publishing, period⟩

/-- The timer of status reports, unless they are disabled. -/
def statusTimer? (params : Config.ManagerParams) : Option Timer :=
  if params.statusPeriod > 0.0 then some ⟨.status, params.statusPeriod⟩ else none

/-- The timers that the parameters ask for. -/
def timersOf (params : Config.ManagerParams) : List Timer :=
  (publishingTimer? params).toList ++ (statusTimer? params).toList

/-- Act on the coordinator. -/
def onCoordinator (action : Act (Coordinator ε β (Outbox ω)) α) : Act (MapNode ε β ω) α :=
  Act.onPart MapNode.coordinator (fun part node => { node with coordinator := part }) action

/-- Let the coordinator act with the components of the node. -/
def coordinate (components : NodeComponents ε β ω)
    (action : Components ε β (Outbox ω) → Act (Coordinator ε β (Outbox ω)) α) :
    Act (MapNode ε β ω) α := do
  let node ← Act.get
  onCoordinator (action (components.coordinator node.params.lookupTimeout))

end MapNode

end MapIngest
