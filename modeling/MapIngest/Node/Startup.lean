import MapIngest.Engine.Launch
import MapIngest.Node.Basic

/-!
# Starting the node

A node starts by reading its parameters back from where they were declared and
listing them in the log.  It then launches the engine, gathers transforms,
advertises its topics, sets the coordinator up, subscribes, advertises its
services, and creates its timers.  If one of these steps fails, what was done
before it remains: the engine, if it was loaded, and the endpoints so far.

Timers are made by a clockwork.  It is given the period as the parameters have
it, and may refuse a period that it cannot keep; the start then fails.
-/

namespace MapIngest

open Node

/-- What makes the timers of a node. -/
structure Node.Clockwork where
  install : Timer → Except Fault Unit

/-- What a start has brought about so far. -/
structure Assembly (ε : Type) where
  engine? : Option ε := none
  /-- The endpoints in the order in which they were created. -/
  endpoints : List Endpoint := []
  /-- The timers that the clockwork was asked for, whether it made them or not. -/
  requested : List Timer := []

namespace MapNode

variable {μ κ ε β ω : Type}

/-- Create endpoints. -/
def create (endpoints : List Endpoint) : Act (Assembly ε) Unit :=
  Act.modify fun assembly => { assembly with endpoints := assembly.endpoints ++ endpoints }

/-- A line across the log. -/
def ruler : LogRecord :=
  .info (String.ofList (List.replicate 60 '='))

/-- The parameters as lines of the log. -/
def parameterRecords (params : Config.ManagerParams) : List LogRecord :=
  params.toNamespace.map fun entry =>
    .info ("  " ++ (Value.scalar entry.1).display ++ ": " ++ entry.2.display)

/-- The log of a start: the parameters between rulers. -/
def manifest (params : Config.ManagerParams) : List LogRecord :=
  [ruler, .info "OCTOMAP MANAGER PARAMETERS", ruler] ++ parameterRecords params ++ [ruler]

/-- Read the parameters back and list them. -/
def readParameters (held : Mapping) : Act (Assembly ε) Config.ManagerParams := do
  let (outcome, logs) := Config.validate held
  logs.forM Act.log
  let params ← Act.ofExcept outcome
  (manifest params).forM Act.log
  return params

/-- Launch the engine that the parameters name. -/
def launchEngine (host : PluginHost μ κ ε) (engine : MapEngine ε)
    (params : Config.ManagerParams) : Act (Assembly ε) ε :=
  if params.mapEngine.isEmpty then
    Act.fail .engineUnset
  else
    Act.onPart Assembly.engine? (fun part whole => { whole with engine? := part })
      (host.launch engine params.mapEngine params.engine)

/-- Set the coordinator up, and pass its log records on. -/
def setUp (params : Config.ManagerParams) (engine : ε) (buffer : β) (outbox : Outbox ω) :
    Act (Assembly ε) (Coordinator ε β (Outbox ω)) := fun assembly =>
  let outcome := Coordinator.start params engine buffer outbox
  ⟨outcome.result.map fun _ => outcome.state, assembly, outcome.logs⟩

/-- The record of a node that is ready. -/
def readyRecord (params : Config.ManagerParams) (readiness : Calibration.Readiness) :
    LogRecord :=
  .info ("Octomap manager ready: world frame " ++ Text.quoted params.worldFrame ++ ", engine " ++
    params.mapEngine ++ ", calibration " ++ readiness.label)

/-- Ask the clockwork for a timer. -/
def createTimer (clockwork : Clockwork) (timer : Timer) : Act (Assembly ε) Unit := do
  Act.modify fun assembly => { assembly with requested := assembly.requested ++ [timer] }
  Act.ofExcept (clockwork.install timer)
  create [.timer timer]

/-- Create the timers, and report that the node is ready. -/
def equip (clockwork : Clockwork) (params : Config.ManagerParams)
    (coordinator : Coordinator ε β (Outbox ω)) (startTime : Ingest.ClockReading) :
    Act (Assembly ε) (MapNode ε β ω) := do
  (timersOf params).forM (createTimer clockwork)
  Act.log (readyRecord params coordinator.calibration.readiness)
  return ⟨params, coordinator, timersOf params, startTime⟩

/-- Start a node whose parameters hold the given values. -/
def start (host : PluginHost μ κ ε) (engine : MapEngine ε) (clockwork : Clockwork)
    (held : Mapping) (buffer : β) (outbox : Outbox ω) : Act (Assembly ε) (MapNode ε β ω) := do
  let params ← readParameters held
  let loaded ← launchEngine host engine params
  create (TransformTopic.all.map .transforms)
  create (Output.all.map .publisher)
  let startTime ← Act.ofExcept outbox.clock.reading
  let coordinator ← setUp params loaded buffer outbox
  create (Input.all.map .subscription)
  create (Service.all.map .service)
  equip clockwork params coordinator startTime

end MapNode

end MapIngest
