import MapIngest.Proofs.Coordinator.Recording
import MapIngest.Proofs.Node.Publication
import MapIngest.Proofs.Node.Reception

/-!
# Transcripts of a node

The components of a node mirror those of another as they do for coordinators, with a
transform buffer in place of a source of poses, and a bus in place of a board.  The two
nodes then receive messages, answer requests and fire timers alike.  So in every run a
node whose engine and bus keep transcripts does what it would do if they did not.
-/

namespace MapIngest

open Ingest Node Transform

variable {ε β ω ε' β' ω' α : Type}

/-- Every question to a buffer mirrors that to another. -/
structure Transform.Buffer.Mirrors (view : β → β') (buffer : Buffer β) (image : Buffer β') :
    Prop where
  canTransform : ∀ target source nanoseconds, Call.Mirrors view
    (buffer.canTransform target source nanoseconds) (image.canTransform target source nanoseconds)
  lookup : ∀ target source nanoseconds timeout, Call.Mirrors view
    (buffer.lookup target source nanoseconds timeout)
    (image.lookup target source nanoseconds timeout)

/-- Sending on a bus mirrors sending on another. -/
def Node.Bus.Mirrors (view : ω → ω') (bus : Bus ω) (image : Bus ω') : Prop :=
  ∀ output message, Call.Mirrors view (bus.send output message) (image.send output message)

/-- All components of a node mirror those of another. -/
structure NodeComponents.Mirrors (guise : Guise ε β ω ε' β' ω')
    (components : NodeComponents ε β ω) (image : NodeComponents ε' β' ω') : Prop where
  engine : components.engine.Mirrors guise.engine image.engine
  buffer : components.buffer.Mirrors guise.source image.buffer
  bus : components.bus.Mirrors guise.board image.bus

/-! ## The components of the coordinator -/

namespace Transform.Buffer

theorem mirrors_atStamp {view : β → β'} {question : Int → Call β α} {image : Int → Call β' α}
    (mirrors : ∀ nanoseconds, Call.Mirrors view (question nanoseconds) (image nanoseconds))
    (stamp : Value) : Call.Mirrors view (atStamp stamp question) (atStamp stamp image) := by
  intro state
  rw [atStamp, atStamp]
  cases nanosecondsOf stamp with
  | ok nanoseconds => exact mirrors nanoseconds state
  | error fault => rfl

theorem Mirrors.poses {view : β → β'} {buffer : Buffer β} {image : Buffer β'}
    (mirrors : buffer.Mirrors view image) (timeout : Float) :
    (buffer.poses timeout).Mirrors view (image.poses timeout) where
  canTransform target source stamp := by
    intro state
    have answered := mirrors_atStamp (mirrors.canTransform target source) stamp state
    simp only [Buffer.poses, canPose, answered]
  lookup target source stamp := by
    intro state
    have answered :=
      mirrors_atStamp (fun nanoseconds => mirrors.lookup target source nanoseconds timeout)
        stamp state
    simp only [Buffer.poses, lookupPose, answered]

end Transform.Buffer

namespace Node.Outbox

/-- What is seen of an outbox. -/
def through (view : ω → ω') (outbox : Outbox ω) : Outbox ω' :=
  ⟨outbox.clock, view outbox.bus⟩

variable {view : ω → ω'} {bus : Bus ω} {image : Bus ω'} (mirrors : bus.Mirrors view image)

include mirrors

theorem mirrors_send (output : Output) (message : Message) :
    Call.Mirrors (through view) (send bus output message) (send image output message) := by
  intro outbox
  simp only [send, through, mirrors output message outbox.bus]

theorem mirrors_sendMap (output : Output) (snapshot : Snapshot) :
    Call.Mirrors (through view) (sendMap bus output snapshot)
      (sendMap image output snapshot) := by
  intro outbox
  rw [sendMap, sendMap, show (outbox.through view).clock = outbox.clock from rfl]
  cases snapshot.toMessage outbox.clock.stamp with
  | ok message => exact mirrors_send mirrors output (.map message) outbox
  | error fault => rfl

theorem mirrors_board : (board bus).Mirrors (through view) (board image) := by
  intro publication
  cases publication with
  | occupiedMarkers markers => exact mirrors_send mirrors _ _
  | freeMarkers markers => exact mirrors_send mirrors _ _
  | binaryMap snapshot => exact mirrors_sendMap mirrors _ _
  | fullMap snapshot => exact mirrors_sendMap mirrors _ _

end Node.Outbox

/-- The components of a node as those of its coordinator. -/
def Guise.posted (guise : Guise ε β ω ε' β' ω') :
    Guise ε β (Outbox ω) ε' β' (Outbox ω') where
  engine := guise.engine
  source := guise.source
  board := Outbox.through guise.board

variable {guise : Guise ε β ω ε' β' ω'} {components : NodeComponents ε β ω}
  {image : NodeComponents ε' β' ω'}

theorem NodeComponents.Mirrors.coordinator (mirrors : components.Mirrors guise image)
    (timeout : Float) :
    (components.coordinator timeout).Mirrors guise.posted (image.coordinator timeout) where
  engine := mirrors.engine
  poses := mirrors.buffer.poses timeout
  board := Outbox.mirrors_board mirrors.bus

/-! ## What the node does -/

namespace MapNode

/-- What is seen of a node. -/
def through (guise : Guise ε β ω ε' β' ω') (node : MapNode ε β ω) : MapNode ε' β' ω' :=
  { node with coordinator := node.coordinator.through guise.posted }

theorem mirrors_onCoordinator {action : Act (Coordinator ε β (Outbox ω)) α}
    {imageAction : Act (Coordinator ε' β' (Outbox ω')) α}
    (mirrors : Act.Mirrors (Coordinator.through guise.posted) action imageAction) :
    Act.Mirrors (through guise) (onCoordinator action) (onCoordinator imageAction) :=
  .onPart (fun _ => rfl) (fun _ _ => rfl) mirrors

theorem mirrors_takeRead {title : String} (read : Except Fault α)
    {take : α → Act (MapNode ε β ω) Bool} {imageTake : α → Act (MapNode ε' β' ω') Bool}
    (takes : ∀ value, Act.Mirrors (through guise) (take value) (imageTake value)) :
    Act.Mirrors (through guise) (takeRead title read take) (takeRead title read imageTake) := by
  cases read with
  | ok value => exact .bind (takes value) fun _ => .pure _
  | error fault =>
      dsimp only [takeRead]
      split
      · exact .log _
      · exact .fail fault

variable (mirrors : components.Mirrors guise image)

include mirrors

theorem mirrors_coordinate
    {action : Components ε β (Outbox ω) → Act (Coordinator ε β (Outbox ω)) α}
    {imageAction : Components ε' β' (Outbox ω') → Act (Coordinator ε' β' (Outbox ω')) α}
    (acts : ∀ {parts : Components ε β (Outbox ω)} {imageParts : Components ε' β' (Outbox ω')},
      parts.Mirrors guise.posted imageParts →
        Act.Mirrors (Coordinator.through guise.posted) (action parts) (imageAction imageParts)) :
    Act.Mirrors (through guise) (coordinate components action) (coordinate image imageAction) :=
  .bind_get fun node => mirrors_onCoordinator (acts (mirrors.coordinator node.params.lookupTimeout))

theorem mirrors_receive (input : Input) (content : Value) :
    Act.Mirrors (through guise) (receive components input content)
      (receive image input content) := by
  cases input with
  | leftCamera =>
      exact .bind (.ofExcept _) fun camera => mirrors_onCoordinator fun _ => rfl
  | rightCamera =>
      exact .bind (.ofExcept _) fun camera => mirrors_onCoordinator fun _ => rfl
  | disparity =>
      exact mirrors_takeRead _ fun observation =>
        mirrors_coordinate mirrors fun parts =>
          Coordinator.mirrors_insert parts (.disparity observation)
  | pointcloud =>
      exact mirrors_takeRead _ fun observation =>
        mirrors_coordinate mirrors fun parts =>
          Coordinator.mirrors_insert parts (.cloud observation)

theorem mirrors_serve (service : Service) (request : Value) :
    Act.Mirrors (through guise) (serve components service request)
      (serve image service request) := by
  cases service with
  | reset =>
      exact .bind (mirrors_coordinate mirrors Coordinator.mirrors_reset) fun _ => .pure _
  | publishAll =>
      exact .bind (mirrors_coordinate mirrors Coordinator.mirrors_publishAll) fun _ => .pure _
  | getMap =>
      refine .bind (mirrors_coordinate mirrors Coordinator.mirrors_getMap) ?_
      rintro (none | snapshot)
      · exact .pure _
      · exact .bind (fun _ => rfl) fun _ => .bind (.ofExcept _) fun _ => .pure _
  | saveMap =>
      refine .bind (.ofExcept _) fun path => .bind (mirrors_coordinate mirrors fun parts => ?_)
        fun _ => .pure _
      exact Coordinator.mirrors_fileOperation (parts.engine.save path) _ _
  | loadMap =>
      refine .bind (.ofExcept _) fun path => .bind (mirrors_coordinate mirrors fun parts => ?_)
        fun _ => .pure _
      exact Coordinator.mirrors_fileOperation (parts.engine.load path) _ _
  | setBox =>
      refine .bind (.ofExcept _) fun centre => .bind (.ofExcept _) fun size =>
        .bind (.ofExcept _) fun occupied => .bind (mirrors_coordinate mirrors fun parts => ?_)
          fun _ => .pure _
      exact Coordinator.mirrors_setBox parts centre size occupied.isTruthy

theorem mirrors_fire (timer : Timer) :
    Act.Mirrors (through guise) (fire components timer) (fire image timer) := by
  rcases timer with ⟨task, period⟩
  cases task with
  | publishing =>
      exact .bind (mirrors_coordinate mirrors Coordinator.mirrors_publishAll) fun _ => .pure _
  | status =>
      refine .bind_get fun node => .bind (fun _ => rfl) fun time =>
        .bind (.ofExcept _) fun now => ?_
      refine .bind (mirrors_onCoordinator fun _ => rfl) fun status => mirrors_onCoordinator ?_
      exact .ask (fun _ => rfl) (fun _ _ => rfl) (Outbox.mirrors_send mirrors.bus _ _)

end MapNode

/-! ## A node without transcripts -/

/-- The engine and the bus without their transcripts. -/
def Guise.reported : Guise (Recorded ε EngineExchange) β (Recorded ω BusExchange) ε β ω where
  engine := Recorded.inner
  source := id
  board := Recorded.inner

theorem NodeComponents.mirrors_watched (components : NodeComponents ε β ω) :
    components.watched.Mirrors .reported components where
  engine := components.engine.mirrors_recorded
  buffer := ⟨fun _ _ _ _ => rfl, fun _ _ _ _ _ => rfl⟩
  bus _ _ := Recorded.mirrors_call _ _

namespace MapNode

/-- A node without its transcripts. -/
def unwatched (node : WatchedNode ε β ω) : MapNode ε β ω :=
  node.through .reported

/-- A node with transcripts. -/
def withTranscripts (asked : List EngineExchange) (sent : List BusExchange)
    (node : MapNode ε β ω) : WatchedNode ε β ω :=
  { node with
    coordinator :=
      { node.coordinator with
        engine := ⟨node.coordinator.engine, asked⟩
        board := ⟨node.coordinator.board.clock, ⟨node.coordinator.board.bus, sent⟩⟩ } }

end MapNode

namespace Occasion

/-- An occasion for a node with transcripts; a change of the surroundings leaves them. -/
def watched :
    Occasion ε β ω → Occasion (Recorded ε EngineExchange) β (Recorded ω BusExchange)
  | .message input content => .message input content
  | .request service content => .request service content
  | .timer due => .timer due
  | .surroundings change => .surroundings fun node =>
      (change node.unwatched).withTranscripts node.coordinator.engine.transcript
        node.coordinator.board.bus.transcript

/-- On every occasion a node does the same with and without transcripts. -/
theorem mirrors_act (components : NodeComponents ε β ω) (occasion : Occasion ε β ω) :
    Act.Mirrors MapNode.unwatched (occasion.watched.act components.watched)
      (occasion.act components) := by
  have mirrors := components.mirrors_watched
  cases occasion with
  | message input content => exact .map (MapNode.mirrors_receive mirrors input content) _
  | request service content => exact .map (MapNode.mirrors_serve mirrors service content) _
  | timer due => exact .map (MapNode.mirrors_fire mirrors due) _
  | surroundings change => exact .map (fun _ => rfl) _

end Occasion

/-- From any state, a run of a node does the same with and without transcripts. -/
theorem MapNode.unwatched_after (components : NodeComponents ε β ω) (node : MapNode ε β ω)
    (occasions : List (Occasion ε β ω)) :
    let act := fun occasion : Occasion ε β ω => occasion.watched.act components.watched
    let start := node.withTranscripts [] []
    Run.after (Occasion.act components) node occasions =
        (Run.after act start occasions).unwatched ∧
      Run.visits (Occasion.act components) node occasions =
        (Run.visits act start occasions).map fun visit =>
          ⟨visit.before.unwatched, visit.input, visit.outcome.through unwatched⟩ := by
  intro act start
  have mirrors := Occasion.mirrors_act components
  exact ⟨Run.after_mirrored mirrors start occasions, Run.visits_mirrored mirrors start occasions⟩

end MapIngest
