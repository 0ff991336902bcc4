import Mathlib.Data.List.Forall2
import MapIngest.Node.Answers
import MapIngest.Proofs.Coordinator.Publication

/-!
# Maps on the bus and in responses

A node sends what its coordinator publishes, one message for each publication, with the
maps stamped by its clock.  It does so in the same way on a request and when the timer
of periodic publishing fires.  The response to a request for the map carries the message
that publishing would send as the full map for the same answer of the engine.

Together with what messages say of their snapshots, this makes the maps that are
published and the maps that are handed out agree on every path.
-/

namespace MapIngest

open Ingest Node

/-! ## Buses -/

namespace Node

/-- A message that was sent, and how the bus took it. -/
structure BusExchange where
  output : Output
  message : Message
  answer : Except Fault Unit

variable {ω : Type}

/-- A bus that keeps a transcript. -/
def Bus.recorded (bus : Bus ω) : Bus (Recorded ω BusExchange) where
  send output message := Recorded.call (.mk output message) (bus.send output message)

/-- A message that the bus took. -/
def taken (sent : Output × Message) : BusExchange :=
  ⟨sent.1, sent.2, .ok ()⟩

end Node

/-- What is sent for a publication, on which topic. -/
inductive Publication.SentAs (stamp : Value) : Publication → Output × Message → Prop
  | occupiedMarkers (markers : Value) :
      SentAs stamp (.occupiedMarkers markers) (.occupiedMarkers, .markers markers)
  | freeMarkers (markers : Value) :
      SentAs stamp (.freeMarkers markers) (.freeMarkers, .markers markers)
  | binaryMap {snapshot : Snapshot} {message : MapMessage}
      (made : snapshot.toMessage stamp = .ok message) :
      SentAs stamp (.binaryMap snapshot) (.binaryMap, .map message)
  | fullMap {snapshot : Snapshot} {message : MapMessage}
      (made : snapshot.toMessage stamp = .ok message) :
      SentAs stamp (.fullMap snapshot) (.fullMap, .map message)

namespace Node.Outbox

variable {ω : Type} {bus : Bus ω} {before after : Outbox (Recorded ω BusExchange)}

theorem send_returns {output : Output} {message : Message}
    (sent : send bus.recorded output message before = (.ok (), after)) :
    after.clock = before.clock ∧
      after.bus.transcript = before.bus.transcript ++ [taken (output, message)] := by
  obtain ⟨answered, rfl⟩ := Prod.mk.inj sent
  exact ⟨rfl, Recorded.transcript_of_call (Prod.ext answered rfl)⟩

theorem sendMap_returns {output : Output} {snapshot : Snapshot}
    (sent : sendMap bus.recorded output snapshot before = (.ok (), after)) :
    ∃ message, snapshot.toMessage before.clock.stamp = .ok message ∧
      send bus.recorded output (.map message) before = (.ok (), after) := by
  rw [sendMap] at sent
  cases made : snapshot.toMessage before.clock.stamp with
  | error fault =>
      rw [made] at sent
      cases sent
  | ok message =>
      rw [made] at sent
      exact ⟨message, rfl, sent⟩

/-- A publication that is taken has been sent as one message. -/
theorem publish_returns {publication : Publication}
    (taking : publish bus.recorded publication before = (.ok (), after)) :
    ∃ sent, publication.SentAs before.clock.stamp sent ∧ after.clock = before.clock ∧
      after.bus.transcript = before.bus.transcript ++ [taken sent] := by
  cases publication with
  | occupiedMarkers markers => exact ⟨_, .occupiedMarkers markers, send_returns taking⟩
  | freeMarkers markers => exact ⟨_, .freeMarkers markers, send_returns taking⟩
  | binaryMap snapshot =>
      obtain ⟨message, made, sent⟩ := sendMap_returns taking
      exact ⟨_, .binaryMap made, send_returns sent⟩
  | fullMap snapshot =>
      obtain ⟨message, made, sent⟩ := sendMap_returns taking
      exact ⟨_, .fullMap made, send_returns sent⟩

/-- Publications that are taken have been sent in their order. -/
theorem sent_of_takes {publications : List Publication}
    (takes : (board bus.recorded).Takes publications before after) :
    ∃ sent, List.Forall₂ (Publication.SentAs before.clock.stamp) publications sent ∧
      after.bus.transcript = before.bus.transcript ++ sent.map taken := by
  induction takes with
  | none => exact ⟨[], .nil, (List.append_nil _).symm⟩
  | next took _ ih =>
      obtain ⟨sent, sentAs, clock, written⟩ := publish_returns took
      obtain ⟨others, rest, later⟩ := ih
      rw [clock] at rest
      refine ⟨sent :: others, .cons sentAs rest, ?_⟩
      rw [later, written, List.append_assoc, List.map_cons, List.singleton_append]

end Node.Outbox

/-! ## Nodes -/

variable {ε β ω : Type}

/-- Components of which the engine and the bus keep transcripts. -/
def NodeComponents.watched (components : NodeComponents ε β ω) :
    NodeComponents (Recorded ε EngineExchange) β (Recorded ω BusExchange) where
  engine := components.engine.recorded
  buffer := components.buffer
  bus := components.bus.recorded

/-- A node whose engine and bus keep transcripts. -/
abbrev WatchedNode (ε β ω : Type) :=
  MapNode (Recorded ε EngineExchange) β (Recorded ω BusExchange)

namespace MapNode

/-- The frame that a node expresses its maps in. -/
def frame (node : MapNode ε β ω) : String :=
  node.coordinator.worldFrame

/-- The stamp that a node gives to its maps. -/
def stamp (node : MapNode ε β ω) : Value :=
  node.coordinator.board.clock.stamp

variable {node : WatchedNode ε β ω} {outcome : Outcome (WatchedNode ε β ω) Response}

/-- The node asked the engine for everything, and sent everything in order. -/
structure Publishes (node : WatchedNode ε β ω) (outcome : Outcome (WatchedNode ε β ω) Response)
    (bulletin : Bulletin node.frame) (sent : List (Output × Message)) : Prop where
  result : outcome.result = .ok .empty
  asked : outcome.state.coordinator.engine.transcript =
    node.coordinator.engine.transcript ++ bulletin.exchanges
  made : List.Forall₂ (Publication.SentAs node.stamp) bulletin.publications sent
  sent : outcome.state.coordinator.board.bus.transcript =
    node.coordinator.board.bus.transcript ++ sent.map taken
  logs : outcome.logs = []

/-- The node asked the engine for its map, put it into the response and sent nothing. -/
structure HandsOut (node : WatchedNode ε β ω) (outcome : Outcome (WatchedNode ε β ω) Response)
    (handover : Handover node.frame) (message? : Option MapMessage) : Prop where
  result : outcome.result = .ok (.map message?)
  asked : outcome.state.coordinator.engine.transcript =
    node.coordinator.engine.transcript ++ handover.exchanges
  made : Option.Rel (fun handed message => handed.toMessage node.stamp = .ok message)
    handover.handed? message?
  sent : outcome.state.coordinator.board = node.coordinator.board
  logs : outcome.logs = handover.records

/-- Every path by which a node publishes does the same. -/
theorem fire_eq_serve (components : NodeComponents ε β ω) {timer : Timer}
    (publishing : timer.task = .publishing) (request : Value) :
    fire components timer = (fun _ => ()) <$> serve components .publishAll request := by
  rw [fire, publishing, serve, servePublishAll]
  simp only [map_bind, map_pure]

/-- What a coordinator does for a node that returns. -/
theorem coordinate_returns {α : Type} {components : NodeComponents ε β ω}
    {action : Components ε β (Outbox ω) → Act (Coordinator ε β (Outbox ω)) α}
    {before after : MapNode ε β ω} {value : α} {logs : List LogRecord}
    (returned : (coordinate components action).run before = ⟨.ok value, after, logs⟩) :
    ∃ coordinator,
      (action (components.coordinator before.params.lookupTimeout)).run before.coordinator =
        ⟨.ok value, coordinator, logs⟩ ∧ after = { before with coordinator := coordinator } := by
  rw [coordinate, Act.run_get_bind, onCoordinator, Act.run_onPart, Outcome.mk.injEq] at returned
  obtain ⟨result, rfl, rfl⟩ := returned
  refine ⟨_, ?_, rfl⟩
  rw [← result]

theorem run_clock_bind {α : Type} (next : Clock → Act (MapNode ε β ω) α) (node : MapNode ε β ω) :
    (clock >>= next).run node = (next node.coordinator.board.clock).run node := rfl

variable (components : NodeComponents ε β ω) (request : Value)

theorem publishes_servePublishAll {response : Response}
    (returned : ((serve components.watched .publishAll request).run node).result =
      .ok response) :
    ∃ bulletin sent,
      node.Publishes ((serve components.watched .publishAll request).run node) bulletin sent := by
  obtain ⟨after, logs, run⟩ := Act.exists_run_eq returned
  rw [run]
  rw [serve, servePublishAll] at run
  obtain ⟨_, _, _, _, coordinated, answered, rfl⟩ := Act.run_bind_eq_ok.mp run
  obtain ⟨rfl, rfl, rfl⟩ := Act.run_pure_eq_ok.mp answered
  obtain ⟨coordinator, published, rfl⟩ := coordinate_returns coordinated
  obtain ⟨bulletin, asked, takes, -, rfl⟩ := Coordinator.publishAll_returns rfl published
  obtain ⟨sent, made, written⟩ := Outbox.sent_of_takes takes
  exact ⟨bulletin, sent, rfl, asked, made, written, rfl⟩

theorem handsOut_serveGetMap {response : Response}
    (returned : ((serve components.watched .getMap request).run node).result = .ok response) :
    ∃ handover message?,
      node.HandsOut ((serve components.watched .getMap request).run node) handover message? := by
  obtain ⟨after, logs, run⟩ := Act.exists_run_eq returned
  rw [run]
  rw [serve, serveGetMap] at run
  obtain ⟨handed?, _, _, _, coordinated, answered, rfl⟩ := Act.run_bind_eq_ok.mp run
  obtain ⟨coordinator, handed, rfl⟩ := coordinate_returns coordinated
  obtain ⟨handover, asked, kept, rfl, rfl⟩ := Coordinator.getMap_returns rfl handed
  cases given : handover.handed? with
  | none =>
      rw [given] at answered
      obtain ⟨rfl, rfl, rfl⟩ := Act.run_pure_eq_ok.mp answered
      refine ⟨handover, none, rfl, asked, ?_, kept, List.append_nil _⟩
      rw [given]
      exact .none
  | some snapshot =>
      rw [given] at answered
      dsimp only at answered
      rw [run_clock_bind, kept] at answered
      obtain ⟨message, _, _, _, converted, wrapped, rfl⟩ := Act.run_bind_eq_ok.mp answered
      obtain ⟨made, rfl, rfl⟩ := Act.run_ofExcept_eq_ok.mp converted
      obtain ⟨rfl, rfl, rfl⟩ := Act.run_pure_eq_ok.mp wrapped
      refine ⟨handover, some message, rfl, asked, ?_, kept, List.append_nil _⟩
      rw [given]
      exact .some made

end MapNode

/-! ## Agreement -/

/-- A map in a response is the message that a publication of the same answer sends. -/
theorem Handover.mem_sent {frame : String} {stamp : Value} {handover : Handover frame}
    {bulletin : Bulletin frame} (same : bulletin.full? = handover.full?)
    {message? : Option MapMessage}
    (made : Option.Rel (fun handed message => handed.toMessage stamp = .ok message)
      handover.handed? message?)
    {sent : List (Output × Message)}
    (published : List.Forall₂ (Publication.SentAs stamp) bulletin.publications sent) :
    ∀ message ∈ message?, (Output.fullMap, Message.map message) ∈ sent := by
  rintro message rfl
  rcases published with _ | ⟨-, _ | ⟨-, _ | ⟨-, _ | ⟨full, -⟩⟩⟩⟩
  have handed := handover.handed?_eq same
  cases full with
  | fullMap sentMade =>
      generalize handover.handed? = handed? at made handed
      cases made with
      | some made =>
          obtain ⟨_, -, rfl⟩ := Option.map_eq_some_iff.mp handed.symm
          rw [sentMade, Except.ok.injEq] at made
          rw [made]
          simp

section Agreement

variable {τ π : Type}

/--
In every run, a publication that returns asks the engine for everything and publishes the
markers and both maps in order; a request for the map that returns asks for the full map
and hands it out, or reports that there is none.  All these maps are the answers of the
engine expressed in the world frame, and what is handed out is what a publication of the
same answer publishes as the full map.

A message says what its snapshot says, with the bytes as signed numbers of the same
residues, and equal messages come from equal snapshots.

A node publishes alike on a request and when a timer fires, and its response to a request
for the map is the message that publishing sends as the full map.
-/
theorem published_and_served_agree (components : Components ε τ π)
    (start : WatchedCoordinator ε τ π) (entries : List Entry)
    (parts : NodeComponents ε β ω) (node : WatchedNode ε β ω) (request : Value) :
    (∀ visit ∈ Run.visits (Entry.act components.watched) start entries,
      ∀ reply, visit.outcome.result = .ok reply →
        (visit.input = .publishAll → ∃ bulletin : Bulletin start.worldFrame,
          visit.Publishes bulletin) ∧
        (visit.input = .getMap → ∃ handover : Handover start.worldFrame,
          visit.HandsOut handover ∧
          ∀ bulletin : Bulletin start.worldFrame, bulletin.full? = handover.full? →
            handover.handed? = handover.full?.map fun _ => bulletin.full)) ∧
    (∀ (snapshot : Snapshot) (stamp : Value), snapshot.Typed →
      ∃ message, snapshot.toMessage stamp = .ok message ∧ message.snapshot = snapshot) ∧
    (∀ (snapshot : Snapshot) (stamp : Value) (message : MapMessage),
      snapshot.toMessage stamp = .ok message →
        message.Conveys snapshot stamp ∧
        ∀ other again, other.toMessage again = .ok message → snapshot.Typed → other.Typed →
          other = snapshot) ∧
    (∀ timer : Timer, timer.task = .publishing →
      MapNode.fire parts.watched timer =
        (fun _ => ()) <$> MapNode.serve parts.watched .publishAll request) ∧
    (∀ response,
      ((MapNode.serve parts.watched .publishAll request).run node).result = .ok response →
        ∃ bulletin sent,
          node.Publishes ((MapNode.serve parts.watched .publishAll request).run node)
            bulletin sent) ∧
    ∀ response, ((MapNode.serve parts.watched .getMap request).run node).result = .ok response →
      ∃ handover message?,
        node.HandsOut ((MapNode.serve parts.watched .getMap request).run node)
          handover message? ∧
        ∀ (bulletin : Bulletin node.frame) (sent : List (Output × Message)),
          bulletin.full? = handover.full? →
          List.Forall₂ (Publication.SentAs node.stamp) bulletin.publications sent →
            ∀ message ∈ message?, (Output.fullMap, Message.map message) ∈ sent := by
  refine ⟨?_, ?_, ?_, ?_, ?_, ?_⟩
  · intro visit member reply returned
    obtain ⟨publishes, handsOut⟩ :=
      Coordinator.visits_publish components start entries visit member reply returned
    refine ⟨publishes, fun asked => ?_⟩
    obtain ⟨handover, hands⟩ := handsOut asked
    exact ⟨handover, hands, fun _ => handover.handed?_eq⟩
  · intro snapshot stamp typed
    obtain ⟨message, returned⟩ := typed.toMessage_returns stamp
    exact ⟨message, returned, typed.snapshot_toMessage returned⟩
  · intro snapshot stamp message returned
    refine ⟨Snapshot.conveys_toMessage returned, fun other again also typed otherTyped => ?_⟩
    rw [← typed.snapshot_toMessage returned, otherTyped.snapshot_toMessage also]
  · exact fun timer publishing => MapNode.fire_eq_serve parts.watched publishing request
  · exact fun response returned => MapNode.publishes_servePublishAll parts request returned
  · intro response returned
    obtain ⟨handover, message?, hands⟩ := MapNode.handsOut_serveGetMap parts request returned
    exact ⟨handover, message?, hands, fun bulletin sent same published =>
      Handover.mem_sent same hands.made published⟩

end Agreement

/-! ## A map with bytes of both signs -/

/-- A map that the engine has put into a frame of its own. -/
def signedMap : Snapshot where
  identifier := "OcTree"
  binary := .bool false
  resolution := .float 0.25
  data := [0x00, 0x7F, 0x80, 0xFF]
  frame := "engine"

/-- An engine that has a map in the full encoding only. -/
def MapEngine.halfSerializing : MapEngine Unit :=
  { MapEngine.blank with fullMap := fun _ => (.ok (some signedMap), ()) }

def halfComponents : Components Unit Unit Unit :=
  { Components.obliging with engine := .halfSerializing }

def halfStart : WatchedCoordinator Unit Unit Unit where
  worldFrame := "map"
  engine := ⟨(), []⟩
  source := ⟨(), []⟩
  board := ⟨(), []⟩

def halfParts : NodeComponents Unit Unit Unit where
  engine := .halfSerializing
  buffer := ⟨fun _ _ _ _ => (.ok true, ()), fun _ _ _ _ _ => (.ok .null, ())⟩
  bus := ⟨fun _ _ _ => (.ok (), ())⟩

def halfNode : WatchedNode Unit Unit Unit where
  params := {}
  coordinator :=
    { worldFrame := "map", engine := ⟨(), []⟩, source := (), board := ⟨{}, ⟨(), []⟩⟩ }
  timers := [⟨.publishing, 1.0⟩]
  startTime := .whole 0

/--
The map is published and handed out in the world frame and survives in its message, and
the response of a node carries the message that its timer sends.
-/
theorem signed_map_served_as_published :
    (∃ published handed, Run.visits (Entry.act halfComponents.watched) halfStart
        [.publishAll, .getMap] = [published, handed] ∧
      ∃ bulletin : Bulletin "map", published.Publishes bulletin ∧
        bulletin.binary = (Snapshot.blank true).stamped "map" ∧
        bulletin.full = signedMap.stamped "map" ∧
        handed.outcome.result = .ok (.map (some bulletin.full)) ∧
        ∃ message, bulletin.full.toMessage .null = .ok message ∧
          message.data = [0, 127, -128, -1] ∧ message.snapshot = bulletin.full) ∧
    ∃ message bulletin sent,
      ((MapNode.serve halfParts.watched .getMap .null).run halfNode).result =
        .ok (.map (some message)) ∧
      halfNode.Publishes ((MapNode.serve halfParts.watched .publishAll .null).run halfNode)
        bulletin sent ∧
      (Output.fullMap, Message.map message) ∈ sent ∧
      MapNode.fire halfParts.watched ⟨.publishing, 1.0⟩ =
        (fun _ => ()) <$> MapNode.serve halfParts.watched .publishAll .null := by
  obtain ⟨visited, survives, -, fires, sends, responds⟩ :=
    published_and_served_agree halfComponents halfStart [.publishAll, .getMap] halfParts halfNode
      .null
  constructor
  · refine ⟨_, _, rfl, ?_⟩
    obtain ⟨bulletin, publishes⟩ := (visited _ List.mem_cons_self _ rfl).1 rfl
    obtain ⟨handover, hands, agree⟩ :=
      (visited _ (List.mem_cons_of_mem _ List.mem_cons_self) _ rfl).2 rfl
    obtain ⟨binary?, full?⟩ := Bulletin.answers_eq publishes.asked.symm
    have again := Handover.answer_eq (List.append_cancel_left hands.asked).symm
    have binary := bulletin.binary_inFrame
    have full := bulletin.full_inFrame
    rw [binary?, Option.getD_none, Snapshot.inFrame_iff] at binary
    rw [full?, Option.getD_some, Snapshot.inFrame_iff] at full
    have served := agree bulletin (full?.trans again.symm)
    rw [again] at served
    have typed : bulletin.full.Typed := by
      rw [full]
      exact ⟨⟨false, rfl⟩, ⟨0.25, rfl⟩⟩
    obtain ⟨message, made, back⟩ := survives bulletin.full .null typed
    refine ⟨bulletin, publishes, binary, full, hands.result.trans ?_, message, made, ?_, back⟩
    · rw [served]
      rfl
    · rw [full] at made
      cases made
      rfl
  · obtain ⟨bulletin, sent, publishes⟩ := sends .empty rfl
    obtain ⟨handover, message?, hands, same⟩ := responds _ rfl
    have answered := (Bulletin.answers_eq publishes.asked.symm).2
    have again := Handover.answer_eq hands.asked.symm
    have response := hands.result
    cases response
    exact ⟨_, bulletin, sent, rfl, publishes,
      same bulletin sent (answered.trans again.symm) publishes.made _ rfl, fires _ rfl⟩

end MapIngest
