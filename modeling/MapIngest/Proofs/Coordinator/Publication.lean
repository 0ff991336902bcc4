import MapIngest.Proofs.Coordinator.Entry
import MapIngest.Proofs.Engine.Message

/-!
# Published and served maps

A publication of the map consists of four items in a fixed order.  The two maps among
them are what the engine answered, expressed in the world frame; a map that the engine
cannot serialize is published without content.  Handing out the map asks the engine
once, and gives what a publication of the same answer would send as the full map, or
nothing and a report if there is no map.

The world frame never changes, so the maps of a whole run are expressed in one frame.
-/

namespace MapIngest

open Ingest Sensor

/-! ## Boards -/

/-- A publication, and how the board took it. -/
structure BoardExchange where
  publication : Publication
  answer : Except Fault Unit

namespace PublicationBoard

variable {π : Type}

/-- A board that keeps a transcript. -/
def recorded (board : PublicationBoard π) : PublicationBoard (Recorded π BoardExchange) where
  publish publication := Recorded.call (.mk publication) (board.publish publication)

/-- The board takes publications one after the other. -/
inductive Takes (board : PublicationBoard π) : List Publication → π → π → Prop
  | none (state : π) : Takes board [] state state
  | next {publication : Publication} {others : List Publication} {before middle after : π}
      (taken : board.publish publication before = (.ok (), middle))
      (rest : Takes board others middle after) : Takes board (publication :: others) before after

theorem Takes.transcript {board : PublicationBoard π} {publications : List Publication}
    {before after : Recorded π BoardExchange}
    (takes : board.recorded.Takes publications before after) :
    after.transcript =
      before.transcript ++ publications.map fun publication => ⟨publication, .ok ()⟩ := by
  induction takes with
  | none => rw [List.map_nil, List.append_nil]
  | next taken _ ih =>
      rw [ih, Recorded.transcript_of_call taken, List.map_cons, List.append_assoc,
        List.singleton_append]

end PublicationBoard

/-! ## What is published and handed out -/

/-- The answers of an engine to a publication in a frame, and the maps that come of them. -/
structure Bulletin (frame : String) where
  occupied : Value
  free : Value
  binary? : Option Snapshot
  full? : Option Snapshot
  binary : Snapshot
  full : Snapshot
  binary_inFrame : (binary?.getD (Snapshot.blank true)).InFrame frame binary
  full_inFrame : (full?.getD (Snapshot.blank false)).InFrame frame full

/-- The answer of an engine that is asked for its map, and the map that is handed out. -/
structure Handover (frame : String) where
  full? : Option Snapshot
  handed? : Option Snapshot
  inFrame : Option.Rel (fun given handed => given.InFrame frame handed) full? handed?

variable {frame : String}

namespace Bulletin

/-- What the engine was asked, with its answers. -/
def exchanges (bulletin : Bulletin frame) : List EngineExchange :=
  [.markers frame (.ok (bulletin.occupied, bulletin.free)), .binaryMap (.ok bulletin.binary?),
    .fullMap (.ok bulletin.full?)]

/-- The answers can be read off the exchanges. -/
theorem answers_eq {bulletin : Bulletin frame} {other : String}
    {markers : Except Fault (Value × Value)} {binary? full? : Option Snapshot}
    (asked : bulletin.exchanges =
      [.markers other markers, .binaryMap (.ok binary?), .fullMap (.ok full?)]) :
    bulletin.binary? = binary? ∧ bulletin.full? = full? := by
  simp only [exchanges, List.cons.injEq, EngineExchange.binaryMap.injEq,
    EngineExchange.fullMap.injEq, Except.ok.injEq] at asked
  exact ⟨asked.2.1, asked.2.2.1⟩

/-- What is published, in order. -/
def publications (bulletin : Bulletin frame) : List Publication :=
  [.occupiedMarkers bulletin.occupied, .freeMarkers bulletin.free, .binaryMap bulletin.binary,
    .fullMap bulletin.full]

end Bulletin

namespace Handover

def exchanges (handover : Handover frame) : List EngineExchange :=
  [.fullMap (.ok handover.full?)]

theorem answer_eq {handover : Handover frame} {full? : Option Snapshot}
    (asked : handover.exchanges = [.fullMap (.ok full?)]) : handover.full? = full? := by
  rw [exchanges, List.cons.injEq, EngineExchange.fullMap.injEq, Except.ok.injEq] at asked
  exact asked.1

/-- A map that cannot be handed out is reported. -/
def records (handover : Handover frame) : List LogRecord :=
  match handover.full? with
  | some _ => []
  | none => [.error "Map engine could not serialize the full map"]

/-- A map is handed out exactly as it would be published. -/
theorem handed?_eq (handover : Handover frame) {bulletin : Bulletin frame}
    (same : bulletin.full? = handover.full?) :
    handover.handed? = handover.full?.map fun _ => bulletin.full := by
  have published := bulletin.full_inFrame
  have handed := handover.inFrame
  rw [same] at published
  generalize handover.full? = full? at published handed
  generalize handover.handed? = handed? at handed
  cases handed with
  | none => rfl
  | some inFrame =>
      rw [Option.getD_some, Snapshot.inFrame_iff] at published
      rw [Option.map_some, Snapshot.inFrame_iff.mp inFrame, published]

end Handover

/-! ## What publishing and handing out do -/

namespace Coordinator

variable {ε τ π α : Type}

section Returning

variable {β : Type} {value : β} {logs : List LogRecord}

/-- A sequence that begins with a question to a recorded engine and returns. -/
theorem askEngine_bind_returns {exchange : Except Fault α → EngineExchange} {call : Call ε α}
    {before after : Coordinator (Recorded ε EngineExchange) τ π}
    {next : α → Act (Coordinator (Recorded ε EngineExchange) τ π) β}
    (returned : (askEngine (Recorded.call exchange call) >>= next).run before =
      ⟨.ok value, after, logs⟩) :
    ∃ answer, ∃ engine : Recorded ε EngineExchange,
      (next answer).run { before with engine := engine } = ⟨.ok value, after, logs⟩ ∧
        engine.transcript = before.engine.transcript ++ [exchange (.ok answer)] := by
  obtain ⟨answer, _, _, _, asked, further, rfl⟩ := Act.run_bind_eq_ok.mp returned
  obtain ⟨engine, answered, rfl, rfl⟩ := Act.run_ask_eq_ok.mp asked
  exact ⟨answer, engine, further, Recorded.transcript_of_call answered⟩

/-- A sequence that begins with a publication and returns. -/
theorem publish_bind_returns {components : Components ε τ π} {publication : Publication}
    {before after : Coordinator ε τ π} {next : Unit → Act (Coordinator ε τ π) β}
    (returned : (publish components publication >>= next).run before =
      ⟨.ok value, after, logs⟩) :
    ∃ board, (next ()).run { before with board := board } = ⟨.ok value, after, logs⟩ ∧
      components.board.publish publication before.board = (.ok (), board) := by
  obtain ⟨⟨⟩, _, _, _, published, further, rfl⟩ := Act.run_bind_eq_ok.mp returned
  obtain ⟨board, taken, rfl, rfl⟩ := Act.run_ask_eq_ok.mp published
  exact ⟨board, further, taken⟩

end Returning

section Recorded

variable {engine : MapEngine ε} {components : Components (Recorded ε EngineExchange) τ π}
  (listens : components.engine = engine.recorded)
  {before after : Coordinator (Recorded ε EngineExchange) τ π} {logs : List LogRecord}

include listens

/-- A publication that returns has asked for everything, and then published everything. -/
theorem publishAll_returns {reply : Bool}
    (returned : (publishAll components).run before = ⟨.ok reply, after, logs⟩) :
    ∃ bulletin : Bulletin before.worldFrame,
      after.engine.transcript = before.engine.transcript ++ bulletin.exchanges ∧
      components.board.Takes bulletin.publications before.board after.board ∧
      reply = true ∧ logs = [] := by
  rw [publishAll, listens, Act.run_get_bind] at returned
  obtain ⟨⟨occupied, free⟩, _, returned, markers⟩ := askEngine_bind_returns returned
  obtain ⟨_, returned, tookOccupied⟩ := publish_bind_returns returned
  obtain ⟨_, returned, tookFree⟩ := publish_bind_returns returned
  obtain ⟨binary?, _, returned, binary⟩ := askEngine_bind_returns returned
  obtain ⟨full?, _, returned, full⟩ := askEngine_bind_returns returned
  obtain ⟨_, returned, tookBinary⟩ := publish_bind_returns returned
  obtain ⟨_, returned, tookFull⟩ := publish_bind_returns returned
  obtain ⟨rfl, rfl, rfl⟩ := Act.run_pure_eq_ok.mp returned
  refine ⟨⟨occupied, free, binary?, full?, snapshotToSend binary? true before.worldFrame,
    snapshotToSend full? false before.worldFrame, Snapshot.inFrame_iff.mpr rfl,
    Snapshot.inFrame_iff.mpr rfl⟩, ?_, ?_, rfl, rfl⟩
  · rw [full, binary, markers, List.append_assoc, List.append_assoc]
    rfl
  · exact .next tookOccupied (.next tookFree (.next tookBinary (.next tookFull (.none _))))

/-- A map that is handed out has been asked for, and nothing is published. -/
theorem getMap_returns {handed? : Option Snapshot}
    (returned : (getMap components).run before = ⟨.ok handed?, after, logs⟩) :
    ∃ handover : Handover before.worldFrame,
      after.engine.transcript = before.engine.transcript ++ handover.exchanges ∧
      after.board = before.board ∧ handed? = handover.handed? ∧ logs = handover.records := by
  rw [getMap, listens, Act.run_get_bind] at returned
  obtain ⟨full?, _, returned, full⟩ := askEngine_bind_returns returned
  cases full? with
  | some snapshot =>
      obtain ⟨rfl, rfl, rfl⟩ := Act.run_pure_eq_ok.mp returned
      exact ⟨⟨some snapshot, _, .some (Snapshot.inFrame_iff.mpr rfl)⟩, full, rfl, rfl, rfl⟩
  | none =>
      rw [Act.run_bind, Act.run_log, Act.follow_ok, Act.run_pure, Outcome.mk.injEq,
        Except.ok.injEq] at returned
      obtain ⟨rfl, rfl, rfl⟩ := returned
      exact ⟨⟨none, none, .none⟩, full, rfl, rfl, rfl⟩

end Recorded

/-! ## Views that entries overlook -/

/-- A view shows nothing of the engine, the source of poses, the counts and the calibration. -/
structure Overlooks {ν : Type} (view : Coordinator ε τ π → ν) : Prop where
  calibration : ∀ coordinator calibration,
    view { coordinator with calibration := calibration } = view coordinator
  stats : ∀ coordinator stats, view { coordinator with stats := stats } = view coordinator
  desk : ∀ coordinator desk, view (withPoseDesk desk coordinator) = view coordinator
  engine : ∀ coordinator engine, view { coordinator with engine := engine } = view coordinator

namespace Overlooks

variable {ν : Type} {view : Coordinator ε τ π → ν} (overlooks : Overlooks view)

include overlooks

theorem keeps_askEngine (call : Call ε α) : Act.Keeps view (askEngine call) :=
  fun coordinator => overlooks.engine coordinator _

theorem asksUnseen (engine : MapEngine ε) : AsksUnseen view engine where
  reset := overlooks.keeps_askEngine _
  markers _ := overlooks.keeps_askEngine _
  binaryMap := overlooks.keeps_askEngine _
  fullMap := overlooks.keeps_askEngine _
  save _ := overlooks.keeps_askEngine _
  load _ := overlooks.keeps_askEngine _
  setOccupied _ _ := overlooks.keeps_askEngine _
  setFree _ _ := overlooks.keeps_askEngine _

theorem keeps_count (stream : Stream) (counter : Counter) :
    Act.Keeps view (count stream counter) :=
  fun coordinator => overlooks.stats coordinator _

theorem keeps_hand (stream : Stream) (frame : String) (call : Call ε Unit)
    {announcement : Act (Coordinator ε τ π) Unit} (announces : Act.Keeps view announcement) :
    Act.Keeps view (hand stream frame call announcement) := by
  refine .bind (keeps_tryEngine (overlooks.keeps_askEngine call)) ?_
  rintro (fault | done)
  · exact .bind (overlooks.keeps_count _ _) fun _ => .bind (.log _) fun _ => .pure _
  · refine .bind (overlooks.keeps_count _ _) fun inserted => ?_
    dsimp only
    split
    · exact .bind announces fun _ => .pure _
    · exact .pure _

theorem keeps_insert (components : Components ε τ π) (observation : Observation) :
    Act.Keeps view (insert components observation) := by
  have drops : ∀ stream reason, Act.Keeps view (drop stream reason) := fun stream reason =>
    .bind (overlooks.keeps_count stream reason) fun _ => .pure _
  have poses : ∀ origin target stamp,
      Act.Keeps view (onPoses (PoseDesk.resolve components.poses origin target stamp)) :=
    fun _ _ _ coordinator => overlooks.desk coordinator _
  cases observation with
  | disparity observation =>
      refine .bind (overlooks.keeps_count _ _) fun _ => .bind .get fun coordinator => ?_
      cases coordinator.calibration.readiness.working? with
      | none =>
          exact .bind (overlooks.keeps_count _ _) fun _ => .bind (.log _) fun _ => .pure _
      | some working =>
          refine .bind (poses _ _ _) ?_
          rintro (none | pose)
          · exact drops _ _
          · exact overlooks.keeps_hand _ _ _ <| .bind (.ofExcept _) fun _ =>
              .bind (.ofExcept _) fun _ => .log _
  | cloud observation =>
      refine .bind (overlooks.keeps_count _ _) fun _ => .bind .get fun coordinator =>
        .bind (poses _ _ _) ?_
      rintro (none | pose)
      · exact drops _ _
      · exact overlooks.keeps_hand _ _ _ <| .bind (.ofExcept _) fun _ => .log _

/-- An entry keeps the view, unless it publishes and the view shows publications. -/
theorem keeps_entry {components : Components ε τ π} (entry : Entry)
    (publishes : entry = .publishAll → ∀ publication,
      Act.Keeps view (publish components publication)) :
    Act.Keeps view (entry.act components) := by
  cases entry with
  | leftCamera camera => exact .map (fun coordinator => overlooks.calibration coordinator _) _
  | rightCamera camera => exact .map (fun coordinator => overlooks.calibration coordinator _) _
  | observe observation => exact (overlooks.keeps_insert components observation).map _
  | _ => exact Entry.keeps_operation (overlooks.asksUnseen components.engine) trivial publishes

end Overlooks

theorem overlooks_worldFrame : Overlooks (worldFrame (ε := ε) (τ := τ) (π := π)) where
  calibration _ _ := rfl
  stats _ _ := rfl
  desk _ _ := rfl
  engine _ _ := rfl

/-- No entry changes the frame that the maps are expressed in. -/
theorem framed_entry (components : Components ε τ π) (entry : Entry) :
    Act.Keeps worldFrame (entry.act components) :=
  overlooks_worldFrame.keeps_entry entry fun _ _ _ => rfl

end Coordinator

/-! ## Runs -/

variable {ε τ π : Type}

/-- Components of which the engine, the source of poses and the board keep transcripts. -/
def Components.watched (components : Components ε τ π) :
    Components (Recorded ε EngineExchange) (Recorded τ PoseExchange)
      (Recorded π BoardExchange) where
  engine := components.engine.recorded
  poses := components.poses.recorded
  board := components.board.recorded

/-- A coordinator all of whose components keep transcripts. -/
abbrev WatchedCoordinator (ε τ π : Type) :=
  RecordedCoordinator ε τ (Recorded π BoardExchange)

namespace Visit

variable (visit : Visit (WatchedCoordinator ε τ π) Entry Reply)

/-- The visit asked the engine for everything, and everything was published in order. -/
structure Publishes (bulletin : Bulletin frame) : Prop where
  result : visit.outcome.result = .ok (.said true)
  asked : visit.outcome.state.engine.transcript =
    visit.before.engine.transcript ++ bulletin.exchanges
  published : visit.outcome.state.board.transcript =
    visit.before.board.transcript ++
      bulletin.publications.map fun publication => ⟨publication, .ok ()⟩
  logs : visit.outcome.logs = []

/-- The visit asked the engine for its map, handed it out and published nothing. -/
structure HandsOut (handover : Handover frame) : Prop where
  result : visit.outcome.result = .ok (.map handover.handed?)
  asked : visit.outcome.state.engine.transcript =
    visit.before.engine.transcript ++ handover.exchanges
  published : visit.outcome.state.board = visit.before.board
  logs : visit.outcome.logs = handover.records

end Visit

namespace Coordinator

variable (components : Components ε τ π) (before : WatchedCoordinator ε τ π)

theorem publishes_publishAll {reply : Reply}
    (returned : ((Entry.publishAll.act components.watched).run before).result = .ok reply) :
    ∃ bulletin : Bulletin before.worldFrame,
      Visit.Publishes ⟨before, .publishAll, (Entry.publishAll.act components.watched).run before⟩
        bulletin := by
  obtain ⟨after, logs, taken⟩ := Act.exists_run_eq returned
  rw [taken]
  obtain ⟨answer, published, rfl⟩ := Act.run_map_eq_ok.mp taken
  obtain ⟨bulletin, asked, takes, rfl, rfl⟩ := publishAll_returns rfl published
  exact ⟨bulletin, rfl, asked, takes.transcript, rfl⟩

theorem handsOut_getMap {reply : Reply}
    (returned : ((Entry.getMap.act components.watched).run before).result = .ok reply) :
    ∃ handover : Handover before.worldFrame,
      Visit.HandsOut ⟨before, .getMap, (Entry.getMap.act components.watched).run before⟩
        handover := by
  obtain ⟨after, logs, taken⟩ := Act.exists_run_eq returned
  rw [taken]
  obtain ⟨handed?, handed, rfl⟩ := Act.run_map_eq_ok.mp taken
  obtain ⟨handover, asked, kept, rfl, rfl⟩ := getMap_returns rfl handed
  exact ⟨handover, rfl, asked, kept, rfl⟩

/-- In a whole run, all maps are expressed in the frame that the run begins with. -/
theorem visits_publish (start : WatchedCoordinator ε τ π) (entries : List Entry) :
    ∀ visit ∈ Run.visits (Entry.act components.watched) start entries,
      ∀ reply, visit.outcome.result = .ok reply →
        (visit.input = .publishAll → ∃ bulletin : Bulletin start.worldFrame,
          visit.Publishes bulletin) ∧
        (visit.input = .getMap → ∃ handover : Handover start.worldFrame,
          visit.HandsOut handover) := by
  have keeps : ∀ (state : WatchedCoordinator ε τ π) (entry : Entry), True →
      state.worldFrame = start.worldFrame →
        ((entry.act components.watched).run state).state.worldFrame = start.worldFrame := by
    intro state entry _ framed
    exact (framed_entry components.watched entry state).trans framed
  refine Run.forall_visits keeps ?_ rfl fun _ _ => trivial
  rintro state entry - framed reply returned
  rw [← framed]
  constructor
  · rintro rfl
    exact publishes_publishAll components state returned
  · rintro rfl
    exact handsOut_getMap components state returned

end Coordinator

end MapIngest
