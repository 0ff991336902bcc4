import MapIngest.Proofs.Coordinator.Entry
import MapIngest.Proofs.Mirror

/-!
# Components that mirror each other

Components mirror others if all their calls do, seen through views of what they keep.
A coordinator does the same with either: every entry returns the same, reports the
same, and leaves states that belong together.  So nothing that is said about runs
depends on what components keep beyond what is seen of it.
-/

namespace MapIngest

open MapIngest.Geometry Ingest Sensor Calibration

/-- How the components of one coordinator are seen as those of another. -/
structure Guise (ε τ π ε' τ' π' : Type) where
  engine : ε → ε'
  source : τ → τ'
  board : π → π'

variable {ε τ π ε' τ' π' α : Type}

/-- Every call of an engine mirrors that of another. -/
structure MapEngine.Mirrors (view : ε → ε') (engine : MapEngine ε) (image : MapEngine ε') :
    Prop where
  setParameters : ∀ params,
    Call.Mirrors view (engine.setParameters params) (image.setParameters params)
  insert : ∀ insertion, Call.Mirrors view (engine.insert insertion) (image.insert insertion)
  setOccupied : ∀ centre size,
    Call.Mirrors view (engine.setOccupied centre size) (image.setOccupied centre size)
  setFree : ∀ centre size,
    Call.Mirrors view (engine.setFree centre size) (image.setFree centre size)
  reset : Call.Mirrors view engine.reset image.reset
  markers : ∀ frame, Call.Mirrors view (engine.markers frame) (image.markers frame)
  binaryMap : Call.Mirrors view engine.binaryMap image.binaryMap
  fullMap : Call.Mirrors view engine.fullMap image.fullMap
  save : ∀ path, Call.Mirrors view (engine.save path) (image.save path)
  load : ∀ path, Call.Mirrors view (engine.load path) (image.load path)

/-- Every call of a source of poses mirrors that of another. -/
structure Ingest.PoseSource.Mirrors (view : τ → τ') (poses : PoseSource τ)
    (image : PoseSource τ') : Prop where
  canTransform : ∀ target origin stamp, Call.Mirrors view
    (poses.canTransform target origin stamp) (image.canTransform target origin stamp)
  lookup : ∀ target origin stamp, Call.Mirrors view
    (poses.lookup target origin stamp) (image.lookup target origin stamp)

/-- Publishing on a board mirrors publishing on another. -/
def PublicationBoard.Mirrors (view : π → π') (board : PublicationBoard π)
    (image : PublicationBoard π') : Prop :=
  ∀ publication, Call.Mirrors view (board.publish publication) (image.publish publication)

/-- All components of a coordinator mirror those of another. -/
structure Components.Mirrors (guise : Guise ε τ π ε' τ' π') (components : Components ε τ π)
    (image : Components ε' τ' π') : Prop where
  engine : components.engine.Mirrors guise.engine image.engine
  poses : components.poses.Mirrors guise.source image.poses
  board : components.board.Mirrors guise.board image.board

/-- What is seen of a desk. -/
def Ingest.PoseDesk.through (view : τ → τ') (desk : PoseDesk τ) : PoseDesk τ' :=
  ⟨view desk.source, desk.stats?⟩

/-- What is seen of a coordinator. -/
def Coordinator.through (guise : Guise ε τ π ε' τ' π') (coordinator : Coordinator ε τ π) :
    Coordinator ε' τ' π' :=
  { coordinator with
    engine := guise.engine coordinator.engine
    source := guise.source coordinator.source
    board := guise.board coordinator.board }

namespace Ingest.PoseDesk

theorem mirrors_ask {view : τ → τ'} {call : Call τ α} {image : Call τ' α}
    (mirrors : Call.Mirrors view call image) :
    Act.Mirrors (through view) (ask call) (ask image) :=
  .ask (fun _ => rfl) (fun _ _ => rfl) mirrors

theorem mirrors_resolve {view : τ → τ'} {poses : PoseSource τ} {image : PoseSource τ'}
    (mirrors : poses.Mirrors view image) (origin target : String) (stamp : Value) :
    Act.Mirrors (through view) (resolve poses origin target stamp)
      (resolve image origin target stamp) := by
  have chooses : Act.Mirrors (through view) (chooseStamp poses origin target stamp)
      (chooseStamp image origin target stamp) := by
    refine .bind (mirrors_ask (mirrors.canTransform target origin stamp)) fun found => ?_
    cases found with
    | true => exact .pure _
    | false => exact .bind (fun _ => rfl) fun _ => .pure _
  refine .bind chooses fun chosen =>
    .bind (.attempt (mirrors_ask (mirrors.lookup target origin chosen))) ?_
  rintro (fault | pose)
  · dsimp only
    split
    · exact .bind (.log _) fun _ => .pure _
    · exact .fail fault
  · exact .pure _

end Ingest.PoseDesk

namespace Coordinator

variable {guise : Guise ε τ π ε' τ' π'}

/-! ## Asking the components -/

theorem mirrors_onPoses {action : Act (PoseDesk τ) α} {image : Act (PoseDesk τ') α}
    (mirrors : Act.Mirrors (PoseDesk.through guise.source) action image) :
    Act.Mirrors (through guise) (onPoses action) (onPoses image) :=
  .onPart (fun _ => rfl) (fun _ _ => rfl) mirrors

theorem mirrors_askEngine {call : Call ε α} {image : Call ε' α}
    (mirrors : Call.Mirrors guise.engine call image) :
    Act.Mirrors (through guise) (askEngine call) (askEngine image) :=
  .ask (fun _ => rfl) (fun _ _ => rfl) mirrors

theorem mirrors_tryEngine {call : Call ε α} {image : Call ε' α}
    (mirrors : Call.Mirrors guise.engine call image) :
    Act.Mirrors (through guise) (tryEngine call) (tryEngine image) := by
  refine .bind (.attempt (mirrors_askEngine mirrors)) ?_
  rintro (fault | value)
  · dsimp only
    split
    · exact .fail fault
    · exact .pure _
  · exact .pure _

theorem mirrors_announce (observation : Observation) :
    Act.Mirrors (through guise) (announce observation) (announce observation) := by
  intro coordinator
  rw [run_announce, run_announce]
  rfl

theorem mirrors_hand {call : Call ε Unit} {image : Call ε' Unit}
    (mirrors : Call.Mirrors guise.engine call image) (stream : Stream) (frame : String)
    (observation : Observation) :
    Act.Mirrors (through guise) (hand stream frame call (announce observation))
      (hand stream frame image (announce observation)) := by
  refine .bind (mirrors_tryEngine mirrors) ?_
  rintro (fault | done)
  · exact .bind (fun _ => rfl) fun _ => .bind (.log _) fun _ => .pure _
  · refine .bind (fun _ => rfl) fun inserted => ?_
    dsimp only
    split
    · exact .bind (mirrors_announce observation) fun _ => .pure _
    · exact .pure _

theorem mirrors_fileOperation {call : Call ε Value} {image : Call ε' Value}
    (mirrors : Call.Mirrors guise.engine call image) (words path : String) :
    Act.Mirrors (through guise) (fileOperation call words path)
      (fileOperation image words path) := by
  refine .bind (mirrors_askEngine mirrors) fun answer => ?_
  dsimp only
  split
  · exact .bind (.log _) fun _ => .pure _
  · exact .pure _

theorem mirrors_markBox {call : Call ε Unit} {image : Call ε' Unit}
    (mirrors : Call.Mirrors guise.engine call image) :
    Act.Mirrors (through guise) (markBox call) (markBox image) := by
  refine .bind (mirrors_tryEngine mirrors) ?_
  rintro (fault | value)
  · exact .bind (.log _) fun _ => .pure _
  · exact .pure _

section Components

variable {components : Components ε τ π} {image : Components ε' τ' π'}
  (mirrors : components.Mirrors guise image)

include mirrors

theorem mirrors_publish (publication : Publication) :
    Act.Mirrors (through guise) (publish components publication) (publish image publication) :=
  .ask (fun _ => rfl) (fun _ _ => rfl) (mirrors.board publication)

/-! ## Observations -/

theorem mirrors_deliver (observation : Observation) (insertion : Pose Float → Insertion)
    (worldFrame : String) :
    Act.Mirrors (through guise) (deliver components observation insertion worldFrame)
      (deliver image observation insertion worldFrame) := by
  refine .bind (mirrors_onPoses (PoseDesk.mirrors_resolve mirrors.poses observation.frame
    worldFrame observation.stamp)) ?_
  rintro (none | pose)
  · exact .bind (fun _ => rfl) fun _ => .pure _
  · exact mirrors_hand (mirrors.engine.insert (insertion pose)) _ _ _

theorem mirrors_insert (observation : Observation) :
    Act.Mirrors (through guise) (insert components observation) (insert image observation) := by
  intro coordinator
  -- The two kinds of observations come to the same delivery, if they come to one.
  cases handed : observation.handOver? coordinator.calibration.readiness with
  | none =>
      rw [run_insert_unready components observation coordinator handed,
        run_insert_unready image observation (coordinator.through guise) handed]
      rfl
  | some insertion =>
      rw [run_insert_ready components observation coordinator handed,
        run_insert_ready image observation (coordinator.through guise) handed]
      exact mirrors_deliver mirrors observation insertion coordinator.worldFrame
        (bumped observation.stream .received coordinator)

/-! ## Operations on the map -/

theorem mirrors_reset : Act.Mirrors (through guise) (reset components) (reset image) :=
  .bind (mirrors_askEngine mirrors.engine.reset) fun _ => .bind (.log _) fun _ => .pure _

theorem mirrors_publishAll :
    Act.Mirrors (through guise) (publishAll components) (publishAll image) := by
  have publishes := mirrors_publish mirrors
  refine .bind_get fun coordinator => ?_
  refine .bind (mirrors_askEngine (mirrors.engine.markers _)) ?_
  rintro ⟨occupied, free⟩
  refine .bind (publishes _) fun _ => .bind (publishes _) fun _ => ?_
  refine .bind (mirrors_askEngine mirrors.engine.binaryMap) fun binary? => ?_
  refine .bind (mirrors_askEngine mirrors.engine.fullMap) fun full? => ?_
  exact .bind (publishes _) fun _ => .bind (publishes _) fun _ => .pure _

theorem mirrors_getMap : Act.Mirrors (through guise) (getMap components) (getMap image) := by
  refine .bind_get fun coordinator => ?_
  refine .bind (mirrors_askEngine mirrors.engine.fullMap) ?_
  rintro (none | snapshot)
  · exact .bind (.log _) fun _ => .pure _
  · exact .pure _

theorem mirrors_setBox (centre size : Value) (occupied : Bool) :
    Act.Mirrors (through guise) (setBox components centre size occupied)
      (setBox image centre size occupied) := by
  refine .bind (.ofExcept _) fun centre? => .bind (.ofExcept _) fun size? => ?_
  rcases centre? with none | centre
  · exact .bind (.log _) fun _ => .pure _
  rcases size? with none | size
  · exact .bind (.log _) fun _ => .pure _
  dsimp only
  split
  · exact .bind (.log _) fun _ => .pure _
  · split
    · exact mirrors_markBox (mirrors.engine.setOccupied centre size)
    · exact mirrors_markBox (mirrors.engine.setFree centre size)

end Components

theorem mirrors_configure (params : Config.ManagerParams) :
    Act.Mirrors (through guise) (configure params) (configure params) := by
  unfold configure
  split
  · exact .bind (fun _ => rfl) fun _ => .pure _
  · exact .pure _

/-- A coordinator is set up alike with components that are seen alike. -/
theorem start_through (guise : Guise ε τ π ε' τ' π') (params : Config.ManagerParams)
    (engine : ε) (source : τ) (board : π) :
    (start params (guise.engine engine) (guise.source source) (guise.board board)).state =
      (start params engine source board).state.through guise :=
  congrArg Outcome.state (mirrors_configure params (initial params engine source board))

end Coordinator

/-! ## Entries and runs -/

/-- Every entry does the same with components that mirror each other. -/
theorem Entry.mirrors_act {guise : Guise ε τ π ε' τ' π'} {components : Components ε τ π}
    {image : Components ε' τ' π'} (mirrors : components.Mirrors guise image) (entry : Entry) :
    Act.Mirrors (Coordinator.through guise) (entry.act components) (entry.act image) := by
  cases entry with
  | leftCamera camera => exact .map (fun _ => rfl) _
  | rightCamera camera => exact .map (fun _ => rfl) _
  | observe observation => exact .map (Coordinator.mirrors_insert mirrors observation) _
  | reset => exact .map (Coordinator.mirrors_reset mirrors) _
  | publishAll => exact .map (Coordinator.mirrors_publishAll mirrors) _
  | getMap => exact .map (Coordinator.mirrors_getMap mirrors) _
  | saveMap path => exact .map (Coordinator.mirrors_fileOperation (mirrors.engine.save path) _ _) _
  | loadMap path => exact .map (Coordinator.mirrors_fileOperation (mirrors.engine.load path) _ _) _
  | setBox centre size occupied =>
      exact .map (Coordinator.mirrors_setBox mirrors centre size occupied) _

end MapIngest
