import MapIngest.Coordinator.Operations
import MapIngest.Proofs.Calibration.Event
import MapIngest.Proofs.Coordinator.Passage
import MapIngest.Proofs.Run

/-!
# The entry points of a coordinator

A coordinator is entered with records of the two cameras, with observations,
and with operations on the map.  A run of a coordinator is a sequence of such
entries, in any order.

What an entry may touch depends on its sort.  A record of a camera touches the
calibration and nothing else.  An operation on the map touches the engine and
the board; whether it returns or fails, the calibration, the counts, the source
of poses and the insertions that the engine was asked for stay as they are.
-/

namespace MapIngest

open MapIngest.Geometry Ingest Sensor Calibration

/-- What a coordinator is entered with. -/
inductive Entry where
  | leftCamera (camera : Camera)
  | rightCamera (camera : Camera)
  | observe (observation : Observation)
  | reset
  | publishAll
  | getMap
  | saveMap (path : String)
  | loadMap (path : String)
  | setBox (centre size : Value) (occupied : Bool)

/-- What an entry returns. -/
inductive Reply where
  | done
  | said (answer : Bool)
  | map (snapshot? : Option Snapshot)

namespace Entry

variable {ε τ π : Type}

/-- What an entry does. -/
def act (components : Components ε τ π) : Entry → Act (Coordinator ε τ π) Reply
  | .leftCamera camera => (fun _ => .done) <$> Coordinator.onCalibration (takeLeft camera)
  | .rightCamera camera => (fun _ => .done) <$> Coordinator.onCalibration (takeRight camera)
  | .observe observation => .said <$> Coordinator.insert components observation
  | .reset => .said <$> Coordinator.reset components
  | .publishAll => .said <$> Coordinator.publishAll components
  | .getMap => .map <$> Coordinator.getMap components
  | .saveMap path => .said <$> Coordinator.saveMap components path
  | .loadMap path => .said <$> Coordinator.loadMap components path
  | .setBox centre size occupied =>
    .said <$> Coordinator.setBox components centre size occupied

/-- The observation that an entry brings, if it brings one. -/
def observation? : Entry → Option Observation
  | .observe observation => some observation
  | _ => none

theorem eq_observe {entry : Entry} {observation : Observation}
    (brought : entry.observation? = some observation) : entry = .observe observation := by
  cases entry <;> cases brought
  rfl

end Entry

/-! ## Views that operations on the map keep -/

namespace Coordinator

variable {ε τ π ν α : Type} {view : Coordinator ε τ π → ν}

/-- The questions that operations on the map ask an engine do not change a view. -/
structure AsksUnseen (view : Coordinator ε τ π → ν) (engine : MapEngine ε) : Prop where
  reset : Act.Keeps view (askEngine engine.reset)
  markers : ∀ frame, Act.Keeps view (askEngine (engine.markers frame))
  binaryMap : Act.Keeps view (askEngine engine.binaryMap)
  fullMap : Act.Keeps view (askEngine engine.fullMap)
  save : ∀ path, Act.Keeps view (askEngine (engine.save path))
  load : ∀ path, Act.Keeps view (askEngine (engine.load path))
  setOccupied : ∀ centre size, Act.Keeps view (askEngine (engine.setOccupied centre size))
  setFree : ∀ centre size, Act.Keeps view (askEngine (engine.setFree centre size))

theorem keeps_tryEngine {call : Call ε α} (asks : Act.Keeps view (askEngine call)) :
    Act.Keeps view (tryEngine call) := by
  refine .bind (.attempt asks) ?_
  rintro (fault | value)
  · dsimp only
    split
    · exact .fail fault
    · exact .pure _
  · exact .pure _

theorem keeps_fileOperation {call : Call ε Value} (asks : Act.Keeps view (askEngine call))
    (words path : String) : Act.Keeps view (fileOperation call words path) := by
  refine .bind asks fun answer => ?_
  dsimp only
  split
  · exact .bind (.log _) fun _ => .pure _
  · exact .pure _

theorem keeps_markBox {call : Call ε Unit} (asks : Act.Keeps view (askEngine call)) :
    Act.Keeps view (markBox call) := by
  refine .bind (keeps_tryEngine asks) ?_
  rintro (fault | value)
  · exact .bind (.log _) fun _ => .pure _
  · exact .pure _

section Operations

variable {components : Components ε τ π} (asks : AsksUnseen view components.engine)

include asks

theorem keeps_reset : Act.Keeps view (reset components) :=
  .bind asks.reset fun _ => .bind (.log _) fun _ => .pure _

theorem keeps_publishAll
    (publishes : ∀ publication, Act.Keeps view (publish components publication)) :
    Act.Keeps view (publishAll components) := by
  refine .bind .get fun coordinator => .bind (asks.markers _) ?_
  rintro ⟨occupied, free⟩
  refine .bind (publishes _) fun _ => .bind (publishes _) fun _ => ?_
  refine .bind asks.binaryMap fun binary? => .bind asks.fullMap fun full? => ?_
  exact .bind (publishes _) fun _ => .bind (publishes _) fun _ => .pure _

theorem keeps_getMap : Act.Keeps view (getMap components) := by
  refine .bind .get fun coordinator => .bind asks.fullMap ?_
  rintro (none | snapshot)
  · exact .bind (.log _) fun _ => .pure _
  · exact .pure _

theorem keeps_setBox (centre size : Value) (occupied : Bool) :
    Act.Keeps view (setBox components centre size occupied) := by
  refine .bind (.ofExcept _) fun centre? => .bind (.ofExcept _) fun size? => ?_
  rcases centre? with none | centre
  · exact .bind (.log _) fun _ => .pure _
  rcases size? with none | size
  · exact .bind (.log _) fun _ => .pure _
  dsimp only
  split
  · exact .bind (.log _) fun _ => .pure _
  · split
    · exact keeps_markBox (asks.setOccupied centre size)
    · exact keeps_markBox (asks.setFree centre size)

end Operations

end Coordinator

/-- The entry is an operation on the map. -/
def Entry.IsOperation : Entry → Prop
  | .leftCamera _ | .rightCamera _ | .observe _ => False
  | _ => True

/-- Operations on the map keep a view that shows none of their questions and publications. -/
theorem Entry.keeps_operation {ε τ π ν : Type} {view : Coordinator ε τ π → ν}
    {components : Components ε τ π} (asks : Coordinator.AsksUnseen view components.engine)
    {entry : Entry} (operation : entry.IsOperation)
    (publishes : entry = .publishAll → ∀ publication,
      Act.Keeps view (Coordinator.publish components publication)) :
    Act.Keeps view (entry.act components) := by
  cases entry with
  | leftCamera camera => exact operation.elim
  | rightCamera camera => exact operation.elim
  | observe observation => exact operation.elim
  | reset => exact (Coordinator.keeps_reset asks).map _
  | publishAll => exact (Coordinator.keeps_publishAll asks (publishes rfl)).map _
  | getMap => exact (Coordinator.keeps_getMap asks).map _
  | saveMap path => exact (Coordinator.keeps_fileOperation (asks.save path) _ _).map _
  | loadMap path => exact (Coordinator.keeps_fileOperation (asks.load path) _ _).map _
  | setBox centre size occupied =>
      exact (Coordinator.keeps_setBox asks centre size occupied).map _

/-! ## What operations on the map leave alone -/

/-- The parts of a coordinator that take in observations. -/
structure Intake (τ : Type) where
  worldFrame : String
  calibration : Calibration
  stats : Stats
  countsFallbacks : Bool
  source : τ
  /-- The insertions that the engine was asked for, with its answers. -/
  insertions : List (Insertion × Except Fault Unit)

namespace Coordinator

variable {ε τ π α : Type}

/-- The insertions that a recorded engine was asked for, with its answers. -/
def insertions (coordinator : Coordinator (Recorded ε EngineExchange) τ π) :
    List (Insertion × Except Fault Unit) :=
  coordinator.engine.transcript.filterMap EngineExchange.insertion?

/-- The parts of a coordinator that take in observations. -/
def intake (coordinator : Coordinator (Recorded ε EngineExchange) τ π) : Intake τ where
  worldFrame := coordinator.worldFrame
  calibration := coordinator.calibration
  stats := coordinator.stats
  countsFallbacks := coordinator.countsFallbacks
  source := coordinator.source
  insertions := coordinator.insertions

/-- A question to a recorded engine that is no insertion keeps the intake. -/
theorem keeps_askEngine (exchange : Except Fault α → EngineExchange) (call : Call ε α)
    (other : ∀ answer, (exchange answer).insertion? = none) :
    Act.Keeps intake
      (askEngine (Recorded.call exchange call) :
        Act (Coordinator (Recorded ε EngineExchange) τ π) α) := by
  intro coordinator
  simp [askEngine, intake, insertions, List.filterMap_append, other]

theorem intake_unseen (engine : MapEngine ε) :
    AsksUnseen (intake (τ := τ) (π := π)) engine.recorded where
  reset := keeps_askEngine _ _ fun _ => rfl
  markers _ := keeps_askEngine _ _ fun _ => rfl
  binaryMap := keeps_askEngine _ _ fun _ => rfl
  fullMap := keeps_askEngine _ _ fun _ => rfl
  save _ := keeps_askEngine _ _ fun _ => rfl
  load _ := keeps_askEngine _ _ fun _ => rfl
  setOccupied _ _ := keeps_askEngine _ _ fun _ => rfl
  setFree _ _ := keeps_askEngine _ _ fun _ => rfl

end Coordinator

/-! ## What entries without an observation do -/

namespace Calibration

/-- A calibration that is ready stays as ready as it is. -/
def Latched (before after : Calibration) : Prop :=
  before.readiness.isReady = true → after.readiness = before.readiness

theorem Latched.working? {before after : Calibration} (latched : Latched before after)
    {working : Working} (known : before.readiness.working? = some working) :
    after.readiness.working? = some working := by
  rw [latched (by rw [Readiness.isReady, known]; rfl), known]

theorem latched_takeLeft (camera : Camera) (calibration : Calibration) :
    Latched calibration ((takeLeft camera).run calibration).state := by
  intro ready
  simp [takeLeft, deriveIfOpen_ready { calibration with left? := some camera } ready]

theorem latched_takeRight (camera : Camera) (calibration : Calibration) :
    Latched calibration ((takeRight camera).run calibration).state := by
  intro ready
  simp [takeRight, deriveIfOpen_ready { calibration with right? := some camera } ready]

end Calibration

/-! ## Setting up -/

namespace Coordinator

variable {ε τ π : Type}

/-- A coordinator is always set up, with nothing taken in. -/
theorem start_returns (params : Config.ManagerParams) (engine : ε) (source : τ) (board : π) :
    ∃ calibration logs, start params engine source board =
      ⟨.ok (), { initial params engine source board with calibration := calibration },
        logs⟩ := by
  cases offer : params.matrix with
  | none =>
      refine ⟨(initial params engine source board).calibration, [], ?_⟩
      simp only [start, configure, offer]
      rfl
  | some numbers =>
      rcases Calibration.configure_returns (some numbers)
        (initial params engine source board).calibration with ⟨answer, answered⟩
      rcases taken : (Calibration.configure (Event.offered (some numbers))).run
        (initial params engine source board).calibration with ⟨result, calibration, logs⟩
      rw [taken] at answered
      obtain rfl : result = .ok answer := answered
      refine ⟨calibration, logs, ?_⟩
      have offered : (onCalibration (Calibration.configure
          (Value.list (numbers.map .float)))).run (initial params engine source board) =
          ⟨.ok answer,
            { initial params engine source board with calibration := calibration }, logs⟩ := by
        exact congrArg (fun outcome => Outcome.mk outcome.result
          { initial params engine source board with calibration := outcome.state }
          outcome.logs) taken
      simp only [start, configure, offer, Act.run_bind, offered, Act.follow_ok, Act.run_pure,
        List.append_nil]

/-- A coordinator that has just been set up, with empty transcripts. -/
def begun (params : Config.ManagerParams) (engine : ε) (source : τ) (board : π) :
    RecordedCoordinator ε τ π :=
  (start params ⟨engine, []⟩ ⟨source, []⟩ board).state

section Begun

variable (params : Config.ManagerParams) (engine : ε) (source : τ) (board : π)

/-- A coordinator that has just been set up has taken in nothing. -/
theorem intake_begun :
    ∃ calibration, (begun params engine source board).intake =
      ⟨params.worldFrame, calibration, {}, true, ⟨source, []⟩, []⟩ := by
  rcases start_returns params (⟨engine, []⟩ : Recorded ε EngineExchange)
    (⟨source, []⟩ : Recorded τ PoseExchange) board with ⟨calibration, logs, set⟩
  refine ⟨calibration, ?_⟩
  rw [begun, set]
  rfl

theorem worldFrame_begun :
    (begun params engine source board).worldFrame = params.worldFrame := by
  rcases intake_begun params engine source board with ⟨calibration, taken⟩
  exact congrArg Intake.worldFrame taken

theorem stats_begun : (begun params engine source board).stats = {} := by
  rcases intake_begun params engine source board with ⟨calibration, taken⟩
  exact congrArg Intake.stats taken

theorem insertions_begun : (begun params engine source board).insertions = [] := by
  rcases intake_begun params engine source board with ⟨calibration, taken⟩
  exact congrArg Intake.insertions taken

end Begun

end Coordinator

/-! ## What an observation adds to the transcripts -/

namespace Coordinator

variable {ε τ π : Type} (components : Components ε τ π) {observation : Observation}
  (coordinator : RecordedCoordinator ε τ π)

/-- The coordinator after the passage of an observation. -/
def passed (components : Components ε τ π) (observation : Observation)
    (coordinator : RecordedCoordinator ε τ π) :
    RecordedCoordinator ε τ π :=
  (passage components.recorded observation coordinator).leave observation.stream coordinator

/-- An observation that cannot be handed over makes no question. -/
theorem passed_unready
    (unready : observation.handOver? coordinator.calibration.readiness = none) :
    (coordinator.passed components observation).source = coordinator.source ∧
      (coordinator.passed components observation).insertions = coordinator.insertions := by
  rw [passed, passage_unready components.recorded coordinator unready]
  exact ⟨rfl, rfl⟩

variable {insertion : Pose Float → Insertion}
  (ready : observation.handOver? coordinator.calibration.readiness = some insertion)

include ready

/-- An observation that can be handed over asks for its pose. -/
theorem passed_asks :
    (coordinator.passed components observation).source.transcript =
      coordinator.source.transcript ++
        (sightingOf components.recorded observation coordinator).exchanges
          coordinator.worldFrame observation.frame observation.stamp := by
  have asked := components.poses.sight_recorded coordinator.worldFrame observation.frame
    observation.stamp coordinator.source
  cases answer : (sightingOf components.recorded observation coordinator).answer with
  | error fault =>
      rw [passed, passage_unplaced components.recorded coordinator ready answer]
      exact asked
  | ok pose =>
      rw [passed, passage_placed components.recorded coordinator ready answer]
      exact asked

/-- An observation without a pose is not handed over. -/
theorem passed_unplaced {fault : Fault}
    (missing : (sightingOf components.recorded observation coordinator).answer =
      .error fault) :
    (coordinator.passed components observation).insertions = coordinator.insertions := by
  rw [passed, passage_unplaced components.recorded coordinator ready missing]
  rfl

/-- An observation with a pose is handed over once, and the answer is its verdict. -/
theorem passed_placed {pose : Pose Float}
    (placed : (sightingOf components.recorded observation coordinator).answer = .ok pose) :
    ∃ answer,
      (coordinator.passed components observation).insertions =
        coordinator.insertions ++ [(insertion pose, answer)] ∧
      (passage components.recorded observation coordinator).verdict =
        Verdict.ofAnswer answer := by
  have handed := components.engine.recorded_insert (insertion pose)
  refine ⟨(components.engine.insert (insertion pose) coordinator.engine.inner).1, ?_, ?_⟩
  · rw [passed, passage_placed components.recorded coordinator ready placed]
    simp [Passage.leave, insertions, Components.recorded, handed, List.filterMap_append,
      EngineExchange.insertion?]
  · rw [passage_placed components.recorded coordinator ready placed]
    simp [Components.recorded, handed]

end Coordinator

namespace Entry

variable {ε τ π : Type}

/--
An entry without an observation changes at most the calibration of the intake,
and not what a ready calibration has come to.
-/
theorem act_aside (components : Components ε τ π) (entry : Entry)
    (aside : entry.observation? = none)
    (coordinator : RecordedCoordinator ε τ π) :
    ∃ calibration, Latched coordinator.calibration calibration ∧
      ((entry.act components.recorded).run coordinator).state.intake =
        { coordinator.intake with calibration := calibration } := by
  have unchanged : ∀ {action : Act _ Reply}, Act.Keeps Coordinator.intake action →
      ∃ calibration, Latched coordinator.calibration calibration ∧
        (action.run coordinator).state.intake =
          { coordinator.intake with calibration := calibration } :=
    fun keeps => ⟨coordinator.calibration, fun _ => rfl, keeps coordinator⟩
  cases entry with
  | leftCamera camera =>
      refine ⟨_, latched_takeLeft camera coordinator.calibration, ?_⟩
      rw [act, Act.run_map]
      rfl
  | rightCamera camera =>
      refine ⟨_, latched_takeRight camera coordinator.calibration, ?_⟩
      rw [act, Act.run_map]
      rfl
  | observe observation => cases aside
  | _ =>
      exact unchanged (keeps_operation (Coordinator.intake_unseen components.engine) trivial
        fun _ _ _ => rfl)

end Entry

end MapIngest
