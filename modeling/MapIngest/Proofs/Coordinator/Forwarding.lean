import MapIngest.Proofs.Coordinator.Entry

/-!
# Observations are forwarded in order

The engine is asked for insertions by observations only, and by each of them
once or not at all.  An observation is forwarded if it could be handed over
when it came and the source of poses answered its own question with a pose; it
is forwarded with that pose and with its own payload.  So the insertions of a
run are those of the forwarded observations, in the order in which they came.

A disparity image that comes before the calibration asks nothing.  Once the
calibration is ready it stays as it is, and all disparity images of a run are
inserted with the same matrix and size.
-/

namespace MapIngest

open MapIngest.Geometry Ingest Sensor Calibration

variable {ε τ π : Type}

namespace Visit

variable (visit : Visit (RecordedCoordinator ε τ π) Entry Reply)

/-- What the source of poses was asked during a visit. -/
def asked : List PoseExchange :=
  visit.outcome.state.source.transcript.drop visit.before.source.transcript.length

/-- The insertion that is due: with the payload of the visit, and the pose that it was given. -/
def due : Option Insertion := do
  let observation ← visit.input.observation?
  let insertion ← observation.handOver? visit.before.calibration.readiness
  (visit.asked.findSome? PoseExchange.pose?).map insertion

/--
During a visit the source of poses is asked exactly about an observation that
can be handed over: whether there is a pose, and then for one.
-/
def AsksOnce (worldFrame : String) : Prop :=
  match visit.input.observation? with
  | some observation =>
    match observation.handOver? visit.before.calibration.readiness with
    | some _ => ∃ found answer, visit.outcome.state.source.transcript =
        visit.before.source.transcript ++
          [.canTransform worldFrame observation.frame observation.stamp found,
            .lookup worldFrame observation.frame (stampFor found observation.stamp) answer]
    | none => visit.outcome.state.source.transcript = visit.before.source.transcript
  | none => visit.outcome.state.source.transcript = visit.before.source.transcript

end Visit

namespace Coordinator

/-- All disparity images so far were inserted with what the calibration has come to. -/
def Steady (coordinator : RecordedCoordinator ε τ π) : Prop :=
  ∀ pose image matrix size,
    .disparity pose image matrix size ∈ coordinator.insertions.map Prod.fst →
      coordinator.calibration.readiness.working? = some ⟨matrix, size⟩

end Coordinator

namespace Entry

/-- The visit of an entry. -/
def visit (components : Components ε τ π) (entry : Entry)
    (coordinator : RecordedCoordinator ε τ π) :
    Visit (RecordedCoordinator ε τ π) Entry Reply :=
  ⟨coordinator, entry, (entry.act components.recorded).run coordinator⟩

@[simp]
theorem visit_input (components : Components ε τ π) (entry : Entry)
    (coordinator : RecordedCoordinator ε τ π) :
    (entry.visit components coordinator).input = entry := rfl

@[simp]
theorem visit_before (components : Components ε τ π) (entry : Entry)
    (coordinator : RecordedCoordinator ε τ π) :
    (entry.visit components coordinator).before = coordinator := rfl

section Steps

variable {components : Components ε τ π} (reliable : components.poses.Reliable)
  (uninterrupted : components.engine.Uninterrupted)

include reliable uninterrupted

/-- An entry with an observation comes to the passage of the observation. -/
theorem state_observe (observation : Observation)
    (coordinator : RecordedCoordinator ε τ π) :
    ((Entry.observe observation).visit components coordinator).outcome.state =
      coordinator.passed components observation := by
  rw [visit, act, Act.run_map, Coordinator.run_insert components.recorded observation
    coordinator (Coordinator.obeys_of_reliable reliable.recorded observation coordinator)
    uninterrupted.recorded]
  rfl

/-- The questions that an observation asks are those of its sighting. -/
theorem asked_observe {observation : Observation} {insertion : Pose Float → Insertion}
    (coordinator : RecordedCoordinator ε τ π)
    (ready : observation.handOver? coordinator.calibration.readiness = some insertion) :
    ((Entry.observe observation).visit components coordinator).asked =
      (Coordinator.sightingOf components.recorded observation coordinator).exchanges
        coordinator.worldFrame observation.frame observation.stamp := by
  rw [Visit.asked, state_observe reliable uninterrupted,
    Coordinator.passed_asks components coordinator ready]
  exact List.drop_left

/-- Every entry asks about its observation only, and once. -/
theorem asksOnce (entry : Entry) (coordinator : RecordedCoordinator ε τ π) :
    (entry.visit components coordinator).AsksOnce coordinator.worldFrame := by
  cases brought : entry.observation? with
  | none =>
      rcases act_aside components entry brought coordinator with ⟨calibration, -, kept⟩
      simp only [Visit.AsksOnce, visit, brought]
      exact congrArg (fun intake => intake.source.transcript) kept
  | some observation =>
      obtain rfl := eq_observe brought
      have reached := state_observe reliable uninterrupted observation coordinator
      cases handed : observation.handOver? coordinator.calibration.readiness with
      | none =>
          have unasked := (Coordinator.passed_unready components coordinator handed).1
          simp only [Visit.AsksOnce, visit, brought, handed] at reached ⊢
          rw [reached, unasked]
      | some insertion =>
          have asked := Coordinator.passed_asks components coordinator handed
          simp only [Visit.AsksOnce, visit, brought, handed] at reached ⊢
          rw [reached]
          exact ⟨_, _, asked⟩

/-- Every entry adds the insertion that is due, if one is. -/
theorem insertions_visit (entry : Entry) (coordinator : RecordedCoordinator ε τ π) :
    (entry.visit components coordinator).outcome.state.insertions.map Prod.fst =
      coordinator.insertions.map Prod.fst ++
        (entry.visit components coordinator).due.toList := by
  cases brought : entry.observation? with
  | none =>
      rcases act_aside components entry brought coordinator with ⟨calibration, -, kept⟩
      have same : (entry.visit components coordinator).outcome.state.insertions =
          coordinator.insertions := congrArg Intake.insertions kept
      have nothing : (entry.visit components coordinator).due = none := by
        simp only [Visit.due, visit, brought]
        rfl
      simp [same, nothing]
  | some observation =>
      obtain rfl := eq_observe brought
      rw [state_observe reliable uninterrupted]
      cases handed : observation.handOver? coordinator.calibration.readiness with
      | none =>
          rw [(Coordinator.passed_unready components coordinator handed).2]
          simp [Visit.due, visit, brought, handed]
      | some insertion =>
          have asked := asked_observe reliable uninterrupted coordinator handed
          have due : ((Entry.observe observation).visit components coordinator).due =
              (Coordinator.sightingOf components.recorded observation
                coordinator).answer.toOption.map insertion := by
            rw [Visit.due, asked, Sighting.findSome?_exchanges]
            simp [visit, brought, handed]
          rw [due]
          cases answer : (Coordinator.sightingOf components.recorded observation
            coordinator).answer with
          | error fault =>
              rw [Coordinator.passed_unplaced components coordinator handed answer]
              simp [Except.toOption]
          | ok pose =>
              rcases Coordinator.passed_placed components coordinator handed answer
                with ⟨reply, added, -⟩
              rw [added]
              simp [Except.toOption]

/-- What a ready calibration has come to is not changed by any entry. -/
theorem latched_visit (entry : Entry) (coordinator : RecordedCoordinator ε τ π) :
    Latched coordinator.calibration
      (entry.visit components coordinator).outcome.state.calibration := by
  cases brought : entry.observation? with
  | none =>
      rcases act_aside components entry brought coordinator with ⟨calibration, latched, kept⟩
      have reached : (entry.visit components coordinator).outcome.state.calibration =
          calibration := congrArg Intake.calibration kept
      rwa [reached]
  | some observation =>
      obtain rfl := eq_observe brought
      rw [state_observe reliable uninterrupted]
      intro _
      rfl

/-- No entry changes the frame of the map. -/
theorem worldFrame_visit (entry : Entry) (coordinator : RecordedCoordinator ε τ π) :
    (entry.visit components coordinator).outcome.state.worldFrame =
      coordinator.worldFrame := by
  cases brought : entry.observation? with
  | none =>
      rcases act_aside components entry brought coordinator with ⟨calibration, -, kept⟩
      exact congrArg Intake.worldFrame kept
  | some observation =>
      obtain rfl := eq_observe brought
      rw [state_observe reliable uninterrupted]
      rfl

/-- Every entry inserts disparity images with what the calibration has come to. -/
theorem steady_visit (entry : Entry) (coordinator : RecordedCoordinator ε τ π)
    (steady : coordinator.Steady) :
    (entry.visit components coordinator).outcome.state.Steady := by
  have latched := latched_visit reliable uninterrupted entry coordinator
  intro pose image matrix size member
  rw [insertions_visit reliable uninterrupted, List.mem_append, Option.mem_toList] at member
  rcases member with earlier | due
  -- An earlier image had a ready calibration, and that one is not changed by the entry.
  · exact latched.working? (steady pose image matrix size earlier)
  · rcases Option.bind_eq_some_iff.mp due with ⟨observation, -, rest⟩
    rcases Option.bind_eq_some_iff.mp rest with ⟨insertion, handed, placed⟩
    rcases Option.map_eq_some_iff.mp placed with ⟨given, -, same⟩
    exact latched.working? (Observation.working?_of_handOver? handed same)

end Steps

end Entry

/-! ## Whole runs -/

namespace Coordinator

/--
The insertions of a run are those that were due, in order.  Every visit asks the
source of poses about its own observation only.  All disparity images were
inserted with what the calibration has come to.
-/
theorem forwarded_in_order (components : Components ε τ π) (params : Config.ManagerParams)
    (engine : ε) (source : τ) (board : π) (reliable : components.poses.Reliable)
    (uninterrupted : components.engine.Uninterrupted) (entries : List Entry) :
    let start := begun params engine source board
    let visits := Run.visits (Entry.act components.recorded) start entries
    let ended := Run.after (Entry.act components.recorded) start entries
    ended.insertions.map Prod.fst = visits.filterMap Visit.due ∧
      (∀ visit ∈ visits, visit.AsksOnce params.worldFrame) ∧
      ∀ pose image matrix size,
        .disparity pose image matrix size ∈ ended.insertions.map Prod.fst →
          ended.calibration.readiness.working? = some ⟨matrix, size⟩ := by
  intro start visits ended
  have empty : start.insertions = [] := insertions_begun params engine source board
  have initially : start.worldFrame = params.worldFrame ∧ start.Steady := by
    constructor
    · exact worldFrame_begun params engine source board
    · intro pose image matrix size member
      simp [empty] at member
  -- Entries of every kind are admitted; the invariant is the frame and steadiness.
  have keeps : ∀ (state : RecordedCoordinator ε τ π) (entry : Entry), True →
      (state.worldFrame = params.worldFrame ∧ state.Steady) →
      (((entry.act components.recorded).run state).state.worldFrame = params.worldFrame ∧
        ((entry.act components.recorded).run state).state.Steady) := by
    rintro state entry - ⟨framed, steady⟩
    exact ⟨(Entry.worldFrame_visit reliable uninterrupted entry state).trans framed,
      Entry.steady_visit reliable uninterrupted entry state steady⟩
  have admitted : ∀ entry ∈ entries, True := fun _ _ => trivial
  refine ⟨?_, ?_, ?_⟩
  · have gathered := Run.gathered (fun state => state.insertions.map Prod.fst) Visit.due keeps
      (fun state entry _ _ => Entry.insertions_visit reliable uninterrupted entry state)
      initially admitted
    simpa [empty] using gathered
  · refine Run.forall_visits keeps ?_ initially admitted
    rintro state entry - ⟨framed, -⟩
    rw [← framed]
    exact Entry.asksOnce reliable uninterrupted entry state
  · exact (Run.holds_after keeps initially admitted).2

/-- A disparity image and a point cloud, the image before any calibration. -/
def earlyEntries : List Entry :=
  [.observe (.disparity ⟨"camera", .null, ⟨⟨[0, 0], []⟩, .float 1.0, .float 1.0, .null, .null⟩⟩),
    .observe (.cloud ⟨"lidar", .null, .list []⟩)]

/-- Before any calibration, only the point cloud is forwarded. -/
theorem early_cloud_forwarded :
    Components.obliging.poses.Reliable ∧ Components.obliging.engine.Uninterrupted ∧
      (Run.after (Entry.act Components.obliging.recorded)
          (begun {} () () ()) earlyEntries).insertions.map Prod.fst =
        [.points Pose.identity (.list [])] := by
  have reliable := PoseSource.always_reliable Pose.identity
  refine ⟨reliable, MapEngine.blank_uninterrupted, ?_⟩
  exact (forwarded_in_order Components.obliging {} () () () reliable
    MapEngine.blank_uninterrupted earlyEntries).1.trans rfl

end Coordinator

end MapIngest
