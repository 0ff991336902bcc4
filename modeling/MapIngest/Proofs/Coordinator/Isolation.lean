import MapIngest.Proofs.Coordinator.Conservation

/-!
# Point clouds by themselves

The two streams share the source of poses, the counts, the engine and the log.
Of all this, a stream has a lane of its own: its counts and the insertions that
the engine was asked for on its behalf.  Whatever does not bring an observation
of a stream leaves its lane as it is.

What becomes of a point cloud is known from its lane alone, if the source of
poses and the engine answer without regard to what they were asked before.  So
two runs with the same point clouds treat them alike, whatever else they are
entered with, and whatever calibration they begin with.
-/

namespace MapIngest

open MapIngest.Geometry Ingest Sensor Calibration

variable {ε τ π α : Type}

/-- A source of poses whose answers do not depend on what it was asked before. -/
structure Ingest.PoseSource.Memoryless (poses : PoseSource τ) : Prop where
  canTransform : ∀ target origin stamp first second,
    (poses.canTransform target origin stamp first).1 =
      (poses.canTransform target origin stamp second).1
  lookup : ∀ target origin stamp first second,
    (poses.lookup target origin stamp first).1 = (poses.lookup target origin stamp second).1

theorem Ingest.PoseSource.Memoryless.recorded {poses : PoseSource τ}
    (memoryless : poses.Memoryless) : poses.recorded.Memoryless where
  canTransform target origin stamp first second :=
    memoryless.canTransform target origin stamp first.inner second.inner
  lookup target origin stamp first second :=
    memoryless.lookup target origin stamp first.inner second.inner

/-- An engine that takes points or fails to without regard to what it was asked before. -/
def MapEngine.TakesPointsAlike (engine : MapEngine ε) : Prop :=
  ∀ pose points first second,
    (engine.insertPoints pose points first).1 = (engine.insertPoints pose points second).1

/-- What one stream reads and writes of a coordinator. -/
structure Lane where
  worldFrame : String
  counts : StreamCounts
  /-- The insertions of the stream, with the answers of the engine. -/
  insertions : List (Insertion × Except Fault Unit)

namespace Coordinator

/-- The insertions of one stream, with the answers of the engine. -/
def insertionsOf (stream : Stream) (coordinator : RecordedCoordinator ε τ π) :
    List (Insertion × Except Fault Unit) :=
  coordinator.insertions.filter fun exchange => exchange.1.stream = stream

/-- The lane of a stream. -/
def lane (stream : Stream) (coordinator : RecordedCoordinator ε τ π) : Lane where
  worldFrame := coordinator.worldFrame
  counts := coordinator.stats.counts stream
  insertions := coordinator.insertionsOf stream

/-- An insertion appears in the lane of its own stream. -/
theorem lane_insertion (stream : Stream) (insertion : Insertion) (call : Call ε Unit)
    (coordinator : RecordedCoordinator ε τ π) :
    ((askEngine (Recorded.call (.insertion insertion) call)).run coordinator).state.lane stream =
      { coordinator.lane stream with
        insertions := (coordinator.lane stream).insertions ++
          if insertion.stream = stream then
            [(insertion, (call coordinator.engine.inner).1)]
          else
            [] } := by
  by_cases own : insertion.stream = stream <;>
    simp [askEngine, lane, insertionsOf, insertions, List.filterMap_append,
      EngineExchange.insertion?, own]

/-! ## Finding a pose -/

/-- Finding a pose counts no observation. -/
theorem keeps_resolve (poses : PoseSource τ) (origin target : String) (stamp : Value)
    (stream : Stream) :
    Act.Keeps (fun desk : PoseDesk τ => desk.stats?.map fun stats => stats.counts stream)
      (PoseDesk.resolve poses origin target stamp) := by
  have notes : Act.Keeps
      (fun desk : PoseDesk τ => desk.stats?.map fun stats => stats.counts stream)
      PoseDesk.noteFallback := by
    rintro ⟨source, stats?⟩
    cases stats? <;> cases stream <;> rfl
  refine .bind (.bind (fun _ => rfl) fun found => ?_) fun chosen => ?_
  · cases found with
    | true => exact .pure _
    | false => exact .bind notes fun _ => .pure _
  · refine .bind (.attempt fun _ => rfl) ?_
    rintro (fault | pose)
    · dsimp only
      split
      · exact .bind (.log _) fun _ => .pure _
      · exact .fail fault
    · exact .pure _

theorem keeps_onPoses {action : Act (PoseDesk (Recorded τ PoseExchange)) α} {stream : Stream}
    (keeps : Act.Keeps (fun desk : PoseDesk (Recorded τ PoseExchange) =>
      desk.stats?.map fun stats => stats.counts stream) action) :
    Act.Keeps (lane (ε := ε) (π := π) stream) (onPoses action) := by
  refine .onPart keeps ?_
  rintro coordinator ⟨source, stats?⟩ same
  cases counting : coordinator.countsFallbacks with
  | false =>
      simp only [poseDesk, counting, Bool.false_eq_true, if_false, Option.map_none,
        Option.map_eq_none_iff] at same
      simp [withPoseDesk, same, lane, insertionsOf, insertions]
  | true =>
      simp only [poseDesk, counting, if_true, Option.map_some, Option.map_eq_some_iff] at same
      rcases same with ⟨stats, rfl, counts⟩
      simp [withPoseDesk, counts, lane, insertionsOf, insertions]

/-- A source without a memory gives the same pose, whatever it was asked before. -/
theorem result_resolve {poses : PoseSource τ} (memoryless : poses.Memoryless)
    (origin target : String) (stamp : Value) (first second : PoseDesk τ) :
    ((PoseDesk.resolve poses origin target stamp).run first).result =
      ((PoseDesk.resolve poses origin target stamp).run second).result := by
  have found := memoryless.canTransform target origin stamp first.source second.source
  cases answered : (poses.canTransform target origin stamp second.source).1 with
  | error fault =>
      rw [answered] at found
      rw [PoseDesk.resolve_unanswered poses _ _ _ first found,
        PoseDesk.resolve_unanswered poses _ _ _ second answered]
  | ok known =>
      rw [answered] at found
      rw [PoseDesk.resolve_answered poses _ _ _ first found,
        PoseDesk.resolve_answered poses _ _ _ second answered]
      have looked := memoryless.lookup target origin (stampFor (.ok known) stamp)
        (poses.canTransform target origin stamp first.source).2
        (poses.canTransform target origin stamp second.source).2
      simp only [Sighting.result, PoseSource.sight, found, answered, looked]

/-! ## The other stream -/

section Other

variable {stream other : Stream} (apart : other ≠ stream)

include apart

theorem lane_bumped (counter : Counter) (coordinator : RecordedCoordinator ε τ π) :
    (coordinator.bumped other counter).lane stream = coordinator.lane stream := by
  simp [lane, bumped, Stats.bumped, Stats.set, Stats.counts_setCounts, apart, insertionsOf,
    insertions]

theorem keeps_count (counter : Counter) :
    Act.Keeps (lane stream) (count (ε := Recorded ε EngineExchange)
      (τ := Recorded τ PoseExchange) (π := π) other counter) :=
  lane_bumped apart counter

theorem keeps_tryInsertion (insertion : Insertion) (belongs : insertion.stream = other)
    (call : Call ε Unit) :
    Act.Keeps (lane stream)
      (tryEngine (Recorded.call (.insertion insertion) call) :
        Act (RecordedCoordinator ε τ π) (Except Fault Unit)) := by
  refine keeps_tryEngine fun coordinator => ?_
  rw [lane_insertion, belongs, if_neg apart, List.append_nil]

/-- An observation of another stream leaves the lane of a stream as it is. -/
theorem keeps_insert (components : Components ε τ π) {observation : Observation}
    (elsewhere : observation.stream = other) :
    Act.Keeps (lane stream) (insert components.recorded observation) := by
  subst elsewhere
  intro coordinator
  cases handed : observation.handOver? coordinator.calibration.readiness with
  | none =>
      rw [run_insert_unready components.recorded observation coordinator handed,
        lane_bumped apart, lane_bumped apart]
  | some insertion =>
      rw [run_insert_ready components.recorded observation coordinator handed]
      have delivers : Act.Keeps (lane stream) (deliver components.recorded observation insertion
          coordinator.worldFrame) := by
        refine .bind (keeps_onPoses (keeps_resolve _ _ _ _ stream)) ?_
        rintro (none | pose)
        · exact .bind (keeps_count apart _) fun _ => .pure _
        · have recorded := components.engine.recorded_insert (insertion pose)
          dsimp only [Components.recorded]
          rw [recorded]
          refine .bind (keeps_tryInsertion apart _ (Observation.handOver?_stream handed pose) _) ?_
          rintro (fault | done)
          · exact .bind (keeps_count apart _) fun _ => .bind (.log _) fun _ => .pure _
          · refine .bind (keeps_count apart _) fun inserted => ?_
            dsimp only
            split
            · exact .bind (fun before => by rw [run_announce]) fun _ => .pure _
            · exact .pure _
      exact (delivers _).trans (lane_bumped apart _ _)

end Other

/-! ## Point clouds -/

section Clouds

theorem lane_bumped_self (stream : Stream) (counter : Counter)
    (coordinator : RecordedCoordinator ε τ π) :
    (coordinator.bumped stream counter).lane stream =
      { coordinator.lane stream with
        counts := (coordinator.lane stream).counts.set counter
          ((coordinator.lane stream).counts.get counter + 1) } := by
  simp [lane, bumped, Stats.bumped, Stats.set, Stats.get, Stats.counts_setCounts, insertionsOf,
    insertions]

theorem respects_count (stream : Stream) (counter : Counter) :
    Act.Respects (lane stream) (count (ε := Recorded ε EngineExchange)
      (τ := Recorded τ PoseExchange) (π := π) stream counter) := by
  intro first second same
  rw [run_count, run_count]
  refine ⟨?_, ?_⟩
  · exact congrArg (fun lane => Except.ok (lane.counts.get counter + 1)) same
  · rw [lane_bumped_self, lane_bumped_self, same]

theorem respects_announce (observation : Observation) (stream : Stream) :
    Act.Respects (lane stream) (announce (ε := Recorded ε EngineExchange)
      (τ := Recorded τ PoseExchange) (π := π) observation) :=
  .of_keeps (fun coordinator => by rw [run_announce]) fun first second => by
    rw [run_announce, run_announce]

variable {components : Components ε τ π}

/-- The engine is given the same, and answers the same. -/
theorem respects_tryPoints {engine : MapEngine ε} (alike : engine.TakesPointsAlike)
    (pose : Pose Float) (points : Value) :
    Act.Respects (lane .pointcloud)
      (tryEngine (Recorded.call (.insertion (.points pose points))
        (engine.insertPoints pose points)) :
        Act (RecordedCoordinator ε τ π) (Except Fault Unit)) := by
  refine .bind (.attempt fun first second same => ?_) ?_
  · have answers := alike pose points first.engine.inner second.engine.inner
    refine ⟨answers, ?_⟩
    rw [lane_insertion, lane_insertion, answers, same]
  · rintro (fault | value)
    · dsimp only
      split
      · exact .fail fault
      · exact .pure _
    · exact .pure _

theorem respects_insertCloud (memoryless : components.poses.Memoryless)
    (alike : components.engine.TakesPointsAlike) (observation : CloudObservation) :
    Act.Respects (lane .pointcloud) (insert components.recorded (.cloud observation)) := by
  have delivers : ∀ worldFrame, Act.Respects (lane .pointcloud)
      (deliver components.recorded (.cloud observation)
        (fun pose => .points pose observation.points) worldFrame) := by
    intro worldFrame
    refine .bind (.of_keeps (keeps_onPoses (keeps_resolve _ _ _ _ .pointcloud)) ?_) ?_
    · intro first second
      exact result_resolve memoryless.recorded _ _ _ first.poseDesk second.poseDesk
    · rintro (none | pose)
      · exact .bind (respects_count _ _) fun _ => .pure _
      · refine .bind (respects_tryPoints alike pose observation.points) ?_
        rintro (fault | done)
        · exact .bind (respects_count _ _) fun _ => .bind (.log _) fun _ => .pure _
        · refine .bind (respects_count _ _) fun inserted => ?_
          dsimp only
          split
          · exact .bind (respects_announce _ _) fun _ => .pure _
          · exact .pure _
  intro first second same
  have framed : first.worldFrame = second.worldFrame := congrArg Lane.worldFrame same
  rw [run_insert_ready components.recorded (.cloud observation) first rfl,
    run_insert_ready components.recorded (.cloud observation) second rfl, framed]
  refine delivers _ _ _ ?_
  exact ((respects_count .pointcloud .received) first second same).2

end Clouds

/-! ## Entries and runs -/

/-- An entry that brings no observation of a stream leaves its lane as it is. -/
theorem keeps_entry (components : Components ε τ π) {stream : Stream} (entry : Entry)
    (elsewhere : entry.brings stream = false) :
    Act.Keeps (lane stream) (entry.act components.recorded) := by
  cases brought : entry.observation? with
  | none =>
      intro coordinator
      rcases entry.act_aside components brought coordinator with ⟨calibration, -, kept⟩
      exact congrArg (fun intake : Intake (Recorded τ PoseExchange) =>
        (⟨intake.worldFrame, intake.stats.counts stream, intake.insertions.filter
          fun exchange => exchange.1.stream = stream⟩ : Lane)) kept
  | some observation =>
      rw [Entry.brings_eq brought, decide_eq_false_iff_not] at elsewhere
      obtain rfl := Entry.eq_observe brought
      exact (keeps_insert elsewhere components rfl).map _

/-- An entry that brings a point cloud treats it by its lane. -/
theorem respects_entry {components : Components ε τ π}
    (memoryless : components.poses.Memoryless) (alike : components.engine.TakesPointsAlike)
    (entry : Entry) (cloud : entry.brings .pointcloud = true) :
    Act.Respects (lane .pointcloud) (entry.act components.recorded) := by
  cases brought : entry.observation? with
  | none => simp [Entry.brings_of_none brought] at cloud
  | some observation =>
      obtain rfl := Entry.eq_observe brought
      cases observation with
      | disparity observation => simp [Entry.brings_eq brought, Observation.stream] at cloud
      | cloud observation => exact (respects_insertCloud memoryless alike observation).map _

theorem lane_begun (params : Config.ManagerParams) (engine : ε) (source : τ) (board : π)
    (stream : Stream) :
    (begun params engine source board).lane stream = ⟨params.worldFrame, {}, []⟩ := by
  have empty : ({} : Stats).counts stream = {} := by cases stream <;> rfl
  rw [lane, worldFrame_begun, stats_begun, insertionsOf, insertions_begun, empty]
  rfl

/--
Two runs with the same world frame and the same point clouds, in any company,
return the same for every point cloud, ask the engine for the same insertions of
points, and count the same.  What they are set up with may differ in everything
else, the matrix of the configuration included, and so may the components.
-/
theorem clouds_independent (components : Components ε τ π)
    (memoryless : components.poses.Memoryless) (alike : components.engine.TakesPointsAlike)
    (params others : Config.ManagerParams) (framed : params.worldFrame = others.worldFrame)
    (engine engine' : ε) (source source' : τ) (board board' : π) (entries entries' : List Entry)
    (clouds : entries.filter (Entry.brings .pointcloud) =
      entries'.filter (Entry.brings .pointcloud)) :
    let first := begun params engine source board
    let second := begun others engine' source' board'
    let act := Entry.act components.recorded
    Run.heard act (Entry.brings .pointcloud) first entries =
        Run.heard act (Entry.brings .pointcloud) second entries' ∧
      (Run.after act first entries).insertionsOf .pointcloud =
        (Run.after act second entries').insertionsOf .pointcloud ∧
      (Run.after act first entries).stats.pointcloud =
        (Run.after act second entries').stats.pointcloud := by
  intro first second act
  have same : first.lane .pointcloud = second.lane .pointcloud := by
    rw [lane_begun, lane_begun, framed]
  rcases Run.unwinding (keeps_entry components)
    (respects_entry memoryless alike) same clouds with ⟨views, heard⟩
  exact ⟨heard, congrArg Lane.insertions views, congrArg Lane.counts views⟩

/--
A point cloud after an image that comes too early, and the same one after a reset
and before an image that is taken, are both taken.
-/
theorem cloud_taken_in_any_company :
    let matrix := List.replicate 16 (1.0 : Float)
    let entries := .reset :: earlyEntries.reverse
    Components.obliging.poses.Memoryless ∧ Components.obliging.engine.TakesPointsAlike ∧
      earlyEntries.filter (Entry.brings .pointcloud) =
        entries.filter (Entry.brings .pointcloud) ∧
      Run.heard (Entry.act Components.obliging.recorded) (Entry.brings .pointcloud)
          (begun {} () () ()) earlyEntries =
        Run.heard (Entry.act Components.obliging.recorded) (Entry.brings .pointcloud)
          (begun { matrix := some matrix } () () ()) entries := by
  intro matrix entries
  have memoryless : Components.obliging.poses.Memoryless :=
    ⟨fun _ _ _ _ _ => rfl, fun _ _ _ _ _ => rfl⟩
  have alike : Components.obliging.engine.TakesPointsAlike := fun _ _ _ _ => rfl
  refine ⟨memoryless, alike, rfl, ?_⟩
  exact (clouds_independent Components.obliging memoryless alike {} { matrix := some matrix } rfl
    () () () () () () earlyEntries entries rfl).1

end Coordinator

end MapIngest
