import Mathlib.Data.List.Basic
import MapIngest.Coordinator.Insertion
import MapIngest.Proofs.Fallible
import MapIngest.Proofs.Ingest.Counting
import MapIngest.Proofs.Transcript

/-!
# The passage of one observation

An observation of either stream passes the coordinator in the same way.  If it
can be handed over at all, its pose is sought; if there is one, the engine is
given the observation.  The passage of an observation says how it was sighted,
what became of it, and how the engine was left.

The result, the state, and the log records of an insertion are computed from
its passage alone.  Everything that is proved about insertions is proved about
passages.
-/

namespace MapIngest

open MapIngest.Geometry Ingest Sensor Calibration

namespace Sensor

/-- An observation of either stream. -/
inductive Observation where
  | disparity (observation : DisparityObservation)
  | cloud (observation : CloudObservation)

namespace Observation

/-- The stream that an observation belongs to. -/
def stream : Observation → Stream
  | .disparity _ => .disparity
  | .cloud _ => .pointcloud

/-- The frame of the sensor. -/
def frame : Observation → String
  | .disparity observation => observation.frame
  | .cloud observation => observation.frame

/-- The stamp of an observation. -/
def stamp : Observation → Value
  | .disparity observation => observation.stamp
  | .cloud observation => observation.stamp

/--
What the engine is given with a pose, if the observation can be handed over at
all: a disparity image needs a calibration, and takes the matrix and the size
from it.
-/
def handOver? (readiness : Readiness) : Observation → Option (Pose Float → Insertion)
  | .disparity observation =>
    readiness.working?.map fun working pose =>
      .disparity pose observation.image working.matrix working.size
  | .cloud observation => some fun pose => .points pose observation.points

/-- The record that announces an observation, if its size can be told. -/
def announcement : Observation → Except Fault LogRecord
  | .disparity observation => do
    let width ← observation.image.width
    let height ← observation.image.height
    return Coordinator.firstDisparity observation.frame width height
  | .cloud observation => do
    let points ← observation.points.length
    return Coordinator.firstCloud observation.frame points

/-- A disparity image has two dimensions, and points have a length. -/
def Shaped : Observation → Prop
  | .disparity observation => observation.image.pixels.shape.length = 2
  | .cloud observation => ∃ count, observation.points.length = .ok count

theorem Shaped.announceable {observation : Observation} (shaped : observation.Shaped) :
    ∃ record, observation.announcement = .ok record := by
  cases observation with
  | disparity observation =>
      have planar : observation.image.pixels.shape.length = 2 := shaped
      rcases List.length_eq_two.mp planar with ⟨height, width, dimensions⟩
      have wide : observation.image.width = .ok width := by
        simp [DisparityImage.width, extentAt, dimensions]
      have high : observation.image.height = .ok height := by
        simp [DisparityImage.height, extentAt, dimensions]
      exact ⟨_, bind_eq_ok.mpr ⟨width, wide, bind_eq_ok.mpr ⟨height, high, rfl⟩⟩⟩
  | cloud observation =>
      rcases shaped with ⟨count, counted⟩
      exact ⟨_, bind_eq_ok.mpr ⟨count, counted, rfl⟩⟩

/-- Only a disparity image has to wait, and only for a calibration. -/
theorem handOver?_eq_none_iff (observation : Observation) (readiness : Readiness) :
    observation.handOver? readiness = none ↔
      observation.stream = .disparity ∧ readiness.isReady = false := by
  cases observation with
  | disparity observation => simp [handOver?, stream, Readiness.isReady]
  | cloud observation => simp [handOver?, stream]

/-- An observation is handed over to its own stream. -/
theorem handOver?_stream {observation : Observation} {readiness : Readiness}
    {insertion : Pose Float → Insertion}
    (handed : observation.handOver? readiness = some insertion) (pose : Pose Float) :
    (insertion pose).stream = observation.stream := by
  cases observation with
  | disparity observation =>
      rcases Option.map_eq_some_iff.mp handed with ⟨working, -, rfl⟩
      rfl
  | cloud observation =>
      obtain rfl := Option.some.inj handed
      rfl

/-- A disparity image is handed over with what the calibration has come to. -/
theorem working?_of_handOver? {observation : Observation} {readiness : Readiness}
    {insertion : Pose Float → Insertion} {placed pose : Pose Float} {image : DisparityImage}
    {matrix : Mat4 Float} {size : Int × Int}
    (handed : observation.handOver? readiness = some insertion)
    (given : insertion placed = .disparity pose image matrix size) :
    readiness.working? = some ⟨matrix, size⟩ := by
  cases observation with
  | disparity observation =>
      rcases Option.map_eq_some_iff.mp handed with ⟨working, known, rfl⟩
      cases given
      exact known
  | cloud observation =>
      obtain rfl := Option.some.inj handed
      cases given

end Observation

end Sensor

/-- What became of an observation. -/
inductive Verdict where
  | notReady
  | noPose (fault : Fault)
  | engineError (fault : Fault)
  | inserted

namespace Verdict

/-- The counter that a verdict raises. -/
def counter : Verdict → Counter
  | .notReady => .notReady
  | .noPose _ => .noPose
  | .engineError _ => .engineError
  | .inserted => .inserted

/-- The verdict of the engine. -/
def ofAnswer : Except Fault Unit → Verdict
  | .ok _ => .inserted
  | .error fault => .engineError fault

/-- Whether the observation reached the engine. -/
def isInserted : Verdict → Bool
  | .inserted => true
  | _ => false

theorem counter_eq_inserted_iff (verdict : Verdict) :
    verdict.counter = .inserted ↔ verdict.isInserted = true := by
  cases verdict <;> simp [counter, isInserted]

end Verdict

/-- How an observation was sighted, what became of it, and the engine after it. -/
structure Passage (ε τ : Type) where
  sighting? : Option (Sighting τ)
  verdict : Verdict
  engine : ε

namespace Coordinator

variable {ε τ π : Type}

/-- Insert an observation of either stream. -/
def insert (components : Components ε τ π) : Observation → Act (Coordinator ε τ π) Bool
  | .disparity observation => insertDisparity components observation
  | .cloud observation => insertCloud components observation

/-- Announce an observation of either stream. -/
def announce : Observation → Act (Coordinator ε τ π) Unit
  | .disparity observation => announceDisparity observation
  | .cloud observation => announceCloud observation

/-- The sighting of an observation, if one is made. -/
def sightingOf (components : Components ε τ π) (observation : Observation)
    (coordinator : Coordinator ε τ π) : Sighting τ :=
  components.poses.sight coordinator.worldFrame observation.frame observation.stamp
    coordinator.source

/-- The passage of an observation. -/
def passage (components : Components ε τ π) (observation : Observation)
    (coordinator : Coordinator ε τ π) : Passage ε τ :=
  match observation.handOver? coordinator.calibration.readiness with
  | none => ⟨none, .notReady, coordinator.engine⟩
  | some insertion =>
    let sighting := sightingOf components observation coordinator
    match sighting.answer with
    | .error fault => ⟨some sighting, .noPose fault, coordinator.engine⟩
    | .ok pose =>
      let answered := components.engine.insert (insertion pose) coordinator.engine
      ⟨some sighting, .ofAnswer answered.1, answered.2⟩

section Cases

variable (components : Components ε τ π) {observation : Observation}
  (coordinator : Coordinator ε τ π)

theorem passage_unready
    (unready : observation.handOver? coordinator.calibration.readiness = none) :
    passage components observation coordinator = ⟨none, .notReady, coordinator.engine⟩ := by
  simp only [passage, unready]

variable {insertion : Pose Float → Insertion}
  (ready : observation.handOver? coordinator.calibration.readiness = some insertion)

include ready

theorem passage_unplaced {fault : Fault}
    (missing : (sightingOf components observation coordinator).answer = .error fault) :
    passage components observation coordinator =
      ⟨some (sightingOf components observation coordinator), .noPose fault,
        coordinator.engine⟩ := by
  simp only [passage, ready, missing]

theorem passage_placed {pose : Pose Float}
    (placed : (sightingOf components observation coordinator).answer = .ok pose) :
    passage components observation coordinator =
      ⟨some (sightingOf components observation coordinator),
        .ofAnswer (components.engine.insert (insertion pose) coordinator.engine).1,
        (components.engine.insert (insertion pose) coordinator.engine).2⟩ := by
  simp only [passage, ready, placed]

end Cases

end Coordinator

namespace Passage

variable {ε τ π : Type}

/-- The counts with the stand-in of a sighting, if there was one and it is counted. -/
def noted (sighting? : Option (Sighting τ)) (counted : Bool) (stats : Stats) : Stats :=
  match sighting? with
  | some sighting => if counted then noteStamp sighting.found stats else stats
  | none => stats

@[simp]
theorem get_noted (sighting? : Option (Sighting τ)) (counted : Bool) (stats : Stats)
    (stream : Stream) (counter : Counter) :
    (noted sighting? counted stats).get stream counter = stats.get stream counter := by
  cases sighting? with
  | none => rfl
  | some sighting => cases counted <;> simp [noted]

/-- The counts after a passage. -/
def count (passage : Passage ε τ) (stream : Stream) (counted : Bool) (stats : Stats) :
    Stats :=
  (noted passage.sighting? counted (stats.bumped stream .received)).bumped stream
    passage.verdict.counter

/-- A passage raises the count of received observations and the one of its verdict. -/
theorem get_count (passage : Passage ε τ) (stream asked : Stream) (counted : Bool)
    (stats : Stats) (wanted : Counter) :
    (passage.count stream counted stats).get asked wanted =
      stats.get asked wanted + (if stream = asked ∧ .received = wanted then 1 else 0) +
        if stream = asked ∧ passage.verdict.counter = wanted then 1 else 0 := by
  simp [count, Stats.get_bumped]

/-- The coordinator after the passage of an observation. -/
def leave (passage : Passage ε τ) (stream : Stream) (coordinator : Coordinator ε τ π) :
    Coordinator ε τ π :=
  { coordinator with
    source := (passage.sighting?.map Sighting.source).getD coordinator.source
    engine := passage.engine
    stats := passage.count stream coordinator.countsFallbacks coordinator.stats }

/-- What is returned, given the announcement if it is due. -/
def result (passage : Passage ε τ) (announcement? : Option (Except Fault LogRecord)) :
    Except Fault Bool :=
  match passage.verdict, announcement? with
  | .inserted, some announcement => announcement.map fun _ => true
  | .inserted, none => .ok true
  | _, _ => .ok false

/-- An observation that can be announced is told whether it reached the engine. -/
theorem result_of_announced (passage : Passage ε τ)
    {announcement? : Option (Except Fault LogRecord)}
    (announced : ∀ announcement, announcement? = some announcement →
      ∃ record, announcement = .ok record) :
    passage.result announcement? = .ok passage.verdict.isInserted := by
  rcases passage with ⟨sighting?, verdict, engine⟩
  cases verdict with
  | notReady => rfl
  | noPose fault => rfl
  | engineError fault => rfl
  | inserted =>
      cases announcement? with
      | none => rfl
      | some announcement =>
          rcases announced announcement rfl with ⟨record, rfl⟩
          rfl

/-- What is reported about a verdict, given the announcement if it is due. -/
def verdictRecords (verdict : Verdict) (stream : Stream) (frame : String)
    (announcement? : Option (Except Fault LogRecord)) : List LogRecord :=
  match verdict with
  | .notReady => [Coordinator.notReadyRecord]
  | .noPose _ => []
  | .engineError fault => [Coordinator.insertionFailed stream frame fault]
  | .inserted => (announcement?.bind Except.toOption).toList

/-- What is reported about a passage. -/
def records (passage : Passage ε τ) (stream : Stream) (frame : String)
    (announcement? : Option (Except Fault LogRecord)) : List LogRecord :=
  ((passage.sighting?.map Sighting.records).getD []) ++
    verdictRecords passage.verdict stream frame announcement?

end Passage

namespace Coordinator

variable {ε τ π : Type}

/-- The announcement of an observation, if it is the first one inserted. -/
def announcementDue (observation : Observation) (stats : Stats) :
    Option (Except Fault LogRecord) :=
  if stats.get observation.stream .inserted = 0 then some observation.announcement else none

/-! ## The steps of an insertion -/

/-- A coordinator with one count raised. -/
def bumped (stream : Stream) (counter : Counter) (coordinator : Coordinator ε τ π) :
    Coordinator ε τ π :=
  { coordinator with stats := coordinator.stats.bumped stream counter }

theorem run_count (stream : Stream) (counter : Counter) (coordinator : Coordinator ε τ π) :
    (count stream counter).run coordinator =
      ⟨.ok (coordinator.stats.get stream counter + 1), coordinator.bumped stream counter,
        []⟩ := rfl

theorem run_announce (observation : Observation) (coordinator : Coordinator ε τ π) :
    (announce observation).run coordinator =
      ⟨observation.announcement.map fun _ => (), coordinator,
        observation.announcement.toOption.toList⟩ := by
  cases observation with
  | disparity observation =>
      simp only [announce, announceDisparity, Observation.announcement]
      cases observation.image.width with
      | error fault => rfl
      | ok width => cases observation.image.height <;> rfl
  | cloud observation =>
      simp only [announce, announceCloud, Observation.announcement]
      cases observation.points.length <;> rfl

theorem run_tryEngine (call : Call ε Unit) (coordinator : Coordinator ε τ π)
    (uninterrupted : ∀ fault, (call coordinator.engine).1 = .error fault →
      fault.kind ≠ .interrupt) :
    (tryEngine call).run coordinator =
      ⟨.ok (call coordinator.engine).1,
        { coordinator with engine := (call coordinator.engine).2 }, []⟩ := by
  cases answer : (call coordinator.engine).1 with
  | ok done => simp [tryEngine, askEngine, answer]
  | error fault => simp [tryEngine, askEngine, answer, uninterrupted fault answer]

/-- The coordinator after a sighting. -/
def saw (sighting : Sighting τ) (coordinator : Coordinator ε τ π) : Coordinator ε τ π :=
  { coordinator with
    source := sighting.source
    stats := Passage.noted (some sighting) coordinator.countsFallbacks coordinator.stats }

theorem withPoseDesk_saw (sighting : Sighting τ) (coordinator : Coordinator ε τ π) :
    withPoseDesk (coordinator.poseDesk.saw sighting) coordinator =
      coordinator.saw sighting := by
  cases counted : coordinator.countsFallbacks <;>
    simp [withPoseDesk, poseDesk, PoseDesk.saw, saw, Passage.noted, counted]

/-- An interruption of the engine is passed on at once. -/
theorem run_hand_interrupted (observation : Observation) (call : Call ε Unit)
    (coordinator : Coordinator ε τ π) {fault : Fault}
    (failed : (call coordinator.engine).1 = .error fault) (interrupt : fault.kind = .interrupt) :
    (hand observation.stream observation.frame call (announce observation)).run coordinator =
      ⟨.error fault, { coordinator with engine := (call coordinator.engine).2 }, []⟩ := by
  simp [hand, tryEngine, askEngine, failed, interrupt]

/-- Handing over to the engine: the verdict is the answer of the engine. -/
theorem run_hand (observation : Observation) (call : Call ε Unit)
    (coordinator : Coordinator ε τ π)
    (uninterrupted : ∀ fault, (call coordinator.engine).1 = .error fault →
      fault.kind ≠ .interrupt) :
    (hand observation.stream observation.frame call (announce observation)).run coordinator =
      let verdict := Verdict.ofAnswer (call coordinator.engine).1
      let announcement? := announcementDue observation coordinator.stats
      ⟨Passage.result (⟨none, verdict, (call coordinator.engine).2⟩ : Passage ε τ)
          announcement?,
        bumped observation.stream verdict.counter
          { coordinator with engine := (call coordinator.engine).2 },
        Passage.verdictRecords verdict observation.stream observation.frame
          announcement?⟩ := by
  simp only [hand, Act.run_bind, run_tryEngine call coordinator uninterrupted, Act.follow_ok]
  cases (call coordinator.engine).1 with
  | error fault =>
      simp [run_count, Verdict.ofAnswer, Verdict.counter, Passage.result,
        Passage.verdictRecords, Except.map]
  | ok done =>
      simp only [Act.run_bind, run_count, Act.follow_ok, Act.run_ite, run_announce,
        Verdict.ofAnswer, Verdict.counter, announcementDue]
      by_cases first : coordinator.stats.get observation.stream .inserted = 0
      · rw [if_pos first, if_pos (by omega)]
        cases observation.announcement <;> rfl
      · rw [if_neg first, if_neg (by omega)]
        rfl

/-- Seek the pose of an observation, and hand the observation over if there is one. -/
def deliver (components : Components ε τ π) (observation : Observation)
    (insertion : Pose Float → Insertion) (worldFrame : String) :
    Act (Coordinator ε τ π) Bool := do
  match ← onPoses (PoseDesk.resolve components.poses observation.frame worldFrame
      observation.stamp) with
  | none => drop observation.stream .noPose
  | some pose =>
    hand observation.stream observation.frame (components.engine.insert (insertion pose))
      (announce observation)

/-- An observation that cannot be handed over is dropped at once. -/
theorem run_insert_unready (components : Components ε τ π) (observation : Observation)
    (coordinator : Coordinator ε τ π)
    (unready : observation.handOver? coordinator.calibration.readiness = none) :
    (insert components observation).run coordinator =
      ⟨.ok false,
        bumped observation.stream .notReady (bumped observation.stream .received coordinator),
        [notReadyRecord]⟩ := by
  cases observation with
  | disparity observation =>
      have waiting : coordinator.calibration.readiness.working? = none :=
        Option.map_eq_none_iff.mp unready
      simp only [insert, insertDisparity, Act.run_bind, run_count, Act.follow_ok, Act.run_get]
      rw [show (bumped .disparity .received coordinator).calibration.readiness.working? = none
        from waiting]
      rfl
  | cloud observation => cases unready

/-- An observation that can be handed over is delivered. -/
theorem run_insert_ready (components : Components ε τ π) (observation : Observation)
    (coordinator : Coordinator ε τ π) {insertion : Pose Float → Insertion}
    (ready : observation.handOver? coordinator.calibration.readiness = some insertion) :
    (insert components observation).run coordinator =
      (deliver components observation insertion coordinator.worldFrame).run
        (bumped observation.stream .received coordinator) := by
  cases observation with
  | disparity observation =>
      rcases Option.map_eq_some_iff.mp ready with ⟨working, known, rfl⟩
      simp only [insert, insertDisparity, Act.run_bind, run_count, Act.follow_ok, Act.run_get]
      rw [show (bumped .disparity .received coordinator).calibration.readiness.working? =
        some working from known]
      rfl
  | cloud observation =>
      obtain rfl := Option.some.inj ready
      simp only [insert, insertCloud, Act.run_bind, run_count, Act.follow_ok, Act.run_get]
      rfl

/-- Every sighting of a passage obeys. -/
def Obeys (components : Components ε τ π) (observation : Observation)
    (coordinator : Coordinator ε τ π) : Prop :=
  (observation.handOver? coordinator.calibration.readiness).isSome →
    (sightingOf components observation coordinator).Obeys

theorem obeys_of_reliable {components : Components ε τ π}
    (reliable : components.poses.Reliable) (observation : Observation)
    (coordinator : Coordinator ε τ π) : Obeys components observation coordinator :=
  fun _ => reliable.sight _ _ _ _

/-- Without an answer to the first question, only the source has changed. -/
theorem run_resolve_unanswered (components : Components ε τ π) (observation : Observation)
    (coordinator : Coordinator ε τ π) {fault : Fault}
    (failed : (sightingOf components observation coordinator).found = .error fault) :
    (onPoses (PoseDesk.resolve components.poses observation.frame coordinator.worldFrame
        observation.stamp)).run coordinator =
      ⟨.error fault,
        { coordinator with
          source := (components.poses.canTransform coordinator.worldFrame observation.frame
            observation.stamp coordinator.source).2 },
        []⟩ := by
  rw [onPoses, Act.run_onPart,
    PoseDesk.resolve_unanswered components.poses _ _ _ coordinator.poseDesk failed]
  cases counted : coordinator.countsFallbacks <;> simp [withPoseDesk, poseDesk, counted]

/-- With an answer to the first question, the sighting says everything. -/
theorem run_resolve_answered (components : Components ε τ π) (observation : Observation)
    (coordinator : Coordinator ε τ π) {found : Bool}
    (answered : (sightingOf components observation coordinator).found = .ok found) :
    (onPoses (PoseDesk.resolve components.poses observation.frame coordinator.worldFrame
        observation.stamp)).run coordinator =
      ⟨(sightingOf components observation coordinator).result,
        coordinator.saw (sightingOf components observation coordinator),
        (sightingOf components observation coordinator).records⟩ := by
  rw [onPoses, Act.run_onPart,
    PoseDesk.resolve_answered components.poses _ _ _ coordinator.poseDesk answered]
  exact congrArg (fun state => Outcome.mk _ state _) (withPoseDesk_saw _ coordinator)

/-- Seeking the pose of an observation, if the sighting obeys. -/
theorem run_resolve (components : Components ε τ π) (observation : Observation)
    (coordinator : Coordinator ε τ π)
    (obeys : (sightingOf components observation coordinator).Obeys) :
    (onPoses (PoseDesk.resolve components.poses observation.frame coordinator.worldFrame
        observation.stamp)).run coordinator =
      ⟨.ok (sightingOf components observation coordinator).answer.toOption,
        coordinator.saw (sightingOf components observation coordinator),
        (sightingOf components observation coordinator).records⟩ := by
  rcases obeys.found with ⟨found, answered⟩
  rw [run_resolve_answered components observation coordinator answered, obeys.result_eq]

/-- Being received and sighted makes no difference to what is announced. -/
theorem announcementDue_saw (observation : Observation) (sighting : Sighting τ)
    (coordinator : Coordinator ε τ π) :
    announcementDue observation
        (saw sighting (bumped observation.stream .received coordinator)).stats =
      announcementDue observation coordinator.stats := by
  simp [announcementDue, saw, bumped, Stats.get_bumped]

/--
What an insertion returns, leaves and reports, if its sighting obeys and the
engine is not interrupted.
-/
theorem run_insert (components : Components ε τ π) (observation : Observation)
    (coordinator : Coordinator ε τ π) (obeys : Obeys components observation coordinator)
    (uninterrupted : components.engine.Uninterrupted) :
    (insert components observation).run coordinator =
      ⟨(passage components observation coordinator).result
          (announcementDue observation coordinator.stats),
        (passage components observation coordinator).leave observation.stream coordinator,
        (passage components observation coordinator).records observation.stream
          observation.frame (announcementDue observation coordinator.stats)⟩ := by
  cases handed : observation.handOver? coordinator.calibration.readiness with
  | none =>
      rw [run_insert_unready components observation coordinator handed,
        passage_unready components coordinator handed]
      rfl
  | some insertion =>
      have resolved : (onPoses (PoseDesk.resolve components.poses observation.frame
          coordinator.worldFrame observation.stamp)).run
            (bumped observation.stream .received coordinator) =
          ⟨.ok (sightingOf components observation coordinator).answer.toOption,
            saw (sightingOf components observation coordinator)
              (bumped observation.stream .received coordinator),
            (sightingOf components observation coordinator).records⟩ :=
        run_resolve components observation (bumped observation.stream .received coordinator)
          (obeys (by rw [handed]; rfl))
      rw [run_insert_ready components observation coordinator handed, deliver, Act.run_bind,
        resolved]
      cases answer : (sightingOf components observation coordinator).answer with
      | error fault =>
          rw [passage_unplaced components coordinator handed answer]
          simp only [Except.toOption, Act.follow_ok, drop, Act.run_bind, run_count, Act.run_pure]
          rfl
      | ok pose =>
          have handedOver := run_hand observation (components.engine.insert (insertion pose))
            (saw (sightingOf components observation coordinator)
              (bumped observation.stream .received coordinator))
            (uninterrupted (insertion pose) coordinator.engine)
          rw [announcementDue_saw] at handedOver
          rw [passage_placed components coordinator handed answer]
          simp only [Except.toOption, Act.follow_ok, handedOver]
          rfl

/-- An insertion tells whether the observation reached the engine. -/
theorem result_insert {components : Components ε τ π} {observation : Observation}
    {coordinator : Coordinator ε τ π} (obeys : Obeys components observation coordinator)
    (uninterrupted : components.engine.Uninterrupted)
    (shaped : observation.Shaped) :
    ((insert components observation).run coordinator).result =
      .ok (passage components observation coordinator).verdict.isInserted := by
  rw [run_insert components observation coordinator obeys uninterrupted]
  refine Passage.result_of_announced _ ?_
  intro announcement due
  unfold announcementDue at due
  split at due
  · exact Option.some.inj due ▸ shaped.announceable
  · cases due

/-- An insertion returns exactly if its sighting obeys. -/
theorem insert_isOk_iff {components : Components ε τ π} {observation : Observation}
    {coordinator : Coordinator ε τ π} (uninterrupted : components.engine.Uninterrupted)
    (shaped : observation.Shaped) :
    (∃ inserted, ((insert components observation).run coordinator).result =
        .ok inserted) ↔
      Obeys components observation coordinator := by
  constructor
  -- What fails while a pose is sought is not caught further out, so it was found or missed.
  · rintro ⟨inserted, returned⟩ ready
    rcases Option.isSome_iff_exists.mp ready with ⟨insertion, handed⟩
    rw [run_insert_ready components observation coordinator handed, deliver,
      Act.run_bind] at returned
    have found := Act.follow_isOk returned
    exact (PoseDesk.resolve_isOk_iff components.poses observation.frame
      coordinator.worldFrame observation.stamp
      (bumped observation.stream .received coordinator).poseDesk).mp found
  · intro obeys
    exact ⟨_, result_insert obeys uninterrupted shaped⟩

end Coordinator

end MapIngest
