import MapIngest.Proofs.Coordinator.Forwarding
import MapIngest.Proofs.Ingest.Report

/-!
# Every observation is counted once

Whatever happens in a run, every received observation of a stream is counted
once more: as inserted, or as dropped for one of three reasons.  The counts are
therefore known from the run itself.  Received are the entries that brought an
observation of the stream; inserted are those of them that returned true, and
these are as many as the insertions that the engine completed.  No point cloud
is dropped for want of a calibration, and of the disparity images exactly those
are that came before the calibration was ready.

An observation returns at all only if it can be announced: a disparity image
must have two dimensions, and points must have a length.
-/

namespace MapIngest

open MapIngest.Geometry Ingest Sensor Calibration

variable {ε τ π : Type}

/-! ## What is counted of an entry -/

namespace Entry

/-- The observation of an entry, if there is one, can be announced. -/
def Shaped (entry : Entry) : Prop :=
  ∀ observation, entry.observation? = some observation → observation.Shaped

/-- Whether an entry brings an observation of a stream. -/
def brings (stream : Stream) (entry : Entry) : Bool :=
  entry.observation?.any fun observation => observation.stream = stream

theorem brings_eq {entry : Entry} {observation : Observation}
    (brought : entry.observation? = some observation) (stream : Stream) :
    entry.brings stream = decide (observation.stream = stream) := by
  simp [brings, brought]

theorem brings_of_none {entry : Entry} (brought : entry.observation? = none)
    (stream : Stream) : entry.brings stream = false := by
  simp [brings, brought]

end Entry

namespace Reply

/-- Whether a reply is that something was done. -/
def isYes : Except Fault Reply → Bool
  | .ok (.said answer) => answer
  | _ => false

end Reply

namespace Visit

/-- An observation of a stream that was said to have reached the engine. -/
def reached (stream : Stream) (visit : Visit (RecordedCoordinator ε τ π) Entry Reply) : Bool :=
  visit.input.brings stream && Reply.isYes visit.outcome.result

/-- An observation of a stream that came before the calibration was ready. -/
def early (stream : Stream) (visit : Visit (RecordedCoordinator ε τ π) Entry Reply) : Bool :=
  visit.input.brings stream && !visit.before.calibration.readiness.isReady

end Visit

/-! ## What the counts have to do with the transcript -/

namespace Coordinator

/-- How many insertions of a stream the engine completed. -/
def completions (coordinator : RecordedCoordinator ε τ π) (stream : Stream) : Nat :=
  coordinator.insertions.countP fun exchange =>
    decide (exchange.1.stream = stream) && exchange.2.isOk

/-- The counts that hold of a coordinator whatever it was entered with. -/
structure Accounted (coordinator : RecordedCoordinator ε τ π) : Prop where
  balanced : ∀ stream, (coordinator.stats.counts stream).Balanced
  completed : ∀ stream,
    coordinator.stats.get stream .inserted = coordinator.completions stream
  clouds : coordinator.stats.get .pointcloud .notReady = 0

/-- The engine completes an insertion exactly if the observation is inserted. -/
theorem completions_passed (components : Components ε τ π) (observation : Observation)
    (coordinator : RecordedCoordinator ε τ π) (stream : Stream) :
    (coordinator.passed components observation).completions stream =
      coordinator.completions stream +
        if observation.stream = stream ∧
          (passage components.recorded observation coordinator).verdict.counter = .inserted
        then 1 else 0 := by
  cases handed : observation.handOver? coordinator.calibration.readiness with
  | none =>
      rw [completions, (passed_unready components coordinator handed).2,
        passage_unready components.recorded coordinator handed]
      simp [completions, Verdict.counter]
  | some insertion =>
      cases answer : (sightingOf components.recorded observation coordinator).answer with
      | error fault =>
          rw [completions, passed_unplaced components coordinator handed answer,
            passage_unplaced components.recorded coordinator handed answer]
          simp [completions, Verdict.counter]
      | ok pose =>
          rcases passed_placed components coordinator handed answer with ⟨reply, added, verdict⟩
          rw [completions, added, verdict, List.countP_append, List.countP_singleton,
            Observation.handOver?_stream handed pose]
          cases reply <;>
            simp [completions, Verdict.ofAnswer, Verdict.counter, Except.isOk, Except.toBool]

/-- An observation is dropped as not ready exactly if it cannot be handed over. -/
theorem verdict_notReady_iff (components : Components ε τ π) (observation : Observation)
    (coordinator : RecordedCoordinator ε τ π) :
    (passage components.recorded observation coordinator).verdict.counter = .notReady ↔
      observation.handOver? coordinator.calibration.readiness = none := by
  cases handed : observation.handOver? coordinator.calibration.readiness with
  | none =>
      rw [passage_unready components.recorded coordinator handed]
      simp [Verdict.counter]
  | some insertion =>
      cases answer : (sightingOf components.recorded observation coordinator).answer with
      | error fault =>
          rw [passage_unplaced components.recorded coordinator handed answer]
          simp [Verdict.counter]
      | ok pose =>
          rcases passed_placed components coordinator handed answer with ⟨reply, -, verdict⟩
          rw [verdict]
          cases reply <;> simp [Verdict.ofAnswer, Verdict.counter]

end Coordinator

/-! ## What an entry does to the counts -/

namespace Entry

/-- Without an observation, nothing is counted and nothing inserted. -/
theorem uncounted (components : Components ε τ π) {entry : Entry}
    (brought : entry.observation? = none) (coordinator : RecordedCoordinator ε τ π) :
    (entry.visit components coordinator).outcome.state.stats = coordinator.stats ∧
      (entry.visit components coordinator).outcome.state.insertions =
        coordinator.insertions := by
  rcases act_aside components entry brought coordinator with ⟨calibration, -, kept⟩
  exact ⟨congrArg Intake.stats kept, congrArg Intake.insertions kept⟩

variable {components : Components ε τ π} (reliable : components.poses.Reliable)
  (uninterrupted : components.engine.Uninterrupted)

include reliable uninterrupted

/-- An observation raises the count of received ones and the count of its verdict. -/
theorem get_observe (observation : Observation) (coordinator : RecordedCoordinator ε τ π)
    (stream : Stream) (counter : Counter) :
    ((Entry.observe observation).visit components coordinator).outcome.state.stats.get stream
        counter =
      coordinator.stats.get stream counter +
        (if observation.stream = stream ∧ .received = counter then 1 else 0) +
          if observation.stream = stream ∧ (Coordinator.passage components.recorded observation
            coordinator).verdict.counter = counter then 1 else 0 := by
  rw [state_observe reliable uninterrupted]
  exact Passage.get_count _ _ _ _ _ _

/-- A passage raises the count of received observations and one of the other four. -/
theorem balanced_observe (observation : Observation)
    (coordinator : RecordedCoordinator ε τ π) (stream : Stream)
    (balanced : (coordinator.stats.counts stream).Balanced) :
    (((Entry.observe observation).visit components
      coordinator).outcome.state.stats.counts stream).Balanced := by
  rw [Stats.balanced_iff] at balanced ⊢
  simp only [get_observe reliable uninterrupted]
  -- Every verdict raises one of the four counts on the right.
  generalize (Coordinator.passage components.recorded observation coordinator).verdict = verdict
  by_cases same : observation.stream = stream
  · cases verdict <;> simp [same, Verdict.counter] <;> omega
  · simpa [same] using balanced

/-- An entry keeps the counts accounted for. -/
theorem accounted_visit (entry : Entry) (coordinator : RecordedCoordinator ε τ π)
    (accounted : coordinator.Accounted) :
    (entry.visit components coordinator).outcome.state.Accounted := by
  cases brought : entry.observation? with
  | none =>
      rcases uncounted components brought coordinator with ⟨counts, insertions⟩
      refine ⟨?_, ?_, ?_⟩
      · rw [counts]
        exact accounted.balanced
      · rw [counts]
        simpa only [Coordinator.completions, insertions] using accounted.completed
      · rw [counts]
        exact accounted.clouds
  | some observation =>
      obtain rfl := eq_observe brought
      have get := get_observe reliable uninterrupted observation coordinator
      refine ⟨?_, ?_, ?_⟩
      · intro stream
        exact balanced_observe reliable uninterrupted observation coordinator stream
          (accounted.balanced stream)
      · intro stream
        rw [get, accounted.completed stream, state_observe reliable uninterrupted,
          Coordinator.completions_passed]
        simp only [reduceCtorEq, and_false, if_false, Int.add_zero, Int.natCast_add]
        split <;> rfl
      -- A point cloud can always be handed over.
      · have handed : ¬ (observation.stream = .pointcloud ∧ (Coordinator.passage
            components.recorded observation coordinator).verdict.counter = .notReady) := by
          rintro ⟨cloud, waiting⟩
          rw [Coordinator.verdict_notReady_iff, Observation.handOver?_eq_none_iff, cloud]
            at waiting
          cases waiting.1
        rw [get, accounted.clouds, if_neg handed]
        simp

/-- An entry raises the count of received observations exactly if it brings one. -/
theorem received_visit (entry : Entry) (coordinator : RecordedCoordinator ε τ π)
    (stream : Stream) :
    (entry.visit components coordinator).outcome.state.stats.get stream .received =
      coordinator.stats.get stream .received + if entry.brings stream then 1 else 0 := by
  cases brought : entry.observation? with
  | none =>
      rcases uncounted components brought coordinator with ⟨counts, -⟩
      simp [counts, brings_of_none brought]
  | some observation =>
      rw [brings_eq brought]
      obtain rfl := eq_observe brought
      rw [get_observe reliable uninterrupted]
      generalize (Coordinator.passage components.recorded observation
        coordinator).verdict = verdict
      cases verdict <;> simp [Verdict.counter]

/-- An entry raises the count of inserted observations exactly if it says so. -/
theorem inserted_visit (entry : Entry) (shaped : entry.Shaped)
    (coordinator : RecordedCoordinator ε τ π) (stream : Stream) :
    (entry.visit components coordinator).outcome.state.stats.get stream .inserted =
      coordinator.stats.get stream .inserted +
        if (entry.visit components coordinator).reached stream then 1 else 0 := by
  cases brought : entry.observation? with
  | none =>
      rcases uncounted components brought coordinator with ⟨counts, -⟩
      simp [counts, Visit.reached, brings_of_none brought]
  | some observation =>
      have planar := shaped observation brought
      obtain rfl := eq_observe brought
      have said : ((Entry.observe observation).visit components coordinator).outcome.result =
          .ok (.said (Coordinator.passage components.recorded observation
            coordinator).verdict.isInserted) := by
        rw [visit, act, Act.run_map, Coordinator.result_insert
          (Coordinator.obeys_of_reliable reliable.recorded observation coordinator)
          uninterrupted.recorded planar]
        rfl
      rw [get_observe reliable uninterrupted, Visit.reached, said]
      simp [brings_eq brought, Reply.isYes, Verdict.counter_eq_inserted_iff]

/-- An entry raises the count of disparity images that are not ready if one came early. -/
theorem notReady_visit (entry : Entry) (coordinator : RecordedCoordinator ε τ π) :
    (entry.visit components coordinator).outcome.state.stats.get .disparity .notReady =
      coordinator.stats.get .disparity .notReady +
        if (entry.visit components coordinator).early .disparity then 1 else 0 := by
  cases brought : entry.observation? with
  | none =>
      rcases uncounted components brought coordinator with ⟨counts, -⟩
      simp [counts, Visit.early, brings_of_none brought]
  | some observation =>
      have early : ((Entry.observe observation).visit components
          coordinator).early .disparity = true ↔
            observation.stream = .disparity ∧ (Coordinator.passage components.recorded
              observation coordinator).verdict.counter = .notReady := by
        rw [Coordinator.verdict_notReady_iff, Observation.handOver?_eq_none_iff]
        simp [Visit.early, brings, observation?]
      obtain rfl := eq_observe brought
      rw [get_observe reliable uninterrupted]
      simp only [early]
      simp

end Entry

/-! ## Whole runs -/

namespace Coordinator

theorem get_begun (params : Config.ManagerParams) (engine : ε) (source : τ) (board : π)
    (stream : Stream) (counter : Counter) :
    (begun params engine source board).stats.get stream counter = 0 := by
  rw [stats_begun]
  cases stream <;> cases counter <;> rfl

theorem accounted_begun (params : Config.ManagerParams) (engine : ε) (source : τ)
    (board : π) : (begun params engine source board).Accounted := by
  refine ⟨?_, ?_, ?_⟩
  · intro stream
    rw [stats_begun]
    cases stream <;> rfl
  · intro stream
    rw [get_begun, completions, insertions_begun]
    rfl
  · exact get_begun params engine source board .pointcloud .notReady

section Runs

variable {components : Components ε τ π} (params : Config.ManagerParams) (engine : ε)
  (source : τ) (board : π) (reliable : components.poses.Reliable)
  (uninterrupted : components.engine.Uninterrupted) {entries : List Entry}
  (shaped : ∀ entry ∈ entries, entry.Shaped)

include reliable uninterrupted shaped

/-- Every run is accounted for. -/
theorem accounted_after :
    (Run.after (Entry.act components.recorded) (begun params engine source board)
      entries).Accounted :=
  Run.holds_after
    (fun state entry _ => Entry.accounted_visit reliable uninterrupted entry state)
    (accounted_begun params engine source board) shaped

/-- After a run a count is the number of visits that raised it. -/
theorem get_after (stream : Stream) (counter : Counter)
    (raises : Visit (RecordedCoordinator ε τ π) Entry Reply → Bool)
    (adds : ∀ (entry : Entry) (state : RecordedCoordinator ε τ π), entry.Shaped →
      (entry.visit components state).outcome.state.stats.get stream counter =
        state.stats.get stream counter +
          if raises (entry.visit components state) then 1 else 0) :
    (Run.after (Entry.act components.recorded) (begun params engine source board)
        entries).stats.get stream counter =
      (Run.visits (Entry.act components.recorded) (begun params engine source board)
        entries).countP raises := by
  have counted := Run.counted (fun state => state.stats.get stream counter) raises
    (fun state entry _ => Entry.accounted_visit reliable uninterrupted entry state)
    (fun state entry shaped _ => adds entry state shaped)
    (accounted_begun params engine source board) shaped
  rwa [get_begun, Int.zero_add] at counted

/-- As many observations of a stream are received as entries bring. -/
theorem received_after (stream : Stream) :
    (Run.after (Entry.act components.recorded) (begun params engine source board)
        entries).stats.get stream .received =
      entries.countP (Entry.brings stream) := by
  have received := get_after params engine source board reliable uninterrupted shaped stream
    .received (fun visit => visit.input.brings stream)
    (fun entry state _ => Entry.received_visit reliable uninterrupted entry state stream)
  have inputs := Run.map_input_visits (Entry.act components.recorded)
    (begun params engine source board) entries
  rw [received, ← congrArg (List.countP (Entry.brings stream)) inputs, List.countP_map]
  rfl

/-- As many observations of a stream are inserted as are said to have reached the engine. -/
theorem inserted_after (stream : Stream) :
    (Run.after (Entry.act components.recorded) (begun params engine source board)
        entries).stats.get stream .inserted =
      (Run.visits (Entry.act components.recorded) (begun params engine source board)
        entries).countP (Visit.reached stream) :=
  get_after params engine source board reliable uninterrupted shaped stream .inserted
    (Visit.reached stream) fun entry state shaped =>
      Entry.inserted_visit reliable uninterrupted entry shaped state stream

/-- No more observations of a stream are inserted than there are entries. -/
theorem natAbs_inserted_le (stream : Stream) :
    ((Run.after (Entry.act components.recorded) (begun params engine source board)
      entries).stats.get stream .inserted).natAbs ≤ entries.length := by
  have visited := congrArg List.length (Run.map_input_visits
    (Entry.act components.recorded) (begun params engine source board) entries)
  rw [List.length_map] at visited
  rw [inserted_after params engine source board reliable uninterrupted shaped, ← visited]
  exact List.countP_le_length

end Runs

/--
After every run, the counts of each stream say what happened to its
observations.  Whatever a status report says about the counts is what they are,
and with a clock that reads doubles there is a report.
-/
theorem counts_conserved (components : Components ε τ π) (params : Config.ManagerParams)
    (engine : ε) (source : τ) (board : π) (reliable : components.poses.Reliable)
    (uninterrupted : components.engine.Uninterrupted) (entries : List Entry)
    (shaped : ∀ entry ∈ entries, entry.Shaped) :
    let start := begun params engine source board
    let visits := Run.visits (Entry.act components.recorded) start entries
    let ended := Run.after (Entry.act components.recorded) start entries
    let count := ended.stats.get
    (∀ stream,
      count stream .received =
          count stream .inserted + count stream .notReady + count stream .noPose +
            count stream .engineError ∧
        count stream .received = entries.countP (Entry.brings stream) ∧
        count stream .inserted = visits.countP (Visit.reached stream) ∧
        count stream .inserted = ended.completions stream) ∧
    count .pointcloud .notReady = 0 ∧
    count .disparity .notReady = visits.countP (Visit.early .disparity) ∧
    (∀ now since report, ((status now since).run ended).result = .ok report →
      ∀ stream, ∃ fields,
        Mapping.named? report.toMapping stream.label = some (.mapping fields) ∧
          (∀ counter, Mapping.named? fields counter.label =
            some (.int (count stream counter))) ∧
          Mapping.named? fields "dropped" =
            some (.int (count stream .received - count stream .inserted))) ∧
    (entries.length < 2 ^ 1023 → ∀ now since : Float, ∃ report,
      ((status (.real now) (.real since)).run ended).result = .ok report) := by
  intro start visits ended count
  have accounted : ended.Accounted :=
    accounted_after params engine source board reliable uninterrupted shaped
  refine ⟨?_, accounted.clouds, ?_, ?_, ?_⟩
  · intro stream
    exact ⟨accounted.balanced stream,
      received_after params engine source board reliable uninterrupted shaped stream,
      inserted_after params engine source board reliable uninterrupted shaped stream,
      accounted.completed stream⟩
  · exact get_after params engine source board reliable uninterrupted shaped .disparity
      .notReady (Visit.early .disparity) fun entry state _ =>
        Entry.notReady_visit reliable uninterrupted entry state
  · intro now since report made stream
    rcases Status.reports made stream with ⟨fields, part, shown, dropped⟩
    refine ⟨fields, part, shown, ?_⟩
    rw [dropped, (accounted.balanced stream).dropped]
    rfl
  · intro short now since
    refine Status.of_real _ _ now since fun stream => ?_
    exact Nat.lt_of_le_of_lt
      (natAbs_inserted_le params engine source board reliable uninterrupted shaped stream)
      short

theorem earlyEntries_shaped : ∀ entry ∈ earlyEntries, entry.Shaped := by
  intro entry member observation brought
  simp only [earlyEntries, List.mem_cons, List.not_mem_nil, or_false] at member
  rcases member with rfl | rfl
  · cases brought
    rfl
  · cases brought
    exact ⟨0, rfl⟩

/-- Of an image before any calibration and a point cloud, the image is counted as dropped. -/
theorem early_image_counted :
    Components.obliging.poses.Reliable ∧ Components.obliging.engine.Uninterrupted ∧
      (∀ entry ∈ earlyEntries, entry.Shaped) ∧
      (Run.after (Entry.act Components.obliging.recorded)
          (begun {} () () ()) earlyEntries).stats.get .disparity .notReady =
        1 := by
  have reliable := PoseSource.always_reliable Pose.identity
  refine ⟨reliable, MapEngine.blank_uninterrupted, earlyEntries_shaped, ?_⟩
  exact (counts_conserved Components.obliging {} () () () reliable
    MapEngine.blank_uninterrupted earlyEntries earlyEntries_shaped).2.2.1.trans rfl

end Coordinator

end MapIngest
