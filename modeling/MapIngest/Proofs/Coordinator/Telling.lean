import MapIngest.Proofs.Coordinator.Conservation
import MapIngest.Proofs.Coordinator.Notices

/-!
# The log and the counts agree

Two parts of a coordinator report on observations, the one that seeks poses and
the one that hands over, and both also count.  Whatever an entry does, and
whether it returns or fails, the notices in its records are what it adds to the
counts.  So after every run each notice has been given as often as the counts
say, and the log alone tells how often the latest pose stood in and how often
the source of poses denied a pose.

Nothing is asked of the components.  That the first insertion of a stream is
announced needs an observation that can be announced.
-/

namespace MapIngest

open MapIngest.Geometry Ingest Sensor Calibration

/-! ## What the counts say -/

namespace Ingest

/-- How often a notice is due by the counts. -/
def Stats.due (stats : Stats) : Notice → Int
  | .notReady => stats.get .disparity .notReady
  | .fallback => stats.latestFallbacks
  | .noPose => stats.get .disparity .noPose + stats.get .pointcloud .noPose
  | .failed stream => stats.get stream .engineError
  | .first stream => if 0 < stats.get stream .inserted then 1 else 0

/-- The source was asked whether it has a pose, and denied it. -/
def PoseExchange.isDenial : PoseExchange → Bool
  | .canTransform _ _ _ (.ok false) => true
  | _ => false

namespace Stats

@[simp]
theorem latestFallbacks_bumped (stats : Stats) (stream : Stream) (counter : Counter) :
    (stats.bumped stream counter).latestFallbacks = stats.latestFallbacks := by
  cases stream <;> rfl

/-- Being received makes no notice due. -/
theorem due_received (stats : Stats) (stream : Stream) (notice : Notice) :
    (stats.bumped stream .received).due notice = stats.due notice := by
  cases notice <;> simp [due, get_bumped]

theorem due_notReady (stats : Stats) (notice : Notice) :
    (stats.bumped .disparity .notReady).due notice =
      stats.due notice + if Notice.notReady = notice then 1 else 0 := by
  cases notice <;> simp [due, get_bumped]

theorem due_noPose (stats : Stats) (stream : Stream) (notice : Notice) :
    (stats.bumped stream .noPose).due notice =
      stats.due notice + if Notice.noPose = notice then 1 else 0 := by
  cases notice <;> cases stream <;> simp [due, get_bumped] <;> omega

theorem due_engineError (stats : Stats) (stream : Stream) (notice : Notice) :
    (stats.bumped stream .engineError).due notice =
      stats.due notice + if Notice.failed stream = notice then 1 else 0 := by
  cases notice <;> simp [due, get_bumped]

/-- Only the first insertion of a stream makes a notice due. -/
theorem due_inserted (stats : Stats) (stream : Stream) (notice : Notice) :
    (stats.bumped stream .inserted).due notice =
      stats.due notice +
        if stats.get stream .inserted = 0 ∧ Notice.first stream = notice then 1 else 0 := by
  cases notice with
  | first asked =>
      by_cases same : stream = asked
      · subst same
        simp only [due, get_bumped]
        grind
      · simp [due, get_bumped, same]
  | _ => simp [due, get_bumped]

theorem latestFallbacks_noteStamp (found : Except Fault Bool) (stats : Stats) :
    (noteStamp found stats).latestFallbacks =
      stats.latestFallbacks + if fellBack found then 1 else 0 := by
  cases late : fellBack found <;> simp [noteStamp, late]

end Stats

theorem told_stampRecords (found : Except Fault Bool) (notice : Notice) :
    notice.told (stampRecords found) =
      if fellBack found = true ∧ Notice.fallback = notice then 1 else 0 := by
  cases late : fellBack found with
  | false => simp [stampRecords, late]
  | true => simp [stampRecords, late, Notice.tells_fallbackRecord.told_singleton]

theorem eq_fallbackRecord_of_mem {found : Except Fault Bool} {record : LogRecord}
    (written : record ∈ stampRecords found) : record = PoseDesk.fallbackRecord := by
  rw [stampRecords] at written
  split at written
  · exact List.mem_singleton.mp written
  · cases written

/-- The stand-in that is noted is the one that is reported. -/
theorem Stats.due_noteStamp (found : Except Fault Bool) (stats : Stats) (notice : Notice) :
    (noteStamp found stats).due notice =
      stats.due notice + notice.told (stampRecords found) := by
  rw [told_stampRecords]
  cases notice with
  | fallback =>
      simp only [due, latestFallbacks_noteStamp, and_true]
      split <;> rfl
  | _ => simp [due]

end Ingest

/-! ## What the log adds to the counts -/

variable {ε τ π : Type}

namespace Coordinator

/-- How often the source of poses denied that it has a pose. -/
def denials (coordinator : RecordedCoordinator ε τ π) : Nat :=
  coordinator.source.transcript.countP PoseExchange.isDenial

/-- The notices of a log are what is counted between two states. -/
structure Told (before after : RecordedCoordinator ε τ π) (log : List LogRecord) : Prop where
  counting : after.countsFallbacks = before.countsFallbacks
  due : before.countsFallbacks = true → ∀ notice,
    after.stats.due notice = before.stats.due notice + notice.told log
  denied : after.denials = before.denials + Notice.fallback.told log
  spaced : ∀ record ∈ log, Notice.notReady.isTold record = true → record.spacing = some 1.0

namespace Told

/-- If nothing is counted, nothing is noticed. -/
theorem aside {before after : RecordedCoordinator ε τ π} {log : List LogRecord}
    (counting : after.countsFallbacks = before.countsFallbacks)
    (stats : after.stats = before.stats) (denied : after.denials = before.denials)
    (silent : ∀ record ∈ log, Notice.Unnoticed record) : Told before after log where
  counting := counting
  due _ notice := by simp [stats, Notice.told_of_unnoticed silent]
  denied := by simp [denied, Notice.told_of_unnoticed silent]
  spaced record written told := by simp [silent record written .notReady] at told

theorem refl (coordinator : RecordedCoordinator ε τ π) : Told coordinator coordinator [] :=
  .aside rfl rfl rfl (by simp)

theorem trans {before middle after : RecordedCoordinator ε τ π}
    {first second : List LogRecord} (earlier : Told before middle first)
    (later : Told middle after second) : Told before after (first ++ second) where
  counting := later.counting.trans earlier.counting
  due counting notice := by
    rw [later.due (earlier.counting.trans counting), earlier.due counting,
      Notice.told_append]
    push_cast
    omega
  denied := by rw [later.denied, earlier.denied, Notice.told_append, Nat.add_assoc]
  spaced := List.forall_mem_append.mpr ⟨earlier.spaced, later.spaced⟩

/-- One notice for one count. -/
theorem single {before : RecordedCoordinator ε τ π} {stats : Stats} {record : LogRecord}
    {given : Notice} (tells : Notice.Tells record given) (other : given ≠ .fallback)
    (spaced : given = .notReady → record.spacing = some 1.0)
    (due : ∀ notice, stats.due notice =
      before.stats.due notice + if given = notice then 1 else 0) :
    Told before { before with stats := stats } [record] where
  counting := rfl
  due _ notice := by
    rw [tells.told_singleton, due notice]
    split <;> rfl
  denied := by rw [tells.told_singleton, if_neg other]; rfl
  spaced := by
    intro written member told
    obtain rfl := List.mem_singleton.mp member
    rw [tells.isTold_eq, decide_eq_true_eq] at told
    exact spaced told

/-- Counting that makes no notice due needs no record. -/
theorem unnoted {before : RecordedCoordinator ε τ π} {stats : Stats}
    (due : ∀ notice, stats.due notice = before.stats.due notice) :
    Told before { before with stats := stats } [] where
  counting := rfl
  due _ notice := by simpa using due notice
  denied := rfl
  spaced := by simp

end Told

/-- The records of an outcome are what it has counted. -/
def Reports {α : Type} (before : RecordedCoordinator ε τ π)
    (outcome : Outcome (RecordedCoordinator ε τ π) α) : Prop :=
  Told before outcome.state outcome.logs

/-! ## The passage of an observation -/

section Passage

variable (components : Components ε τ π) (observation : Observation)

variable (coordinator : RecordedCoordinator ε τ π)

/-- A question that is not answered is noticed nowhere. -/
theorem told_unanswered {fault : Fault}
    (failed : (sightingOf components.recorded observation coordinator).found = .error fault) :
    Told coordinator
      { coordinator with
        source := (components.recorded.poses.canTransform coordinator.worldFrame
          observation.frame observation.stamp coordinator.source).2 } [] := by
  have asked : (components.poses.canTransform coordinator.worldFrame observation.frame
      observation.stamp coordinator.source.inner).1 = .error fault := failed
  refine .aside rfl rfl ?_ (by simp)
  simp [denials, Components.recorded, PoseSource.recorded, asked, PoseExchange.isDenial]

/-- A sighting is noticed if the source denies that it has a pose. -/
theorem told_saw {found : Bool}
    (answered : (sightingOf components.recorded observation coordinator).found = .ok found) :
    Told coordinator
      (coordinator.saw (sightingOf components.recorded observation coordinator))
      (stampRecords (.ok found)) where
  counting := rfl
  due counting notice := by
    simp only [saw, Passage.noted, counting, if_true, answered, Stats.due_noteStamp]
  denied := by
    have asked := components.poses.sight_recorded coordinator.worldFrame observation.frame
      observation.stamp coordinator.source
    have denied : (Sighting.exchanges (sightingOf components.recorded observation coordinator)
        coordinator.worldFrame observation.frame observation.stamp).countP
          PoseExchange.isDenial = Notice.fallback.told (stampRecords (.ok found)) := by
      rw [told_stampRecords, Sighting.exchanges, answered]
      cases found <;> rfl
    rw [denials, denials, ← denied, ← List.countP_append]
    exact congrArg (List.countP PoseExchange.isDenial) asked
  spaced := by
    intro record written told
    rw [eq_fallbackRecord_of_mem written, Notice.tells_fallbackRecord.isTold_eq] at told
    cases told

/-- Handing over is noticed if the engine fails, or if it is the first time. -/
theorem reports_hand (shaped : observation.Shaped)
    (call : Call (Recorded ε EngineExchange) Unit) :
    Reports coordinator ((hand observation.stream observation.frame call
      (announce observation)).run coordinator) := by
  have asked : Told coordinator
      { coordinator with engine := (call coordinator.engine).2 } [] :=
    .aside rfl rfl rfl (by simp)
  by_cases interrupted : ∃ fault, (call coordinator.engine).1 = .error fault ∧
      fault.kind = .interrupt
  · rcases interrupted with ⟨fault, failed, interrupt⟩
    rw [run_hand_interrupted observation call coordinator failed interrupt]
    exact asked
  · rw [run_hand observation call coordinator fun fault failed interrupt =>
      interrupted ⟨fault, failed, interrupt⟩]
    refine asked.trans ?_
    cases (call coordinator.engine).1 with
    | error fault =>
        exact .single (Notice.tells_insertionFailed _ _ _) (by simp) (by simp)
          (Stats.due_engineError _ _)
    | ok done =>
        have due := Stats.due_inserted coordinator.stats observation.stream
        by_cases first : coordinator.stats.get observation.stream .inserted = 0
        · rcases shaped.announceable with ⟨record, announced⟩
          simp only [Verdict.ofAnswer, Verdict.counter, announcementDue, if_pos first, announced]
          refine .single (Notice.tells_announcement announced) (by simp) (by simp) ?_
          simpa [first] using due
        · simp only [Verdict.ofAnswer, Verdict.counter, announcementDue, if_neg first]
          refine .unnoted ?_
          simpa [first] using due

/-- Delivering an observation is noticed as it is counted. -/
theorem reports_deliver (shaped : observation.Shaped) (insertion : Pose Float → Insertion) :
    Reports coordinator ((deliver components.recorded observation insertion
      coordinator.worldFrame).run coordinator) := by
  cases answered : (sightingOf components.recorded observation coordinator).found with
  | error fault =>
      rw [deliver, Act.run_bind, run_resolve_unanswered components.recorded observation
        coordinator answered]
      exact told_unanswered components observation coordinator answered
  | ok found =>
      have saw := told_saw components observation coordinator answered
      rw [deliver, Act.run_bind, run_resolve_answered components.recorded observation
        coordinator answered, Sighting.result, Sighting.records, answered]
      cases looked : (sightingOf components.recorded observation coordinator).answer with
      | ok pose =>
          rw [List.append_nil, Act.follow_ok]
          exact saw.trans (reports_hand observation _ shaped _)
      | error fault =>
          by_cases missing : fault.kind = .pose
          · simp only [missing, if_true, Act.follow_ok]
            exact (saw.trans (.single (Notice.tells_failureRecord fault) (by simp) (by simp)
              (Stats.due_noPose _ _))).trans (.refl _)
          · simp only [missing, if_false, List.append_nil, Act.follow_error]
            exact saw

/-- An observation is noticed as it is counted. -/
theorem reports_insert (shaped : observation.Shaped) :
    Reports coordinator ((insert components.recorded observation).run coordinator) := by
  have received : Told coordinator (bumped observation.stream .received coordinator) [] :=
    .unnoted (Stats.due_received _ _)
  cases handed : observation.handOver? coordinator.calibration.readiness with
  | none =>
      have disparity := ((Observation.handOver?_eq_none_iff _ _).mp handed).1
      rw [run_insert_unready components.recorded observation coordinator handed]
      refine received.trans (.single Notice.tells_notReadyRecord (by simp) (fun _ => rfl) ?_)
      rw [disparity]
      exact Stats.due_notReady _
  | some insertion =>
      rw [run_insert_ready components.recorded observation coordinator handed]
      exact received.trans (reports_deliver components observation
        (bumped observation.stream .received coordinator) shaped insertion)

end Passage

end Coordinator

/-! ## Entries and runs -/

/-- An entry is noticed as it is counted. -/
theorem Entry.reports_act (components : Components ε τ π) (entry : Entry)
    (shaped : entry.Shaped) (coordinator : RecordedCoordinator ε τ π) :
    Coordinator.Reports coordinator ((entry.act components.recorded).run coordinator) := by
  cases brought : entry.observation? with
  | none =>
      rcases act_aside components entry brought coordinator with ⟨calibration, -, kept⟩
      have source := congrArg Intake.source kept
      exact .aside (congrArg Intake.countsFallbacks kept) (congrArg Intake.stats kept)
        (congrArg (fun source : Recorded τ PoseExchange =>
          source.transcript.countP PoseExchange.isDenial) source)
        (writes_aside components.recorded entry brought coordinator)
  | some observation =>
      have announceable := shaped observation brought
      obtain rfl := eq_observe brought
      rw [act, Act.run_map]
      exact Coordinator.reports_insert components observation coordinator announceable

namespace Coordinator

/-- Setting up is not noticed. -/
theorem told_start (params : Config.ManagerParams) (engine : Recorded ε EngineExchange)
    (source : Recorded τ PoseExchange) (board : π) :
    Told (initial params engine source board) (start params engine source board).state
      (start params engine source board).logs := by
  have quiet : ∀ record ∈ (start params engine source board).logs, Notice.Unnoticed record :=
    writes_configure params _
  rcases start_returns params engine source board with ⟨calibration, logs, set⟩
  rw [set] at quiet ⊢
  exact .aside rfl rfl rfl quiet

/-- The notices of a run are what it has counted. -/
theorem told_after (components : Components ε τ π) (begun : RecordedCoordinator ε τ π)
    {entries : List Entry} (shaped : ∀ entry ∈ entries, entry.Shaped) :
    Told begun (Run.after (Entry.act components.recorded) begun entries)
      (Run.logs (Entry.act components.recorded) begun entries) :=
  Run.related_after .refl .trans
    (fun state entry shaped => Entry.reports_act components entry shaped state) begun shaped

/-- Before anything has happened, no notice is due. -/
theorem due_nothing (notice : Notice) : ({} : Stats).due notice = 0 := by
  rcases notice with _ | _ | _ | stream | stream
  · rfl
  · rfl
  · rfl
  · cases stream <;> rfl
  · cases stream <;> rfl

/--
After every run, every notice has been given as often as the counts say, and the
latest pose has stood in as often as the source denied that it has a pose.  A
notice that may recur with every image carries the time that spaces it out.  A
status report changes and writes nothing, so it makes no difference where in a
run one is asked for.
-/
theorem notices_match_counts (components : Components ε τ π) (params : Config.ManagerParams)
    (engine : ε) (source : τ) (board : π) (entries : List Entry)
    (shaped : ∀ entry ∈ entries, entry.Shaped) :
    let set := start params (⟨engine, []⟩ : Recorded ε EngineExchange)
      (⟨source, []⟩ : Recorded τ PoseExchange) board
    let ended := Run.after (Entry.act components.recorded) set.state entries
    let log := set.logs ++ Run.logs (Entry.act components.recorded) set.state entries
    let told (notice : Notice) : Int := notice.told log
    told .notReady = ended.stats.get .disparity .notReady ∧
      (∀ record ∈ log, Notice.notReady.isTold record = true → record.spacing = some 1.0) ∧
      told .fallback = ended.stats.latestFallbacks ∧
      told .fallback = ended.source.transcript.countP PoseExchange.isDenial ∧
      told .noPose =
        ended.stats.get .disparity .noPose + ended.stats.get .pointcloud .noPose ∧
      (∀ stream, told (.failed stream) = ended.stats.get stream .engineError) ∧
      (∀ stream, told (.first stream) =
        if 0 < ended.stats.get stream .inserted then 1 else 0) ∧
      ∀ now since, ((status now since).run ended).state = ended ∧
        ((status now since).run ended).logs = [] := by
  intro set ended log told
  have run : Told (initial params ⟨engine, []⟩ ⟨source, []⟩ board) ended log :=
    (told_start params _ _ board).trans (told_after components set.state shaped)
  have tally : ∀ notice, told notice = ended.stats.due notice := by
    intro notice
    rw [run.due rfl notice, initial, due_nothing, Int.zero_add]
  have denied : (ended.denials : Int) = told .fallback := by
    rw [run.denied]
    exact congrArg Int.ofNat (Nat.zero_add _)
  exact ⟨tally .notReady, run.spaced, tally .fallback, denied.symm, tally .noPose,
    fun stream => tally (.failed stream), fun stream => tally (.first stream),
    fun now since => ⟨rfl, rfl⟩⟩

/-- Obliging components of which the source of poses has the latest pose only. -/
def laggingComponents : Components Unit Unit Unit :=
  { Components.obliging with
    poses := ⟨fun _ _ _ _ => (.ok false, ()), fun _ _ _ _ => (.ok Pose.identity, ())⟩ }

/--
Of an image before any calibration and a point cloud that is placed by the latest
pose, the one is noticed as early, the other as placed so and as the first.
-/
theorem lagging_cloud_noticed :
    (∀ entry ∈ earlyEntries, entry.Shaped) ∧
      let set := start {} (⟨(), []⟩ : Recorded Unit EngineExchange)
        (⟨(), []⟩ : Recorded Unit PoseExchange) ()
      let log := set.logs ++
        Run.logs (Entry.act laggingComponents.recorded) set.state earlyEntries
      (Notice.notReady.told log : Int) = 1 ∧ (Notice.fallback.told log : Int) = 1 ∧
        ((Notice.first .pointcloud).told log : Int) = 1 := by
  rcases notices_match_counts laggingComponents {} () () () earlyEntries earlyEntries_shaped
    with ⟨notReady, -, fallback, -, -, -, first, -⟩
  exact ⟨earlyEntries_shaped, notReady.trans rfl, fallback.trans rfl,
    (first .pointcloud).trans rfl⟩

end Coordinator

end MapIngest
