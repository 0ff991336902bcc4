import MapIngest.Ingest.Status
import MapIngest.Proofs.Decimal.Range
import MapIngest.Proofs.Fallible

/-!
# What a status report says about the counts

A report that is made shows every count of every stream as it stands, and what
was dropped of a stream as the sum of its three counts.  Whether a report can be
made depends on the numbers of inserted observations only: each of them must
have a double.  With a clock that reads doubles nothing else can go wrong.
-/

namespace MapIngest.Ingest

/-- What a report says about a stream. -/
def Status.part (report : Status) : Stream → StreamStatus
  | .disparity => report.disparity
  | .pointcloud => report.pointcloud

theorem Status.named?_part (report : Status) (stream : Stream) :
    Mapping.named? report.toMapping stream.label =
      some (.mapping (report.part stream).toMapping) := by
  cases stream <;> rfl

theorem StreamStatus.named?_counter (part : StreamStatus) (counter : Counter) :
    Mapping.named? part.toMapping counter.label = some (.int (part.counts.get counter)) := by
  cases counter <;> rfl

theorem StreamStatus.named?_dropped (part : StreamStatus) :
    Mapping.named? part.toMapping "dropped" = some (.int part.counts.dropped) := rfl

theorem StreamStatus.of_counts {counts : StreamCounts} {elapsed : ClockReading}
    {part : StreamStatus} (made : StreamStatus.of counts elapsed = .ok part) :
    part.counts = counts := by
  rcases bind_eq_ok.mp made with ⟨value, -, same⟩
  cases same
  rfl

/-- A report shows the counts that it was made from. -/
theorem Status.of_counts {stats : Stats} {calibration : Calibration.Readiness}
    {now start : ClockReading} {report : Status}
    (made : Status.of stats calibration now start = .ok report) (stream : Stream) :
    (report.part stream).counts = stats.counts stream := by
  rcases bind_eq_ok.mp made with ⟨elapsed, -, rest⟩
  rcases bind_eq_ok.mp rest with ⟨disparity, first, rest⟩
  rcases bind_eq_ok.mp rest with ⟨pointcloud, second, same⟩
  cases same
  cases stream with
  | disparity => exact StreamStatus.of_counts first
  | pointcloud => exact StreamStatus.of_counts second

/-- What a report says about the counts, given the counts it is made from. -/
theorem Status.reports {stats : Stats} {calibration : Calibration.Readiness}
    {now start : ClockReading} {report : Status}
    (made : Status.of stats calibration now start = .ok report) (stream : Stream) :
    ∃ entries, Mapping.named? report.toMapping stream.label = some (.mapping entries) ∧
      (∀ counter, Mapping.named? entries counter.label =
        some (.int (stats.get stream counter))) ∧
      Mapping.named? entries "dropped" = some (.int (stats.counts stream).dropped) := by
  refine ⟨_, report.named?_part stream, ?_, ?_⟩
  · intro counter
    rw [StreamStatus.named?_counter, Status.of_counts made]
    rfl
  · rw [StreamStatus.named?_dropped, Status.of_counts made]

/-- A rate over a span of doubles is a double if the count has one. -/
theorem rate_real {count : Int} (elapsed : Float) (small : count.natAbs < 2 ^ 1023) :
    ∃ value, rate count (.real elapsed) = .ok value := by
  have near : (Value.int count).toFloat = .ok (Decimal.ofInteger count) := by
    simp [Value.toFloat, Decimal.ofInteger?_isSome small]
  have real : (ClockReading.real elapsed).atLeastOne =
      .real (if elapsed < 1.0 then 1.0 else elapsed) := by
    rw [ClockReading.atLeastOne]
    split <;> rfl
  rw [rate, real]
  exact ⟨_, bind_eq_ok.mpr ⟨_, near, rfl⟩⟩

/-- The part of a report about a stream is made if the count of insertions has a double. -/
theorem StreamStatus.of_real (counts : StreamCounts) (elapsed : Float)
    (small : counts.inserted.natAbs < 2 ^ 1023) :
    ∃ part, StreamStatus.of counts (.real elapsed) = .ok part := by
  rcases rate_real elapsed small with ⟨value, rated⟩
  exact ⟨_, bind_eq_ok.mpr ⟨value, rated, rfl⟩⟩

/-- With a clock that reads doubles, a report is made of any counts that have doubles. -/
theorem Status.of_real (stats : Stats) (calibration : Calibration.Readiness)
    (now start : Float)
    (small : ∀ stream, (stats.get stream .inserted).natAbs < 2 ^ 1023) :
    ∃ report, Status.of stats calibration (.real now) (.real start) = .ok report := by
  rcases StreamStatus.of_real stats.disparity (now - start) (small .disparity)
    with ⟨disparity, first⟩
  rcases StreamStatus.of_real stats.pointcloud (now - start) (small .pointcloud)
    with ⟨pointcloud, second⟩
  exact ⟨_, bind_eq_ok.mpr ⟨.real (now - start), rfl,
    bind_eq_ok.mpr ⟨disparity, first, bind_eq_ok.mpr ⟨pointcloud, second, rfl⟩⟩⟩⟩

end MapIngest.Ingest
