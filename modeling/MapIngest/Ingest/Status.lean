import MapIngest.Calibration.State
import MapIngest.Decimal.Places
import MapIngest.Ingest.Stats

/-!
# Status reports

A status report says when it was made, how long the program has been running,
what the calibration has come to, and what was counted.  For each stream it
gives the rate of insertion per second, over at least one second, rounded to
two decimals.

A clock reading is an integer or a double, and a report shows it as it is.
-/

namespace MapIngest.Ingest

/-- A reading of the clock, in seconds. -/
inductive ClockReading where
  | whole (seconds : Int)
  | real (seconds : Float)
deriving DecidableEq

namespace ClockReading

/-- A reading as a double. -/
def toFloat : ClockReading → Except Fault Float
  | .whole seconds => (Value.int seconds).toFloat
  | .real seconds => .ok seconds

/-- A reading as a value. -/
def toValue : ClockReading → Value
  | .whole seconds => .int seconds
  | .real seconds => .float seconds

/-- The time between two readings; it is an integer if both are. -/
def since (now start : ClockReading) : Except Fault ClockReading :=
  match now, start with
  | .whole now, .whole start => .ok (.whole (now - start))
  | now, start => do return .real ((← now.toFloat) - (← start.toFloat))

/-- A span of time, but at least one second. -/
def atLeastOne : ClockReading → ClockReading
  | .whole seconds => if seconds < 1 then .real 1.0 else .whole seconds
  | .real seconds => if seconds < 1.0 then .real 1.0 else .real seconds

end ClockReading

/-- Divide a count by a positive integer and round to a double. -/
def dividedBy (count : Int) (divisor : Int) : Except Fault Float :=
  if Decimal.nearestBits count.natAbs divisor.natAbs < Decimal.infinityBits then
    .ok (Decimal.nearest (decide (count < 0)) count.natAbs divisor.natAbs)
  else
    Value.refuse .numberRange

/-- The rate of a count over a span of time, rounded to two decimals. -/
def rate (count : Int) (elapsed : ClockReading) : Except Fault Float :=
  match elapsed.atLeastOne with
  | .whole seconds => (dividedBy count seconds).map (Decimal.roundToPlaces 2)
  | .real seconds => do
    return Decimal.roundToPlaces 2 ((← (Value.int count).toFloat) / seconds)

/-- What a report says about one stream. -/
structure StreamStatus where
  counts : StreamCounts
  insertRate : Float

/-- A status report. -/
structure Status where
  timestamp : ClockReading
  elapsed : ClockReading
  calibration : Calibration.Readiness
  latestFallbacks : Int
  disparity : StreamStatus
  pointcloud : StreamStatus

/-- The part of a report about one stream. -/
def StreamStatus.of (counts : StreamCounts) (elapsed : ClockReading) :
    Except Fault StreamStatus := do
  return ⟨counts, ← rate counts.inserted elapsed⟩

/-- The part of a report about one stream as a mapping. -/
def StreamStatus.toMapping (status : StreamStatus) : Mapping :=
  (Counter.all.map fun counter => (.text counter.label, .int (status.counts.get counter))) ++
    [(.text "dropped", .int status.counts.dropped),
      (.text "insert_rate_hz", .float status.insertRate)]

/-- Make a report. -/
def Status.of (stats : Stats) (calibration : Calibration.Readiness)
    (now start : ClockReading) : Except Fault Status := do
  let elapsed ← now.since start
  return {
    timestamp := now
    elapsed := elapsed
    calibration := calibration
    latestFallbacks := stats.latestFallbacks
    disparity := ← StreamStatus.of stats.disparity elapsed
    pointcloud := ← StreamStatus.of stats.pointcloud elapsed }

/-- A report as a mapping. -/
def Status.toMapping (status : Status) : Mapping :=
  [ (.text "timestamp", status.timestamp.toValue),
    (.text "elapsed_sec", status.elapsed.toValue),
    (.text "calibration_state", .text status.calibration.label),
    (.text "calibration_ready", .bool status.calibration.isReady),
    (.text "latest_tf_fallbacks", .int status.latestFallbacks),
    (.text Stream.disparity.label, .mapping status.disparity.toMapping),
    (.text Stream.pointcloud.label, .mapping status.pointcloud.toMapping) ]

end MapIngest.Ingest
