import MapIngest.Act
import MapIngest.Value.Conversion

/-!
# Counting observations

For each of the two streams of observations it is counted how many were
received, how many reached the engine, and how many were dropped for each of
three reasons.  It is also counted how often the latest pose had to stand in
for the pose at a stamp.
-/

namespace MapIngest.Ingest

/-- A stream of observations. -/
inductive Stream where
  | disparity
  | pointcloud
deriving DecidableEq, Repr

/-- What is counted about a stream. -/
inductive Counter where
  | received
  | inserted
  | notReady
  | noPose
  | engineError
deriving DecidableEq, Repr

/-- The streams in the order of reports. -/
def Stream.all : List Stream :=
  [.disparity, .pointcloud]

/-- The name of a stream. -/
def Stream.label : Stream → String
  | .disparity => "disparity"
  | .pointcloud => "pointcloud"

/-- The counters in the order of reports. -/
def Counter.all : List Counter :=
  [.received, .inserted, .notReady, .noPose, .engineError]

/-- The name of a counter. -/
def Counter.label : Counter → String
  | .received => "received"
  | .inserted => "inserted"
  | .notReady => "dropped_not_ready"
  | .noPose => "dropped_no_pose"
  | .engineError => "dropped_engine_error"

/-- The stream with a name. -/
def Stream.named? (label : String) : Option Stream :=
  Stream.all.find? (·.label == label)

/-- The counter with a name. -/
def Counter.named? (label : String) : Option Counter :=
  Counter.all.find? (·.label == label)

/-- The counts of one stream. -/
structure StreamCounts where
  received : Int := 0
  inserted : Int := 0
  notReady : Int := 0
  noPose : Int := 0
  engineError : Int := 0
deriving DecidableEq, Repr

namespace StreamCounts

/-- One count. -/
def get (counts : StreamCounts) : Counter → Int
  | .received => counts.received
  | .inserted => counts.inserted
  | .notReady => counts.notReady
  | .noPose => counts.noPose
  | .engineError => counts.engineError

/-- Store one count. -/
def set (counts : StreamCounts) (counter : Counter) (value : Int) : StreamCounts :=
  match counter with
  | .received => { counts with received := value }
  | .inserted => { counts with inserted := value }
  | .notReady => { counts with notReady := value }
  | .noPose => { counts with noPose := value }
  | .engineError => { counts with engineError := value }

/-- How many observations were dropped. -/
def dropped (counts : StreamCounts) : Int :=
  counts.notReady + counts.noPose + counts.engineError

theorem get_set (counts : StreamCounts) (stored asked : Counter) (value : Int) :
    (counts.set stored value).get asked = if stored = asked then value else counts.get asked := by
  cases stored <;> cases asked <;> rfl

end StreamCounts

/-- All counts. -/
structure Stats where
  disparity : StreamCounts := {}
  pointcloud : StreamCounts := {}
  /-- How often the latest pose stood in for the pose at a stamp. -/
  latestFallbacks : Int := 0
deriving DecidableEq, Repr

namespace Stats

/-- The counts of one stream. -/
def counts (stats : Stats) : Stream → StreamCounts
  | .disparity => stats.disparity
  | .pointcloud => stats.pointcloud

/-- Store the counts of one stream. -/
def setCounts (stats : Stats) (stream : Stream) (counts : StreamCounts) : Stats :=
  match stream with
  | .disparity => { stats with disparity := counts }
  | .pointcloud => { stats with pointcloud := counts }

/-- Store one count. -/
def set (stats : Stats) (stream : Stream) (counter : Counter) (value : Int) : Stats :=
  stats.setCounts stream ((stats.counts stream).set counter value)

/-- One count. -/
def get (stats : Stats) (stream : Stream) (counter : Counter) : Int :=
  (stats.counts stream).get counter

/-- Count one more; the result is the new count. -/
def bump (stream : Stream) (counter : Counter) : Act Stats Int := do
  let stats ← Act.get
  let value := stats.get stream counter + 1
  Act.modify fun stats => stats.set stream counter value
  return value

/-- Count one more time that the latest pose stood in. -/
def noteFallback : Act Stats Unit :=
  Act.modify fun stats => { stats with latestFallbacks := stats.latestFallbacks + 1 }

/-- The stream and the counter with given names. -/
def named (stream counter : String) : Except Fault (Stream × Counter) :=
  match Stream.named? stream, Counter.named? counter with
  | some stream, some counter => .ok (stream, counter)
  | none, _ => Value.refuse (.noField stream)
  | _, none => Value.refuse (.noField counter)

end Stats

end MapIngest.Ingest
