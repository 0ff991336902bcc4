import MapIngest.Config.Schema

/-!
# Parameters of the map engine

The parameters handed to the map engine: the size of a cell, the probabilities
of the sensor model, the clamping and occupancy thresholds, the speckle
filter, the range of the sensor, and the height band that is shown.
-/

namespace MapIngest.Config

/-- The parameters of the map engine. -/
structure EngineParams where
  /-- The edge length of a cell, in metres. -/
  resolution : Float := 0.15
  probabilityHit : Float := 0.65
  probabilityMiss : Float := 0.4
  /-- The lower clamping bound. -/
  thresholdMin : Float := 0.12
  /-- The upper clamping bound. -/
  thresholdMax : Float := 0.97
  thresholdOccupancy : Float := 0.7
  filterSpeckles : Bool := true
  /-- Rays are cut off beyond this range, in metres. -/
  sensorMaxRange : Float := 5.0
  /-- The floor of the shown height band, in metres. -/
  visualizeMinZ : Float := -1.0e9
  /-- The ceiling of the shown height band, in metres. -/
  visualizeMaxZ : Float := 1.0e9
deriving DecidableEq, Inhabited

namespace EngineParams

/-- A field that holds a double within limits. -/
def floatField (name : String) (limits : List Limit) (get : EngineParams → Float)
    (set : Float → EngineParams → EngineParams) : Field EngineParams :=
  .simple name (readFloatWithin limits) .float get set

/-- The fields of the engine parameters, in order. -/
def fields : List (Field EngineParams) :=
  [ floatField "resolution" [.above 0.0]
      (·.resolution) (fun number params => { params with resolution := number }),
    floatField "probability_hit" [.below 1.0, .above 0.0]
      (·.probabilityHit) (fun number params => { params with probabilityHit := number }),
    floatField "probability_miss" [.below 1.0, .above 0.0]
      (·.probabilityMiss) (fun number params => { params with probabilityMiss := number }),
    floatField "threshold_min" [.atMost 1.0, .atLeast 0.0]
      (·.thresholdMin) (fun number params => { params with thresholdMin := number }),
    floatField "threshold_max" [.atMost 1.0, .atLeast 0.0]
      (·.thresholdMax) (fun number params => { params with thresholdMax := number }),
    floatField "threshold_occupancy" [.atMost 1.0, .atLeast 0.0]
      (·.thresholdOccupancy) (fun number params => { params with thresholdOccupancy := number }),
    .simple "filter_speckles" readTruth .bool
      (·.filterSpeckles) (fun truth params => { params with filterSpeckles := truth }),
    floatField "sensor_max_range" [.above 0.0]
      (·.sensorMaxRange) (fun number params => { params with sensorMaxRange := number }),
    floatField "visualize_min_z" []
      (·.visualizeMinZ) (fun number params => { params with visualizeMinZ := number }),
    floatField "visualize_max_z" []
      (·.visualizeMaxZ) (fun number params => { params with visualizeMaxZ := number }) ]

/-- The orderings that the engine parameters keep; the thresholds are looked at first. -/
def breach? (params : EngineParams) : Option Breach :=
  if params.thresholdMax < params.thresholdMin then
    some (.thresholds params.thresholdMin params.thresholdMax)
  else if params.visualizeMaxZ < params.visualizeMinZ then
    some (.heights params.visualizeMinZ params.visualizeMaxZ)
  else
    none

/-- The schema of the engine parameters. -/
def schema : Schema EngineParams where
  record := "OctomapParameters"
  fields := fields
  breach? := breach?

/-- Build the engine parameters from a mapping. -/
def build (given : Mapping) : Except Report EngineParams :=
  schema.build {} given

/-- The engine parameters as a mapping. -/
def toMapping (params : EngineParams) : Mapping :=
  schema.toMapping params

end EngineParams

end MapIngest.Config
