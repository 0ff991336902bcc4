import MapIngest.Config.EngineParams

/-!
# Parameters of the manager

The parameters of the whole node: the frame of the map, the size of the full
image, the rates of its timers, an optional reprojection matrix, the name of
the map engine, and the parameters of that engine as a nested record.

The length of the reprojection matrix is not a matter of validation: a matrix
of the wrong length is met later, by the calibration.
-/

namespace MapIngest.Config

/-- The parameters of the manager. -/
structure ManagerParams where
  /-- The frame that all map data is expressed in. -/
  worldFrame : String := "world"
  fullImageWidth : Int := 752
  fullImageHeight : Int := 480
  /-- The rate of periodic publishing, in hertz; zero and below disable it. -/
  mapPublishFrequency : Float := 0.0
  /-- The reprojection matrix, row by row. -/
  matrix : Option (List Float) := none
  /-- The time that one pose look-up may take, in seconds. -/
  lookupTimeout : Float := 0.05
  /-- The period of status reports, in seconds; zero and below disable them. -/
  statusPeriod : Float := 5.0
  /-- Where to find the map engine. -/
  mapEngine : String := ""
  engine : EngineParams := {}
deriving DecidableEq, Inhabited

namespace ManagerParams

/-- The size of the full image: width and height. -/
def fullImageSize (params : ManagerParams) : Int × Int :=
  (params.fullImageWidth, params.fullImageHeight)

/-- The period of the publishing timer, unless periodic publishing is disabled. -/
def publishPeriod? (params : ManagerParams) : Option Float :=
  if params.mapPublishFrequency ≤ 0.0 then none else some (1.0 / params.mapPublishFrequency)

/-- The matrix as a value: a list, or null. -/
def matrixValue : Option (List Float) → Value
  | none => .null
  | some numbers => .list (numbers.map .float)

/-- The field of the reprojection matrix; issues name the offending entry. -/
def matrixField : Field ManagerParams where
  name := "Q"
  get params := matrixValue params.matrix
  store value params :=
    match readFloatList? value with
    | .ok matrix => .ok { params with matrix := matrix }
    | .error issues => .error (issues.map (Issue.under (.field "Q")))

/-- The fields of the manager itself, in order. -/
def ownFields : List (Field ManagerParams) :=
  [ .simple "tf_frame" (readText 1) .text
      (·.worldFrame) (fun frame params => { params with worldFrame := frame }),
    .simple "full_image_width" readPositive .int
      (·.fullImageWidth) (fun size params => { params with fullImageWidth := size }),
    .simple "full_image_height" readPositive .int
      (·.fullImageHeight) (fun size params => { params with fullImageHeight := size }),
    .simple "map_publish_frequency" readFloat .float
      (·.mapPublishFrequency) (fun rate params => { params with mapPublishFrequency := rate }),
    matrixField,
    .simple "tf_timeout_sec" (readFloatWithin [.above 0.0]) .float
      (·.lookupTimeout) (fun time params => { params with lookupTimeout := time }),
    .simple "status_publish_period_sec" readFloat .float
      (·.statusPeriod) (fun time params => { params with statusPeriod := time }),
    .simple "map_engine" (readText 0) .text
      (·.mapEngine) (fun spec params => { params with mapEngine := spec }) ]

/-- The name of the nested record of engine parameters. -/
def engineName : String := "octomap"

/-- The nested record of engine parameters as a field: it is built from a mapping. -/
def engineField : Field ManagerParams where
  name := engineName
  get params := .mapping params.engine.toMapping
  store value params :=
    match value with
    | .mapping given =>
      match EngineParams.build given with
      | .ok engine => .ok { params with engine := engine }
      | .error report => .error (report.issues.map (Issue.under (.field engineName)))
    | _ => .error [⟨.notRecord, [.field engineName]⟩]

/-- The schema of the manager's own parameters. -/
def ownSchema : Schema ManagerParams where
  record := "ManagerParams"
  fields := ownFields
  breach? _ := none

/-- The schema of the manager's parameters with the nested record. -/
def schema : Schema ManagerParams :=
  { ownSchema with fields := ownFields ++ [engineField] }

/-- Build the parameters of the manager from a mapping with a nested record. -/
def build (given : Mapping) : Except Report ManagerParams :=
  schema.build {} given

/-- The names that are derived from the fields and cannot be assigned. -/
def derivedNames : List String :=
  ["world_frame", "full_image_size", "map_publish_period_sec"]

end ManagerParams

end MapIngest.Config
