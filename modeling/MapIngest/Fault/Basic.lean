import MapIngest.Config.Issue
import MapIngest.Fault.Conversion

/-!
# Faults

Every failure that an operation can end in is a value of one type.  A fault
has a kind, by which handlers choose what they catch, and a text, which log
records show.  A fault also carries a message of its own, unless it is a
failed conversion: those come from below the level of this library, and what
they say is no part of an answer.

A fault that an outside component raised keeps the kind and the text which
that component gave it.
-/

namespace MapIngest

/-- Why an operation failed. -/
inductive Fault where
  | conversion (cause : Conversion)
  /-- An outside component failed. -/
  | raised (kind : Kind) (text : String)
  /-- An image is not of the one supported encoding; the found one is shown quoted. -/
  | imageEncoding (found : String)
  /-- A row of an image is no whole number of elements, or too few. -/
  | imageStep (step width : Int)
  /-- An image buffer is too short. -/
  | imageBuffer (held needed : Int)
  /-- A point cloud lacks one of the three axes. -/
  | cloudAxes
  /-- An axis of a point cloud has an unsupported number format. -/
  | cloudFormat (found axis : String)
  /-- The rows of a point cloud overlap. -/
  | cloudRow (step needed : Int)
  /-- A point cloud buffer is too short. -/
  | cloudBuffer (held needed : Int)
  /-- The right camera has no focal length. -/
  | focalLength (frame : String)
  /-- The right camera has no distance to the left one. -/
  | baseline (frame : String)
  /-- No transform from one frame to another is known. -/
  | noPose (target source detail : String)
  /-- An engine is named in no known form. -/
  | engineSpec (spec : String)
  /-- The module of an engine cannot be loaded. -/
  | engineModule (module detail : String)
  /-- A module does not define the engine named. -/
  | engineMember (module member : String)
  /-- What is named is no engine. -/
  | engineClass (spec : String)
  /-- An engine cannot be constructed. -/
  | engineConstruction (spec detail : String)
  /-- No engine is named at all. -/
  | engineUnset
  /-- A configuration is refused. -/
  | invalid (report : Config.Report)
  /-- A configuration file does not exist. -/
  | missingFile (path : String)
  /-- A configuration path names a directory. -/
  | directory
  /-- A configuration file is not in the text encoding. -/
  | encoding
  /-- A configuration file is no document. -/
  | document
  /-- A name is not exported by the library. -/
  | notExported (name : String)
  /-- A property of a record cannot be stored to. -/
  | fixedProperty (name : String)
  /-- What a record is made of cannot be exchanged. -/
  | fixedRecord (name : String)
deriving DecidableEq

namespace Fault

/-- The kind of a fault. -/
def kind : Fault → Kind
  | .conversion cause => cause.kind
  | .raised kind _ => kind
  | .imageEncoding _ | .imageStep _ _ | .imageBuffer _ _ => .value
  | .cloudAxes | .cloudFormat _ _ | .cloudRow _ _ | .cloudBuffer _ _ => .value
  | .focalLength _ | .baseline _ => .calibration
  | .noPose _ _ _ => .pose
  | .engineSpec _ | .engineModule _ _ | .engineMember _ _ | .engineClass _
  | .engineConstruction _ _ => .plugin
  | .engineUnset => .value
  | .invalid _ => .validation
  | .missingFile _ => .missingFile
  | .directory => .directory
  | .encoding => .encoding
  | .document => .document
  | .notExported _ | .fixedProperty _ => .attribute
  | .fixedRecord _ => .type

/-- The text of a fault raised outside: the text of a missing key is shown quoted. -/
def raisedText (kind : Kind) (text : String) : String :=
  if kind = .key then Text.quoted text else text

/-- The text of a fault in a log record. -/
def text : Fault → String
  | .conversion cause => cause.text
  | .raised kind text => raisedText kind text
  | .imageEncoding found => "Expected 32FC1 disparity image, got encoding " ++ found
  | .imageStep step width =>
    "Image step " ++ Decimal.intText step ++ " invalid for width " ++ Decimal.intText width
  | .imageBuffer held needed =>
    "Image buffer has " ++ Decimal.intText held ++ " bytes, expected " ++
      Decimal.intText needed
  | .cloudAxes => "PointCloud2 has no x/y/z fields"
  | .cloudFormat found axis =>
    "Unsupported datatype " ++ found ++ " for field " ++ Text.quoted axis
  | .cloudRow step needed =>
    "row_step " ++ Decimal.intText step ++ " smaller than width * point_step (" ++
      Decimal.intText needed ++ ")"
  | .cloudBuffer held needed =>
    "PointCloud2 buffer has " ++ Decimal.intText held ++ " bytes, expected " ++
      Decimal.intText needed
  | .focalLength frame => "Right camera (" ++ frame ++ ") has fx == 0"
  | .baseline frame =>
    "Stereo baseline is zero (right camera " ++ frame ++ " P[0,3] == 0)"
  | .noPose target source detail => target ++ " <- " ++ source ++ ": " ++ detail
  | .engineSpec spec =>
    "Invalid map_engine spec. Expected 'package.module:ClassName', got: " ++
      Text.quoted spec
  | .engineModule module detail =>
    "Cannot import map engine module " ++ Text.quoted module ++ ": " ++ detail
  | .engineMember module member =>
    "Module " ++ Text.quoted module ++ " has no attribute " ++ Text.quoted member
  | .engineClass spec => Text.quoted spec ++ " is not a MapEngine subclass"
  | .engineConstruction spec detail =>
    "Cannot construct map engine " ++ Text.quoted spec ++ ": " ++ detail
  | .engineUnset => "octomap_manager: map_engine must be set ('package.module:ClassName')"
  | .invalid report => report.headline
  | .missingFile path => "Config file not found: " ++ path
  | .directory => "is a directory"
  | .encoding => "not in the text encoding"
  | .document => "not a document"
  | .notExported name =>
    "module 'octomap_world' has no attribute " ++ Text.quoted name
  | .fixedProperty name => "property " ++ Text.quoted name ++ " has no setter"
  | .fixedRecord name => name ++ " must be set to what a record can be made of"

/-- The message that an answer shows: failures from below this library have none. -/
def message? (fault : Fault) : Option String :=
  match fault with
  | .conversion _ | .directory | .encoding | .document => none
  | .fixedProperty _ | .fixedRecord _ => none
  | fault => some fault.text

end Fault

end MapIngest
