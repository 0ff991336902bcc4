import MapIngest.Fault.Basic

/-!
# The public names

The parts of the program that others use are offered under short names.  Each
name belongs to the part of the package in which its object is defined.
-/

namespace MapIngest

/-- A public name and the part of the package that defines it. -/
structure Export where
  name : String
  home : String
deriving DecidableEq, Repr

namespace Export

/-- The name of the package. -/
def package : String := "octomap_world"

/-- The public names of one part of the package. -/
def of (part : String) (names : List String) : List Export :=
  names.map fun name => ⟨name, package ++ "." ++ part⟩

/-- All public names. -/
def all : List Export :=
  of "calibration" ["CameraCalibration", "ReprojectionCalibration", "compute_reprojection"] ++
    of "config" ["ManagerParams", "OctomapParameters"] ++
    of "engine" ["MapEngine", "MapSnapshot", "load_map_engine"] ++
    of "ingestion" ["IngestionGate"] ++
    of "operations" ["MapOperations", "MapPublishers"] ++
    of "manager" ["OctomapManager"] ++
    of "transforms" ["PoseResolver", "Transformation"]

/-- Find a public name. -/
def find (name : String) : Except Fault Export :=
  match all.find? (·.name == name) with
  | some found => .ok found
  | none => .error (.notExported name)

/-- The public names in alphabetical order. -/
def listing : List String :=
  (all.map Export.name).mergeSort

end Export

end MapIngest
