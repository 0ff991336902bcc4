import MapIngest.Config.Files
import MapIngest.Config.Merge
import MapIngest.Config.Namespace

/-!
# Configurations in layers

A configuration consists of a base file, a preset file and overrides, each of
which may be left out.  A file holds the parameters of a node under the name
of the node, or under the name that stands for every node; the former is
looked at first.  The layers are merged in order and read as one namespace.
-/

namespace MapIngest.Config

/-- The names under which the parameters of the node may stand, in order. -/
def sectionNames : List String :=
  ["octomap_manager", "/**"]

/-- The name under which a section keeps the parameters. -/
def parametersName : String := "ros__parameters"

/-- The parameters that a document holds under a name. -/
def sectionAt? (document : Mapping) (name : String) : Option Value :=
  match document.named? name with
  | some (.mapping held) => Mapping.named? held parametersName
  | _ => none

/-- The parameters that a document holds for the node. -/
def nodeSection (document : Value) : Except Fault Mapping :=
  match document with
  | .mapping entries =>
    match sectionNames.findSome? (sectionAt? entries) with
    | some parameters => parameters.toMappingOrEmpty
    | none => .ok []
  | value => Value.refuse (.mappingSort value.sort)

/-- The parameters of a file; without a path, none. -/
def fileSection (files : Files) (path? : Option String) : Except Fault Mapping :=
  match path? with
  | none => .ok []
  | some path => if path.isEmpty then .ok [] else do nodeSection (← files.load path)

/-- Where a configuration comes from. -/
structure Sources where
  base? : Option String := none
  preset? : Option String := none
  overrides : Value := .null

/-- The merged namespace of a configuration. -/
def Sources.merged (sources : Sources) (files : Files) : Except Fault Mapping := do
  let base ← fileSection files sources.base?
  let preset ← fileSection files sources.preset?
  merge [.mapping base, .mapping preset, sources.overrides]

/-- Load and validate a configuration. -/
def Sources.load (sources : Sources) (files : Files) : Except Fault ManagerParams := do
  ManagerParams.ofNamespace (← sources.merged files)

end MapIngest.Config
