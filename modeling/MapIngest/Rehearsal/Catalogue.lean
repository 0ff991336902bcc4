import MapIngest.Engine.Plugin
import MapIngest.Rehearsal.Engine

/-!
# A catalogue of plugins

The host of plugins of a rehearsal is a catalogue: it lists modules with their
members.  A member is a class of engines, which may fail to be made, or
something else.  A module with dots in its name lies within the modules that
its leading parts name, and the first of these that is missing is reported.  A
name that begins with a dot has nothing to be relative to.
-/

namespace MapIngest.Rehearsal

/-- A member of a module. -/
inductive Member where
  /-- A class of engines with its title, and the fault that making one ends in, if it does. -/
  | engineClass (title : String) (fault? : Option Fault)
  | other

/-- The members of a module by name. -/
abbrev Members := List (String × Member)

/-- Modules with their members. -/
abbrev Catalogue := List (String × Members)

/-- The leading parts of a dotted name, each longer than the last, and the name itself. -/
def leadingParts : (passed : List Char) → List Char → List String
  | passed, [] => [String.ofList passed.reverse]
  | passed, '.' :: rest =>
    String.ofList passed.reverse :: leadingParts ('.' :: passed) rest
  | passed, c :: rest => leadingParts (c :: passed) rest

/-- The calls that an engine must answer, in the order of reports. -/
def requiredCalls : List String :=
  [ "generate_marker_array", "get_octomap_binary_msg", "get_octomap_full_msg",
    "insert_disparity_image", "insert_pointcloud", "load_octomap_from_file", "reset_map",
    "set_free", "set_occupied", "set_octomap_parameters", "write_octomap_to_file" ]

/-- A class of engines that answers some calls only cannot be made. -/
def Member.partialClass (title : String) (answered : List String) : Member :=
  let missing := requiredCalls.filter fun call => !answered.contains call
  .engineClass title (some (.raised .type
    ("Can't instantiate abstract class " ++ title ++ " with abstract methods " ++
      ", ".intercalate missing)))

namespace Catalogue

/-- Find the module with a name. -/
def moduleNamed (catalogue : Catalogue) (name : String) : Except Fault Members :=
  if name.toList.head? = some '.' then
    Value.refuse .relativeName
  else
    match (leadingParts [] name.toList).find? fun part => (catalogue.lookup part).isNone with
    | some missing => .error (.raised .missingModule ("No module named " ++ Text.quoted missing))
    | none => .ok ((catalogue.lookup name).getD [])

/-- Find the member of a module with a name. -/
def member (members : Members) (name : String) : Except Fault Member :=
  match members.lookup name with
  | some found => .ok found
  | none => Value.refuse (.noField name)

/-- Whether a member is a class of engines. -/
def isEngine : Member → Bool
  | .engineClass _ _ => true
  | .other => false

/-- Make an engine that follows a script. -/
def construct (script : Script) : Member → Except Fault ScriptedEngine
  | .engineClass _ (some fault) => .error fault
  | .engineClass title none => .ok { title := title, script := script }
  | .other => Value.refuse (.noField "")

/-- The catalogue as a host of plugins. -/
def host (catalogue : Catalogue) (script : Script) :
    PluginHost Members Member ScriptedEngine where
  moduleNamed := catalogue.moduleNamed
  member := member
  isEngine := isEngine
  construct := construct script

end Catalogue

end MapIngest.Rehearsal
