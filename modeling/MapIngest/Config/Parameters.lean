import MapIngest.Config.Namespace
import MapIngest.Log

/-!
# Parameters of a node

A node holds named parameters whose values may have any type.  Every name of
the flat namespace is declared with its default; validating reads the values
back, skips names that are not there or hold null, and builds the parameters
of the manager from the rest.  A refusal is logged before it is returned.
-/

namespace MapIngest.Config

/-- A parameter as it is declared on a node. -/
structure Declaration where
  name : String
  initial : Value
  /-- The type of the value may change later. -/
  dynamic : Bool
deriving Inhabited

/-- Declare every parameter, with values of any type. -/
def declarations (defaults : ManagerParams) : List Declaration :=
  defaults.toNamespace.filterMap fun entry =>
    match entry.1 with
    | .text name => some ⟨name, entry.2, true⟩
    | _ => none

/-- What a node holds after declaring: the value given for a name, or its default. -/
def hold (declared : List Declaration) (given : Mapping) : Mapping :=
  declared.map fun declaration =>
    (.text declaration.name, (given.named? declaration.name).getD declaration.initial)

/-- The value of one name as validation takes it: nothing, if it is not there or null. -/
def heldValue? (held : Mapping) (name : String) : Except Fault (Option Value) :=
  match held.named? name with
  | none => .ok none
  | some .null => .ok none
  | some value =>
    if name = ManagerParams.matrixField.name then
      value.items.map fun contents => some (.list contents)
    else
      .ok (some value)

/-- Gather the values of names that a node holds. -/
def gather (held : Mapping) : List String → Except Fault Mapping
  | [] => .ok []
  | name :: rest => do
    let value? ← heldValue? held name
    let others ← gather held rest
    match value? with
    | some value => return (.text name, value) :: others
    | none => return others

/-- The record of a refused set of parameters. -/
def refusalRecord (report : Report) : LogRecord :=
  .error ("Invalid octomap manager parameters: " ++ report.headline)

/-- Validate the parameters that a node holds; a refusal is also logged. -/
def validate (held : Mapping) : Except Fault ManagerParams × List LogRecord :=
  match gather held ManagerParams.names with
  | .error fault => (.error fault, [])
  | .ok given =>
    match ManagerParams.ofNamespace given with
    | .error (.invalid report) => (.error (.invalid report), [refusalRecord report])
    | outcome => (outcome, [])

end MapIngest.Config
