import MapIngest.Config.Namespace

/-!
# Assigning to parameters

After the parameters are built, single values may be assigned by name, to the
manager's record or to the engine's.  A value is validated before it is
stored.  A derived name cannot be assigned.  An ordering between two engine
parameters is looked at after the value is stored: if it is broken, the
assignment is refused and the value stays.

Private names are no parameters, and what is assigned to them is not looked at.
Two of them stand for the record itself, its class and the dictionary of its
fields; a record of known fields has no other, so that neither can be assigned.
-/

namespace MapIngest.Config

/-- The record that an assignment goes to. -/
inductive Target where
  | manager
  | engine
deriving DecidableEq

/-- One assignment. -/
structure Assignment where
  target : Target
  name : String
  value : Value

/-- Names with a leading underscore are kept for private use and are not parameters. -/
def isPrivateName (name : String) : Bool :=
  name.startsWith "_"

/-- The private names that stand for the record itself. -/
def recordNames : List String :=
  ["__class__", "__dict__"]

/-- Assign by name in a record: the outcome, and the record as it is afterwards. -/
def assignNamed {ρ : Type} (schema : Schema ρ) (derived : List String) (record : ρ)
    (name : String) (value : Value) : Except Fault Unit × ρ :=
  if isPrivateName name then
    (if recordNames.contains name then .error (.fixedRecord name) else .ok (), record)
  else if derived.contains name then
    (.error (.fixedProperty name), record)
  else
    let (outcome, stored) := schema.assign record name value
    (Report.refused outcome, stored)

/-- Assign to one of the two records: the outcome, and the parameters as they are afterwards. -/
def ManagerParams.assign (params : ManagerParams) (assignment : Assignment) :
    Except Fault Unit × ManagerParams :=
  match assignment.target with
  | .manager => assignNamed schema derivedNames params assignment.name assignment.value
  | .engine =>
    let (outcome, engine) :=
      assignNamed EngineParams.schema [] params.engine assignment.name assignment.value
    (outcome, { params with engine := engine })

end MapIngest.Config
