import MapIngest.Config.ManagerParams
import MapIngest.Value.Conversion

/-!
# Flat namespaces

Outside this library the parameters form one flat namespace: those of the map
engine stand beside those of the manager.  Reading a namespace first divides
it.  The engine's part begins with the entries of a nested mapping, if there
is one; an engine parameter that is also given flat replaces the nested one.
An empty matrix counts as no matrix.

The engine's part is validated first, so that its issues hide those of the
manager's part.  Writing a namespace lists the manager's parameters and then
the engine's.
-/

namespace MapIngest.Config

/-- A report as the outcome of an operation. -/
def Report.refused {α : Type} : Except Report α → Except Fault α
  | .ok value => .ok value
  | .error report => .error (.invalid report)

/-- Build a record from a mapping whose keys must all be names. -/
def buildNamed {ρ : Type} (build : Mapping → Except Report ρ) (given : Mapping) :
    Except Fault ρ :=
  match given.names? with
  | some _ => Report.refused (build given)
  | none => Value.refuse .nameSort

/-- A namespace divided into the manager's part and the engine's part. -/
structure Division where
  manager : Mapping
  engine : Mapping

namespace Division

/-- Move one flat engine parameter into the engine's part. -/
def moveFlat (division : Division) (name : String) : Division :=
  match division.manager.named? name with
  | some value =>
    ⟨division.manager.erase (.text name), division.engine.insert (.text name) value⟩
  | none => division

/-- The engine parameters that a namespace nests. -/
def nested (given : Mapping) : Except Fault Mapping :=
  match given.named? ManagerParams.engineName with
  | some value => value.toMappingOrEmpty
  | none => .ok []

/-- Divide a namespace. -/
def ofNamespace (given : Mapping) : Except Fault Division := do
  let engine ← nested given
  let start : Division := ⟨given.erase (.text ManagerParams.engineName), engine⟩
  return EngineParams.schema.names.foldl moveFlat start

/-- Whether the manager's part gives the matrix as an empty collection. -/
def hasEmptyMatrix (division : Division) : Except Fault Bool :=
  match division.manager.named? ManagerParams.matrixField.name with
  | none => .ok false
  | some .null => .ok false
  | some value => value.length.map (· == 0)

/-- Replace an empty matrix by null. -/
def clearEmptyMatrix (division : Division) : Except Fault Division := do
  if ← division.hasEmptyMatrix then
    return { division with
      manager := division.manager.insert (.text ManagerParams.matrixField.name) .null }
  else
    return division

/-- Validate both parts, the engine's first. -/
def build (division : Division) : Except Fault ManagerParams := do
  let engine ← buildNamed EngineParams.build division.engine
  buildNamed (ManagerParams.ownSchema.build { engine := engine }) division.manager

end Division

namespace ManagerParams

/-- Read the parameters of the manager from a flat namespace. -/
def ofNamespace (given : Mapping) : Except Fault ManagerParams := do
  let division ← Division.ofNamespace given
  let division ← division.clearEmptyMatrix
  division.build

/-- The parameters of the manager as a flat namespace. -/
def toNamespace (params : ManagerParams) : Mapping :=
  ownSchema.toMapping params ++ params.engine.toMapping

/-- The names of a flat namespace, in order. -/
def names : List String :=
  ownSchema.names ++ EngineParams.schema.names

/-- Two sets of parameters agree; a result that is not a number agrees with itself. -/
def agree (left right : ManagerParams) : Bool :=
  Value.same (.mapping left.toNamespace) (.mapping right.toNamespace)

end ManagerParams

end MapIngest.Config
