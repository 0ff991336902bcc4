import MapIngest.Proofs.Config.Fields

/-!
# Dividing a namespace

A namespace is divided by moving the engine's parameters out of it, one after the
other.  This file says what is found in both parts afterwards: the manager's part
keeps every name that is none of the engine's, and the engine's part answers with
the flat value of a parameter, or else with the nested one.  From this, whenever a
namespace is accepted, every parameter holds what its value is read as, or its
default.

A namespace that was written from parameters divides into the two mappings it was
put together from.
-/

namespace MapIngest.Config

namespace Division

/-! ## Moving flat parameters -/

theorem named?_manager_moveFlat (division : Division) (moved name : String) :
    (division.moveFlat moved).manager.named? name =
      if moved = name then none else division.manager.named? name := by
  rw [moveFlat]
  split
  · exact Mapping.named?_erase _ _ _
  next absent =>
    split
    next same =>
      subst same
      exact absent
    next => rfl

theorem named?_engine_moveFlat (division : Division) (moved name : String) :
    (division.moveFlat moved).engine.named? name =
      if moved = name then (division.manager.named? name).or (division.engine.named? name)
      else division.engine.named? name := by
  rw [moveFlat]
  split
  next value found =>
    rw [Mapping.named?_insert]
    split
    next same =>
      subst same
      rw [found]
      rfl
    next => rfl
  next absent =>
    split
    next same =>
      subst same
      rw [absent]
      rfl
    next => rfl

/-- The manager's part keeps the names that are not moved. -/
theorem named?_manager_foldl (names : List String) (division : Division) (name : String) :
    (names.foldl moveFlat division).manager.named? name =
      if name ∈ names then none else division.manager.named? name := by
  induction names generalizing division with
  | nil => simp
  | cons moved rest ih =>
      rw [List.foldl_cons, ih, named?_manager_moveFlat]
      by_cases later : name ∈ rest
      · simp [later]
      · by_cases same : moved = name
        · simp [same]
        · simp [later, same, Ne.symm same]

/-- The engine's part answers with a moved value, or else with its own. -/
theorem named?_engine_foldl {names : List String} (distinct : names.Nodup)
    (division : Division) (name : String) :
    (names.foldl moveFlat division).engine.named? name =
      if name ∈ names then (division.manager.named? name).or (division.engine.named? name)
      else division.engine.named? name := by
  induction names generalizing division with
  | nil => simp
  | cons moved rest ih =>
      rcases List.nodup_cons.mp distinct with ⟨fresh, others⟩
      rw [List.foldl_cons, ih others, named?_engine_moveFlat, named?_manager_moveFlat]
      by_cases same : moved = name
      · subst same
        simp [fresh]
      · simp [same, Ne.symm same]

theorem ofNamespace_eq_ok_iff {given : Mapping} {division : Division} :
    ofNamespace given = .ok division ↔
      ∃ inner, nested given = .ok inner ∧
        EngineParams.schema.names.foldl moveFlat
          ⟨given.erase (.text ManagerParams.engineName), inner⟩ = division := by
  rw [ofNamespace, bind_eq_ok]
  constructor
  · rintro ⟨inner, found, returned⟩
    exact ⟨inner, found, Except.ok.inj returned⟩
  · rintro ⟨inner, found, rfl⟩
    exact ⟨inner, found, rfl⟩

/-! ## Clearing an empty matrix -/

def isVacant (value : Value) : Bool :=
  match value.length with
  | .ok count => count == 0
  | .error _ => false

/-- A matrix that is given as an empty collection counts as no matrix. -/
def settled (name : String) (value : Value) : Value :=
  if name = ManagerParams.matrixField.name ∧ isVacant value then .null else value

theorem settled_of_ne {name : String} (other : name ≠ ManagerParams.matrixField.name)
    (value : Value) : settled name value = value := by
  rw [settled, if_neg (fun both => other both.1)]

/-- The matrix is empty if it is given, and given as an empty collection. -/
theorem hasEmptyMatrix_eq {division : Division} {empty : Bool}
    (decided : division.hasEmptyMatrix = .ok empty) :
    empty = (division.manager.named? ManagerParams.matrixField.name).any isVacant := by
  rw [hasEmptyMatrix] at decided
  cases found : division.manager.named? ManagerParams.matrixField.name with
  | none =>
      rw [found] at decided
      cases decided
      rfl
  | some value =>
      rw [found] at decided
      split at decided
      next equal => cases equal
      next equal =>
        cases equal
        cases decided
        rfl
      next given _ equal =>
        cases equal
        rw [Option.any_some, isVacant]
        cases counted : value.length with
        | error fault =>
            rw [counted] at decided
            cases decided
        | ok count =>
            rw [counted] at decided
            cases decided
            rfl

/-- Clearing settles the matrix and leaves every other setting. -/
theorem named?_clearEmptyMatrix {division cleared : Division}
    (clear : division.clearEmptyMatrix = .ok cleared) (name : String) :
    cleared.manager.named? name = (division.manager.named? name).map (settled name) := by
  rcases bind_eq_ok.mp clear with ⟨empty, decided, result⟩
  have vacant := hasEmptyMatrix_eq decided
  by_cases asked : name = ManagerParams.matrixField.name
  · subst asked
    cases empty with
    | true =>
        cases result
        rw [Mapping.named?_insert, if_pos rfl]
        cases found : division.manager.named? ManagerParams.matrixField.name with
        | none =>
            rw [found] at vacant
            cases vacant
        | some value =>
            rw [found, Option.any_some] at vacant
            rw [Option.map_some, settled, if_pos ⟨rfl, vacant.symm⟩]
    | false =>
        cases result
        cases found : division.manager.named? ManagerParams.matrixField.name with
        | none => rfl
        | some value =>
            rw [found, Option.any_some] at vacant
            rw [Option.map_some, settled, if_neg (by simp [← vacant])]
  · have untouched : cleared.manager.named? name = division.manager.named? name := by
      cases empty with
      | true =>
          cases result
          rw [Mapping.named?_insert, if_neg (Ne.symm asked)]
      | false =>
          cases result
          rfl
    rw [untouched]
    cases division.manager.named? name with
    | none => rfl
    | some value => rw [Option.map_some, settled_of_ne asked]

theorem engine_clearEmptyMatrix {division cleared : Division}
    (clear : division.clearEmptyMatrix = .ok cleared) : cleared.engine = division.engine := by
  rcases bind_eq_ok.mp clear with ⟨empty, -, result⟩
  cases empty with
  | true =>
      cases result
      rfl
  | false =>
      cases result
      rfl

end Division

/-! ## What accepted parameters hold -/

theorem buildNamed_eq_ok_iff {ρ : Type} {build : Mapping → Except Report ρ} {given : Mapping}
    {record : ρ} :
    buildNamed build given = .ok record ↔
      (∃ names, given.names? = some names) ∧ build given = .ok record := by
  rw [buildNamed]
  cases given.names? with
  | none => simp [Value.refuse]
  | some names =>
      cases built : build given with
      | ok other => simp [Report.refused]
      | error report => simp [Report.refused]

namespace ManagerParams

theorem ofNamespace_eq_ok_iff {given : Mapping} {params : ManagerParams} :
    ofNamespace given = .ok params ↔
      ∃ division cleared engine, Division.ofNamespace given = .ok division ∧
        division.clearEmptyMatrix = .ok cleared ∧
        buildNamed EngineParams.build cleared.engine = .ok engine ∧
        buildNamed (ownSchema.build { engine := engine }) cleared.manager = .ok params := by
  rw [ofNamespace]
  simp only [bind_eq_ok, Division.build]
  constructor
  · rintro ⟨division, divided, cleared, clear, engine, first, second⟩
    exact ⟨division, cleared, engine, divided, clear, first, second⟩
  · rintro ⟨division, cleared, engine, divided, clear, first, second⟩
    exact ⟨division, divided, cleared, clear, engine, first, second⟩

/-- The engine's parameters of accepted parameters are those that were validated first. -/
theorem engine_of_built {engine : EngineParams} {given : Mapping} {params : ManagerParams}
    (built : ownSchema.build { engine := engine } given = .ok params) :
    params.engine = engine :=
  Schema.build_spares spares_engine built

/-- Own names and engine names are apart, and none of them is the name of the nested record. -/
theorem names_apart :
    (∀ name ∈ ownSchema.names, name ∉ EngineParams.schema.names) ∧
      (∀ name ∈ ownSchema.names, name ≠ engineName) ∧
      ∀ name ∈ EngineParams.schema.names, name ≠ engineName := by
  decide

/--
Whenever a namespace is accepted, the engine's parameters hold what their flat
values, or else their nested values, are read as, and the manager's what their
values are read as; without a value, a parameter holds its default.
-/
theorem ofNamespace_holds {given : Mapping} {params : ManagerParams}
    (accepted : ofNamespace given = .ok params) :
    ∃ inner, Division.nested given = .ok inner ∧
      (∀ field ∈ EngineParams.schema.fields,
        field.Holds ((given.named? field.name).or (inner.named? field.name)) {}
          params.engine) ∧
      ∀ field ∈ ownSchema.fields,
        field.Holds ((given.named? field.name).map (Division.settled field.name)) {} params := by
  rcases ofNamespace_eq_ok_iff.mp accepted with
    ⟨division, cleared, engine, divided, clear, engineBuilt, ownBuilt⟩
  rcases Division.ofNamespace_eq_ok_iff.mp divided with ⟨inner, found, rfl⟩
  have engineBuilt := (buildNamed_eq_ok_iff.mp engineBuilt).2
  have ownBuilt := (buildNamed_eq_ok_iff.mp ownBuilt).2
  obtain rfl := engine_of_built ownBuilt
  refine ⟨inner, found, ?_, ?_⟩
  · intro field member
    have known : field.name ∈ EngineParams.schema.names := List.mem_map_of_mem member
    have holds := Schema.build_holds EngineParams.fields_lawful engineBuilt field member
    rw [Division.engine_clearEmptyMatrix clear,
      Division.named?_engine_foldl EngineParams.names_nodup, if_pos known,
      Mapping.named?_erase, if_neg (Ne.symm (names_apart.2.2 _ known))] at holds
    exact holds
  · intro field member
    have known : field.name ∈ ownSchema.names := List.mem_map_of_mem member
    have holds := Schema.build_holds fields_lawful ownBuilt field member
    rw [Division.named?_clearEmptyMatrix clear, Division.named?_manager_foldl,
      if_neg (names_apart.1 _ known), Mapping.named?_erase,
      if_neg (Ne.symm (names_apart.2.1 _ known))] at holds
    exact holds.of_get_eq (get_withEngine {} params.engine field member) rfl

end ManagerParams

end MapIngest.Config
