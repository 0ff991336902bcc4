import Mathlib.Data.List.Nodup
import Mathlib.Data.List.Pairwise
import MapIngest.Config.Assignment
import MapIngest.Proofs.Config.Limits
import MapIngest.Proofs.Run

/-!
# What an assignment leaves behind

An assignment either leaves the parameters as they were, or stores what the value is
read as.  Whatever is assigned, every field goes on taking back what it holds.

Parameters whose fields do so are read again from the namespace that they are written
as, except for a matrix that is empty, and unless an ordering of the engine is broken.
-/

namespace MapIngest.Config

/-! ## Assigning to one record -/

namespace Schema

variable {ρ : Type} {schema : Schema ρ}

/-- A value is refused and nothing is stored, or it is stored and the record is checked. -/
theorem assign_cases (schema : Schema ρ) (record : ρ) (name : String) (value : Value) :
    (∃ report, schema.assign record name value = (.error report, record)) ∨
      ∃ field ∈ schema.fields, field.name = name ∧
        ∃ after, field.store value record = .ok after ∧
          schema.assign record name value =
            ((schema.checked after).map fun _ => (), after) := by
  rw [assign]
  cases found : schema.fields.find? (·.name == name) with
  | none => exact Or.inl ⟨_, rfl⟩
  | some field =>
      cases stored : field.store value record with
      | error issues =>
          refine Or.inl ⟨⟨schema.record, issues⟩, ?_⟩
          simp only [stored]
      | ok after =>
          have named : (field.name == name) = true :=
            List.find?_some (p := fun other : Field ρ => other.name == name) found
          refine Or.inr ⟨field, List.mem_of_find?_eq_some found, beq_iff_eq.mp named, after,
            stored, ?_⟩
          simp only [stored]

/-- A field is the one that is found under its name. -/
theorem find?_name (distinct : schema.names.Nodup) {field : Field ρ}
    (member : field ∈ schema.fields) :
    schema.fields.find? (·.name == field.name) = some field := by
  cases found : schema.fields.find? (·.name == field.name) with
  | none =>
      have absent := List.find?_eq_none.mp found field member
      exact (absent (beq_self_eq_true _)).elim
  | some other =>
      have named : (other.name == field.name) = true :=
        List.find?_some (p := fun other : Field ρ => other.name == field.name) found
      exact congrArg some (List.inj_on_of_nodup_map distinct
        (List.mem_of_find?_eq_some found) member (beq_iff_eq.mp named))

/-- A value that a field stores is stored under the name of the field. -/
theorem assign_of_store (distinct : schema.names.Nodup) {field : Field ρ}
    (member : field ∈ schema.fields) {value : Value} {record after : ρ}
    (stored : field.store value record = .ok after) :
    schema.assign record field.name value =
      ((schema.checked after).map fun _ => (), after) := by
  rw [assign, find?_name distinct member]
  simp only [stored]

/-- Storing to one of lawful fields keeps that every field takes back what it holds. -/
theorem stores_of_store (lawful : LawfulFields schema.fields) {field : Field ρ}
    (member : field ∈ schema.fields) {value : Value} {record after : ρ}
    (stored : field.store value record = .ok after)
    (settled : ∀ other ∈ schema.fields, other.Stores (other.get record) (other.get record)) :
    ∀ other ∈ schema.fields, other.Stores (other.get after) (other.get after) := by
  intro other inside
  by_cases same : other = field
  · subst same
    have law := lawful.lawful other member
    exact law.rereads value _ (law.stores_of_store stored)
  · have symmetric : Std.Symm fun first second : Field ρ =>
        first.Spares second.get ∧ second.Spares first.get := ⟨fun _ _ both => both.symm⟩
    have apart := lawful.apart.forall member inside (Ne.symm same)
    rw [apart.1 stored]
    exact settled other inside

end Schema

/-- Records that are written alike hold the same in every field. -/
theorem Schema.get_of_toMapping {ρ : Type} {schema : Schema ρ} {left right : ρ}
    (same : schema.toMapping left = schema.toMapping right) :
    ∀ field ∈ schema.fields, field.get left = field.get right := by
  intro field member
  exact congrArg Prod.snd (List.map_inj_left.mp same field member)

section Named

variable {ρ : Type} {schema : Schema ρ} {derived : List String}

theorem assignNamed_cases (schema : Schema ρ) (derived : List String) (record : ρ)
    (name : String) (value : Value) :
    (∃ outcome, assignNamed schema derived record name value = (outcome, record)) ∨
      ∃ field ∈ schema.fields, field.name = name ∧
        ∃ after, field.store value record = .ok after ∧
          assignNamed schema derived record name value =
            (Report.refused ((schema.checked after).map fun _ => ()), after) := by
  rw [assignNamed]
  split
  · exact Or.inl ⟨_, rfl⟩
  · split
    · exact Or.inl ⟨_, rfl⟩
    · rcases schema.assign_cases record name value with
        ⟨report, refused⟩ | ⟨field, member, named, after, stored, checked⟩
      · exact Or.inl ⟨_, by rw [refused]⟩
      · exact Or.inr ⟨field, member, named, after, stored, by rw [checked]⟩

theorem assignNamed_of_store (distinct : schema.names.Nodup) {field : Field ρ}
    (member : field ∈ schema.fields) (shared : isPrivateName field.name = false)
    (primary : field.name ∉ derived) {value : Value} {record after : ρ}
    (stored : field.store value record = .ok after) :
    assignNamed schema derived record field.name value =
      (Report.refused ((schema.checked after).map fun _ => ()), after) := by
  have own : derived.contains field.name = false := by simpa using primary
  rw [assignNamed, shared, own, Schema.assign_of_store distinct member stored]
  rfl

end Named

/-! ## Assigning to the parameters -/

/-- An assignment as an action on the parameters. -/
def Assignment.act (assignment : Assignment) : Act ManagerParams Unit := fun params =>
  let (outcome, after) := params.assign assignment
  ⟨outcome, after, []⟩

@[simp]
theorem Assignment.run_act (assignment : Assignment) (params : ManagerParams) :
    assignment.act.run params =
      ⟨(params.assign assignment).1, (params.assign assignment).2, []⟩ := rfl

namespace ManagerParams

/-- What an assignment may come to: its outcome, and the parameters after it. -/
inductive Effect (params : ManagerParams) (assignment : Assignment) :
    Except Fault Unit × ManagerParams → Prop where
  /-- Nothing is stored. -/
  | kept (outcome : Except Fault Unit) : Effect params assignment (outcome, params)
  /-- The manager stores a value, which no ordering concerns. -/
  | own {field : Field ManagerParams} {after : ManagerParams}
      (member : field ∈ ownSchema.fields)
      (stored : field.store assignment.value params = .ok after) :
      Effect params assignment (.ok (), after)
  /-- The engine's parameters are replaced by such as were built. -/
  | replaced {given : Mapping} {engine : EngineParams}
      (built : EngineParams.build given = .ok engine) :
      Effect params assignment (.ok (), { params with engine := engine })
  /-- The engine stores a value, and then its orderings are checked. -/
  | engine {field : Field EngineParams} {engine : EngineParams}
      (target : assignment.target = .engine) (member : field ∈ EngineParams.schema.fields)
      (named : field.name = assignment.name)
      (stored : field.store assignment.value params.engine = .ok engine) :
      Effect params assignment
        (Report.refused ((EngineParams.schema.checked engine).map fun _ => ()),
          { params with engine := engine })

/-- Replacing the engine's parameters succeeds only with such as were built. -/
theorem engineField_store_eq_ok {value : Value} {params after : ManagerParams}
    (stored : engineField.store value params = .ok after) :
    ∃ given engine, EngineParams.build given = .ok engine ∧
      { params with engine := engine } = after := by
  cases value with
  | mapping given =>
      simp only [engineField] at stored
      cases built : EngineParams.build given with
      | error report =>
          rw [built] at stored
          cases stored
      | ok engine =>
          rw [built] at stored
          exact ⟨given, engine, built, Except.ok.inj stored⟩
  | scalar content => cases stored
  | list items => cases stored

theorem assign_effect (params : ManagerParams) (assignment : Assignment) :
    Effect params assignment (params.assign assignment) := by
  rcases assignment with ⟨target, name, value⟩
  cases target with
  | manager =>
      change Effect params _ (assignNamed schema derivedNames params name value)
      rcases assignNamed_cases schema derivedNames params name value with
        ⟨outcome, kept⟩ | ⟨field, member, -, after, stored, checked⟩
      · rw [kept]
        exact .kept outcome
      · rw [checked]
        rcases List.mem_append.mp member with own | nested
        · exact .own own stored
        · obtain rfl := List.mem_singleton.mp nested
          rcases engineField_store_eq_ok stored with ⟨given, engine, built, rfl⟩
          exact .replaced built
  | engine =>
      rcases assignNamed_cases EngineParams.schema [] params.engine name value with
        ⟨outcome, kept⟩ | ⟨field, member, named, engine, stored, checked⟩
      · have same : params.assign ⟨.engine, name, value⟩ = (outcome, params) := by
          simp only [assign, kept]
        rw [same]
        exact .kept outcome
      · have changed : params.assign ⟨.engine, name, value⟩ =
            (Report.refused ((EngineParams.schema.checked engine).map fun _ => ()),
              { params with engine := engine }) := by
          simp only [assign, checked]
        rw [changed]
        exact .engine rfl member named stored

/-! ## What every assignment keeps -/

/-- Replacing the engine's parameters leaves the manager's fields settled. -/
theorem Settled.withEngine {params : ManagerParams} (settled : params.Settled)
    {engine : EngineParams}
    (fixed : ∀ field ∈ EngineParams.schema.fields, field.Stores (field.get engine)
      (field.get engine)) :
    Settled { params with engine := engine } where
  engine := fixed
  own field member := by
    rw [get_withEngine params engine field member]
    exact settled.own field member

/-- Parameters of the engine that were built take back what they hold. -/
theorem stores_of_built {given : Mapping} {engine : EngineParams}
    (built : EngineParams.build given = .ok engine) :
    ∀ field ∈ EngineParams.schema.fields, field.Stores (field.get engine) (field.get engine) := by
  intro field member
  have holds := Schema.build_holds EngineParams.fields_lawful built field member
  exact (EngineParams.fields_lawful.lawful field member).stores_get
    (EngineParams.stores_default field member) holds

theorem Settled.effect {params : ManagerParams} (settled : params.Settled)
    {assignment : Assignment} {result : Except Fault Unit × ManagerParams}
    (effect : Effect params assignment result) : result.2.Settled := by
  cases effect with
  | kept outcome => exact settled
  | @own field after member stored =>
      constructor
      · rw [spares_engine field member stored]
        exact settled.engine
      · exact Schema.stores_of_store fields_lawful member stored settled.own
  | replaced built => exact settled.withEngine (stores_of_built built)
  | engine target member named stored =>
      exact settled.withEngine
        (Schema.stores_of_store EngineParams.fields_lawful member stored settled.engine)

/-- After every run of assignments the fields take back what they hold. -/
theorem Settled.after {params : ManagerParams} (settled : params.Settled)
    (assignments : List Assignment) : (Run.after Assignment.act params assignments).Settled := by
  have keeps : ∀ (state : ManagerParams) (assignment : Assignment), True → state.Settled →
      (assignment.act.run state).state.Settled :=
    fun state assignment _ fixed => fixed.effect (assign_effect state assignment)
  exact Run.holds_after keeps settled fun _ _ => trivial

/-! ## Writing the parameters and reading them again -/

/-- The parameters without a matrix that is empty. -/
def withoutVacancy (params : ManagerParams) : ManagerParams :=
  if params.matrix = some [] then { params with matrix := none } else params

theorem withoutVacancy_engine (params : ManagerParams) :
    params.withoutVacancy.engine = params.engine := by
  rw [withoutVacancy]
  split <;> rfl

theorem Settled.withoutVacancy {params : ManagerParams} (settled : params.Settled) :
    params.withoutVacancy.Settled := by
  rw [ManagerParams.withoutVacancy]
  split
  · have stored : matrixField.store .null params = .ok { params with matrix := none } := rfl
    exact ⟨settled.engine, Schema.stores_of_store fields_lawful
      (by simp [ownSchema, ownFields]) stored settled.own⟩
  · exact settled

/-- A written matrix that is empty is cleared before it is read. -/
theorem clearEmptyMatrix_vacant {params : ManagerParams} (vacant : params.matrix = some []) :
    Division.clearEmptyMatrix ⟨ownSchema.toMapping params, params.engine.toMapping⟩ =
      .ok ⟨ownSchema.toMapping { params with matrix := none }, params.engine.toMapping⟩ := by
  have found : (ownSchema.toMapping params).named? matrixField.name =
      some (matrixValue params.matrix) :=
    Schema.named?_toMapping names_nodup params matrixField (by simp [ownSchema, ownFields])
  have empty : Division.hasEmptyMatrix
      ⟨ownSchema.toMapping params, params.engine.toMapping⟩ = .ok true := by
    rw [Division.hasEmptyMatrix, found, vacant]
    rfl
  rw [Division.clearEmptyMatrix, empty]
  rfl

theorem clearEmptyMatrix_toMapping (params : ManagerParams) :
    Division.clearEmptyMatrix ⟨ownSchema.toMapping params, params.engine.toMapping⟩ =
      .ok ⟨ownSchema.toMapping params.withoutVacancy, params.engine.toMapping⟩ := by
  rw [withoutVacancy]
  split
  next vacant => exact clearEmptyMatrix_vacant vacant
  next filled => exact clearEmptyMatrix_written filled

theorem Settled.build_engine {params : ManagerParams} (settled : params.Settled) :
    EngineParams.build params.engine.toMapping =
      EngineParams.schema.checked params.engine :=
  Schema.build_toMapping_eq_checked EngineParams.fields_lawful EngineParams.names_nodup
    (fun _ => ()) (fun _ _ _ _ _ _ => rfl) settled.engine
    (fun _ same _ => EngineParams.eq_of_get same) rfl

/-- Parameters that take back what they hold are read as they were written, if they are sound. -/
theorem Settled.ofNamespace_of_sound {params : ManagerParams} (settled : params.Settled)
    (sound : EngineParams.breach? params.engine = none) :
    ofNamespace params.toNamespace = .ok params.withoutVacancy := by
  have checked : EngineParams.schema.checked params.engine = .ok params.engine := by
    rw [Schema.checked, show EngineParams.schema.breach? params.engine = none from sound]
  have ownRead : ownSchema.build { engine := params.engine }
      (ownSchema.toMapping params.withoutVacancy) = .ok params.withoutVacancy :=
    Schema.build_toMapping fields_lawful names_nodup ManagerParams.engine spares_engine
      settled.withoutVacancy.own rfl (fun _ => eq_of_get) params.withoutVacancy_engine.symm
  exact ofNamespace_eq_ok_iff.mpr ⟨_, _, params.engine, Division.ofNamespace_written params,
    clearEmptyMatrix_toMapping params,
    buildNamed_eq_ok_iff.mpr ⟨⟨_, Schema.names?_toMapping _⟩, settled.build_engine.trans checked⟩,
    buildNamed_eq_ok_iff.mpr ⟨⟨_, Schema.names?_toMapping _⟩, ownRead⟩⟩

/--
Parameters that take back what they hold are read again from what they are written
as, unless the check of the engine's orderings refuses them.
-/
theorem Settled.read_again {params : ManagerParams} (settled : params.Settled) :
    (∃ again, ofNamespace params.toNamespace = .ok again) ↔
      EngineParams.breach? params.engine = none := by
  refine ⟨?_, fun sound => ⟨_, settled.ofNamespace_of_sound sound⟩⟩
  rintro ⟨again, accepted⟩
  rcases ofNamespace_eq_ok_iff.mp accepted with
    ⟨division, cleared, engine, divided, clear, engineBuilt, -⟩
  rw [Division.ofNamespace_written, Except.ok.injEq] at divided
  rw [← divided, clearEmptyMatrix_toMapping, Except.ok.injEq] at clear
  rw [← clear] at engineBuilt
  have checked := (buildNamed_eq_ok_iff.mp engineBuilt).2
  rw [settled.build_engine, Schema.checked] at checked
  cases breached : EngineParams.breach? params.engine with
  | none => rfl
  | some breach =>
      rw [show EngineParams.schema.breach? params.engine = some breach from breached] at checked
      cases checked

end ManagerParams

end MapIngest.Config
