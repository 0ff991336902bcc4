import Mathlib.Data.List.Basic
import MapIngest.Proofs.Config.Division

/-!
# Writing a namespace and reading it again

Parameters that were read from a namespace are read again from the namespace that
they are written as, whatever spellings the first one used.  Every setting is taken
back as what it was read as, the names of both parts are apart, so that the written
namespace divides into what it was put together from, and a matrix is never empty,
so that none is cleared the second time.
-/

namespace MapIngest.Config

namespace Division

/-- Moving the engine's parameters out of a written namespace takes exactly them. -/
theorem foldl_moveFlat_written {own : Mapping} {fields : List (Field EngineParams)}
    (distinct : (fields.map Field.name).Nodup)
    (foreign : ∀ name ∈ fields.map Field.name, own.named? name = none)
    (engine : EngineParams) {moved : Mapping}
    (fresh : ∀ name ∈ fields.map Field.name, moved.named? name = none) :
    (fields.map Field.name).foldl moveFlat
        ⟨own ++ fields.map fun field => (.text field.name, field.get engine), moved⟩ =
      ⟨own, moved ++ fields.map fun field => (.text field.name, field.get engine)⟩ := by
  induction fields generalizing moved with
  | nil => simp
  | cons field rest ih =>
      rw [List.map_cons] at distinct foreign fresh
      rcases List.nodup_cons.mp distinct with ⟨single, others⟩
      rcases List.forall_mem_cons.mp foreign with ⟨absent, foreign⟩
      rcases List.forall_mem_cons.mp fresh with ⟨unmoved, fresh⟩
      have later := Schema.named?_map_eq_none single engine
      have taken : moveFlat ⟨own ++ (.text field.name, field.get engine) ::
            rest.map fun field => (.text field.name, field.get engine), moved⟩ field.name =
          ⟨own ++ rest.map fun field => (.text field.name, field.get engine),
            moved ++ [(.text field.name, field.get engine)]⟩ := by
        have found : Mapping.named? (own ++ (.text field.name, field.get engine) ::
            rest.map fun field => (.text field.name, field.get engine)) field.name =
              some (field.get engine) := by
          rw [Mapping.named?_append, absent, Mapping.named?_cons_text, if_pos rfl]
          rfl
        simp only [moveFlat, found]
        rw [Mapping.erase_append, Mapping.erase_of_absent absent, Mapping.erase_cons_self,
          Mapping.erase_of_absent later, Mapping.insert_of_absent unmoved]
      rw [List.map_cons, List.map_cons, List.foldl_cons, taken, ih others foreign,
        List.append_assoc]
      · rfl
      · intro name member
        have apart : field.name ≠ name := by
          rintro rfl
          exact single member
        rw [Mapping.named?_append, fresh name member, Mapping.named?_cons_text, if_neg apart]
        rfl

theorem ofNamespace_written (params : ManagerParams) :
    ofNamespace params.toNamespace =
      .ok ⟨ManagerParams.ownSchema.toMapping params, params.engine.toMapping⟩ := by
  have foreign : ∀ name ∈ EngineParams.schema.names,
      (ManagerParams.ownSchema.toMapping params).named? name = none := by
    intro name member
    refine Schema.named?_toMapping_eq_none (fun own => ?_) params
    exact ManagerParams.names_apart.1 name own member
  have absent : params.toNamespace.named? ManagerParams.engineName = none := by
    rw [ManagerParams.toNamespace, Mapping.named?_append,
      Schema.named?_toMapping_eq_none (by decide), EngineParams.toMapping,
      Schema.named?_toMapping_eq_none (by decide)]
    rfl
  refine ofNamespace_eq_ok_iff.mpr ⟨[], by rw [nested, absent], ?_⟩
  rw [Mapping.erase_of_absent absent]
  exact foldl_moveFlat_written EngineParams.names_nodup foreign params.engine (fun _ _ => rfl)

theorem isVacant_settled (value : Value) :
    isVacant (settled ManagerParams.matrixField.name value) = false := by
  rw [settled]
  split
  · rfl
  next filled => simpa using filled

end Division

namespace ManagerParams

theorem matrix_ne_nil {given : Mapping} {params : ManagerParams}
    (accepted : ofNamespace given = .ok params) : params.matrix ≠ some [] := by
  intro empty
  rcases ofNamespace_holds accepted with ⟨-, -, -, holds⟩
  have matrix := holds matrixField (by simp [ownSchema, ownFields])
  have shown : matrixField.get params = .list [] := by
    simp only [matrixField, empty, matrixValue, List.map_nil]
  cases found : given.named? matrixField.name with
  | none =>
      rw [found] at matrix
      have default : matrixField.get params = .null := matrix
      rw [shown] at default
      cases default
  | some value =>
      rw [found] at matrix
      have stores : matrixField.Stores (Division.settled matrixField.name value)
        (matrixField.get params) := matrix
      have filled := Division.isVacant_settled value
      rcases stores {} with ⟨after, stored, holds⟩
      rcases matrixField_store_eq_ok_iff.mp stored with ⟨kept, read, rfl⟩
      have none : kept = some [] := matrixValue_injective (holds.trans shown)
      subst none
      -- Only an empty list is read as an empty list.
      cases setting : Division.settled matrixField.name value with
      | list contents =>
          rw [setting] at read filled
          rw [readFloatList?] at read
          cases numbers : readFloats 0 contents with
          | error issues =>
              rw [numbers] at read
              cases read
          | ok found =>
              rw [numbers] at read
              cases read
              have counted := length_readFloats numbers
              cases contents with
              | nil => cases filled
              | cons item rest => cases counted
      | mapping entries =>
          rw [setting] at read
          cases read
      | scalar content =>
          rw [setting] at read
          cases content <;> cases read

theorem clearEmptyMatrix_written {params : ManagerParams} (filled : params.matrix ≠ some []) :
    Division.clearEmptyMatrix ⟨ownSchema.toMapping params, params.engine.toMapping⟩ =
      .ok ⟨ownSchema.toMapping params, params.engine.toMapping⟩ := by
  have found : (ownSchema.toMapping params).named? matrixField.name =
      some (matrixValue params.matrix) :=
    Schema.named?_toMapping names_nodup params matrixField (by simp [ownSchema, ownFields])
  have kept : Division.hasEmptyMatrix
      ⟨ownSchema.toMapping params, params.engine.toMapping⟩ = .ok false := by
    rw [Division.hasEmptyMatrix, found]
    cases held : params.matrix with
    | none => rfl
    | some numbers =>
        cases numbers with
        | nil => exact (filled held).elim
        | cons number rest => simp [matrixValue, Value.length, Value.items, Except.map]
  rw [Division.clearEmptyMatrix, kept]
  rfl

theorem stores_get {given : Mapping} {params : ManagerParams}
    (accepted : ofNamespace given = .ok params) :
    (∀ field ∈ EngineParams.schema.fields,
      field.Stores (field.get params.engine) (field.get params.engine)) ∧
      ∀ field ∈ ownSchema.fields, field.Stores (field.get params) (field.get params) := by
  rcases ofNamespace_holds accepted with ⟨inner, -, engine, own⟩
  constructor
  · intro field member
    exact (EngineParams.fields_lawful.lawful field member).stores_get
      (EngineParams.stores_default field member) (engine field member)
  · intro field member
    exact (fields_lawful.lawful field member).stores_get (stores_default field member)
      (own field member)

/-- Accepted parameters keep the orderings of the engine's parameters. -/
theorem breach?_engine {given : Mapping} {params : ManagerParams}
    (accepted : ofNamespace given = .ok params) : EngineParams.breach? params.engine = none := by
  rcases ofNamespace_eq_ok_iff.mp accepted with
    ⟨division, cleared, engine, -, -, engineBuilt, ownBuilt⟩
  obtain rfl := engine_of_built (buildNamed_eq_ok_iff.mp ownBuilt).2
  exact (Schema.build_eq_ok_iff _).mp (buildNamed_eq_ok_iff.mp engineBuilt).2 |>.2.2

/--
Parameters that are read from any namespace are read again from the namespace
that they are written as, and this one is written again as it was.
-/
theorem ofNamespace_toNamespace {given : Mapping} {params : ManagerParams}
    (accepted : ofNamespace given = .ok params) :
    ofNamespace params.toNamespace = .ok params ∧
      (ofNamespace params.toNamespace).map toNamespace = .ok params.toNamespace := by
  rcases stores_get accepted with ⟨engineFixed, ownFixed⟩
  have engineBuilt : EngineParams.build params.engine.toMapping = .ok params.engine :=
    Schema.build_toMapping EngineParams.fields_lawful EngineParams.names_nodup
      (fun _ => ()) (fun _ _ _ _ _ _ => rfl) engineFixed
      (breach?_engine accepted) (fun _ same _ => EngineParams.eq_of_get same) rfl
  have ownBuilt : ownSchema.build { engine := params.engine } (ownSchema.toMapping params) =
      .ok params :=
    Schema.build_toMapping fields_lawful names_nodup ManagerParams.engine spares_engine
      ownFixed rfl (fun _ => eq_of_get) rfl
  have returned : ofNamespace params.toNamespace = .ok params :=
    ofNamespace_eq_ok_iff.mpr ⟨_, _, _, Division.ofNamespace_written params,
      clearEmptyMatrix_written (matrix_ne_nil accepted),
      buildNamed_eq_ok_iff.mpr ⟨⟨_, Schema.names?_toMapping _⟩, engineBuilt⟩,
      buildNamed_eq_ok_iff.mpr ⟨⟨_, Schema.names?_toMapping _⟩, ownBuilt⟩⟩
  refine ⟨returned, ?_⟩
  rw [returned]
  rfl

/-- A namespace of settings in many spellings: texts, integers, and an empty matrix. -/
def coerced : Mapping :=
  [ (.text "full_image_width", .text " 1_024.0 "), (.text "full_image_height", .bool true),
    (.text "map_publish_frequency", .int 2), (.text "Q", .text ""),
    (.text "visualize_max_z", .text "nan"), (.text "resolution", .text "0.25"),
    (.text "octomap", .mapping
      [ (.text "resolution", .int 3), (.text "filter_speckles", .text "OFF"),
        (.text "sensor_max_range", .text "1e400") ]) ]

/-- The parameters that the spellings of `coerced` are read as. -/
def uncoerced : ManagerParams :=
  { fullImageWidth := 1024
    fullImageHeight := 1
    mapPublishFrequency := 2.0
    engine :=
      { resolution := 0.25
        filterSpeckles := false
        sensorMaxRange := 1.0 / 0.0
        visualizeMaxZ := 0.0 / 0.0 } }

theorem coerced_returns :
    ofNamespace coerced = .ok uncoerced ∧
      ofNamespace uncoerced.toNamespace = .ok uncoerced := by
  have accepted : ofNamespace coerced = .ok uncoerced := by decide +kernel
  exact ⟨accepted, (ofNamespace_toNamespace accepted).1⟩

end ManagerParams

end MapIngest.Config
