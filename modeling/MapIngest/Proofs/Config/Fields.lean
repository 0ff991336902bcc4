import MapIngest.Config.Namespace
import MapIngest.Proofs.Config.Schema
import MapIngest.Proofs.Fallible

/-!
# The fields of the parameters are lawful

Every reader of a setting takes back what it returned: a double within limits,
a positive integer, a truth value, a text and a list of doubles are read as
themselves.  From this the fields of the manager's and of the engine's parameters
are lawful, each of them takes back its default, and none of them accepts a
mapping.  Two records with the same fields are the same record.
-/

namespace MapIngest.Config

/-! ## Readers -/

/-- A reader takes back what it returned. -/
def Rereads {ε α : Type} (read : Value → Except ε α) (dump : α → Value) : Prop :=
  ∀ value stored, read value = .ok stored → read (dump stored) = .ok stored

theorem withinLimits_eq_ok_iff {limits : List Limit} {number stored : Float} :
    withinLimits limits number = .ok stored ↔
      (∀ limit ∈ limits, limit.admits number = true) ∧ stored = number := by
  rw [withinLimits]
  cases broken : limits.find? fun limit => !limit.admits number with
  | none =>
      have kept : ∀ limit ∈ limits, limit.admits number = true := by simpa using broken
      constructor
      · rintro ⟨⟩
        exact ⟨kept, rfl⟩
      · rintro ⟨-, rfl⟩
        rfl
  | some limit =>
      constructor
      · rintro ⟨⟩
      · rintro ⟨kept, -⟩
        have member := List.mem_of_find?_eq_some broken
        have refused := List.find?_some broken
        rw [kept limit member] at refused
        cases refused

theorem rereads_float : Rereads readFloat .float :=
  fun _ _ _ => rfl

theorem rereads_floatWithin (limits : List Limit) :
    Rereads (readFloatWithin limits) .float := by
  intro value stored read
  rw [readFloatWithin] at read ⊢
  cases number : readFloat value with
  | error refusal =>
      rw [number] at read
      cases read
  | ok given =>
      rw [number] at read
      rcases withinLimits_eq_ok_iff.mp read with ⟨kept, rfl⟩
      exact withinLimits_eq_ok_iff.mpr ⟨kept, rfl⟩

theorem rereads_positive : Rereads readPositive .int := by
  intro value stored read
  rw [readPositive] at read ⊢
  cases number : readInteger value with
  | error refusal =>
      rw [number] at read
      cases read
  | ok given =>
      rw [number] at read
      simp only [bind, Except.bind, readInteger] at read ⊢
      split at read
      next positive =>
        cases read
        rw [if_pos positive]
      next => cases read

theorem rereads_truth : Rereads readTruth .bool :=
  fun _ _ _ => rfl

theorem longEnough_again {least : Nat} {given stored : String}
    (read : longEnough least given = .ok stored) : longEnough least stored = .ok stored := by
  rw [longEnough] at read
  split at read
  next => cases read
  next long =>
    cases read
    rw [longEnough, if_neg long]

theorem rereads_text (least : Nat) : Rereads (readText least) .text := by
  intro value stored read
  cases value with
  | scalar content =>
      cases content with
      | text given => exact longEnough_again read
      | bytes given =>
          rw [readText, readSpelled] at read
          split at read
          next => exact longEnough_again read
          next => cases read
      | _ => cases read
  | _ => cases read

theorem readFloats_floats (index : Nat) (numbers : List Float) :
    readFloats index (numbers.map .float) = .ok numbers := by
  induction numbers generalizing index with
  | nil => rfl
  | cons number rest ih => rw [List.map_cons, readFloats, ih]; rfl

theorem rereads_floatList : Rereads readFloatList? ManagerParams.matrixValue := by
  intro value stored _
  cases stored with
  | none => rfl
  | some numbers => rw [ManagerParams.matrixValue, readFloatList?, readFloats_floats]; rfl

theorem length_readFloats {index : Nat} {items : List Value} {numbers : List Float}
    (read : readFloats index items = .ok numbers) : numbers.length = items.length := by
  induction items generalizing index numbers with
  | nil =>
      cases read
      rfl
  | cons item rest ih =>
      rw [readFloats] at read
      split at read
      next number others here later =>
        cases read
        rw [List.length_cons, List.length_cons, ih later]
      all_goals cases read

theorem readFloats_error_ne_nil {index : Nat} {items : List Value} {issues : List Issue}
    (refused : readFloats index items = .error issues) : issues ≠ [] := by
  induction items generalizing index issues with
  | nil => cases refused
  | cons item rest ih =>
      rw [readFloats] at refused
      split at refused
      next => cases refused
      next later =>
        cases refused
        exact ih later
      all_goals
        cases refused
        exact List.cons_ne_nil _ _

/-! ## Simple fields -/

namespace Field

variable {ρ α β : Type} {name : String} {read : Value → Except Refusal α}
  {dump : α → Value} {get : ρ → α} {set : α → ρ → ρ}

theorem simple_stores (get_set : ∀ stored record, get (set stored record) = stored)
    {value : Value} {stored : α} (accepted : read value = .ok stored) :
    (simple name read dump get set).Stores value (dump stored) := by
  intro record
  refine ⟨set stored record, ?_, congrArg dump (get_set stored record)⟩
  simp only [simple, accepted]

theorem simple_stores_float {name : String} {limits : List Limit} {get : ρ → Float}
    {set : Float → ρ → ρ} (get_set : ∀ stored record, get (set stored record) = stored)
    {number : Float} (kept : ∀ limit ∈ limits, limit.admits number = true) :
    (simple name (readFloatWithin limits) .float get set).Stores (.float number)
      (.float number) :=
  simple_stores get_set (withinLimits_eq_ok_iff.mpr ⟨kept, rfl⟩)

theorem simple_refuses {value : Value} {refusal : Refusal}
    (refused : read value = .error refusal) :
    (simple name read dump get set).Refuses value := by
  intro record
  refine ⟨⟨refusal, [.field name]⟩, [], ?_⟩
  simp only [simple, refused]

theorem simple_lawful (get_set : ∀ stored record, get (set stored record) = stored)
    (rereads : Rereads read dump) : (simple name read dump get set).Lawful where
  decides value := by
    cases outcome : read value with
    | ok stored => exact Or.inl ⟨dump stored, simple_stores get_set outcome⟩
    | error refusal => exact Or.inr (simple_refuses outcome)
  rereads value held stores := by
    intro record
    rcases stores record with ⟨after, accepted, rfl⟩
    cases outcome : read value with
    | error refusal =>
        simp only [simple, outcome] at accepted
        cases accepted
    | ok stored =>
        simp only [simple, outcome, Except.ok.injEq] at accepted
        subst accepted
        have taken : dump (get (set stored record)) = dump stored :=
          congrArg dump (get_set stored record)
        change ∃ after, _ = Except.ok after ∧ _ = dump (get (set stored record))
        rw [show (simple name read dump get set).get (set stored record) = dump stored
          from taken, taken]
        exact simple_stores get_set (rereads value stored outcome) record

theorem simple_spares {view : ρ → β}
    (spared : ∀ stored record, view (set stored record) = view record) :
    (simple name read dump get set).Spares view := by
  intro value record after accepted
  cases outcome : read value with
  | error refusal =>
      simp only [simple, outcome] at accepted
      cases accepted
  | ok stored =>
      simp only [simple, outcome, Except.ok.injEq] at accepted
      subst accepted
      exact spared stored record

end Field

/-! ## The engine's parameters -/

namespace EngineParams

theorem names_nodup : schema.names.Nodup := by decide

theorem fields_lawful : LawfulFields schema.fields where
  lawful := by
    simp only [schema, fields, List.forall_mem_cons]
    refine ⟨?_, ?_, ?_, ?_, ?_, ?_, ?_, ?_, ?_, ?_, by simp⟩
    case refine_7 => exact Field.simple_lawful (fun _ _ => rfl) rereads_truth
    all_goals exact Field.simple_lawful (fun _ _ => rfl) (rereads_floatWithin _)
  apart := by
    simp only [schema, fields, List.pairwise_cons, List.forall_mem_cons]
    and_intros
    all_goals first
      | exact Field.simple_spares fun _ _ => rfl
      | simp

/-- Every default of the engine passes its own check. -/
theorem stores_default :
    ∀ field ∈ schema.fields, field.Stores (field.get {}) (field.get {}) := by
  simp only [schema, fields, List.forall_mem_cons]
  refine ⟨?_, ?_, ?_, ?_, ?_, ?_, ?_, ?_, ?_, ?_, by simp⟩
  case refine_7 => exact Field.simple_stores (fun _ _ => rfl) rfl
  all_goals exact Field.simple_stores_float (fun _ _ => rfl) (by decide)

theorem refuses_mapping (entries : Mapping) :
    ∀ field ∈ schema.fields, field.Refuses (.mapping entries) := by
  simp only [schema, fields, List.forall_mem_cons]
  refine ⟨?_, ?_, ?_, ?_, ?_, ?_, ?_, ?_, ?_, ?_, by simp⟩
  all_goals exact Field.simple_refuses rfl

theorem eq_of_get {left right : EngineParams}
    (same : ∀ field ∈ schema.fields, field.get left = field.get right) : left = right := by
  simp only [schema, fields, floatField, Field.simple, List.forall_mem_cons] at same
  cases left
  cases right
  simp_all

end EngineParams

/-! ## The manager's own parameters -/

namespace ManagerParams

theorem matrixField_stores {value : Value} {matrix : Option (List Float)}
    (read : readFloatList? value = .ok matrix) :
    matrixField.Stores value (matrixValue matrix) := by
  intro params
  refine ⟨{ params with matrix := matrix }, ?_, rfl⟩
  simp only [matrixField, read]

theorem readFloatList?_error_ne_nil {value : Value} {issues : List Issue}
    (refused : readFloatList? value = .error issues) : issues ≠ [] := by
  cases value with
  | list contents =>
      rw [readFloatList?] at refused
      cases read : readFloats 0 contents with
      | ok numbers =>
          rw [read] at refused
          cases refused
      | error found =>
          rw [read] at refused
          cases refused
          exact readFloats_error_ne_nil read
  | mapping entries =>
      cases refused
      exact List.cons_ne_nil _ _
  | scalar content =>
      cases content with
      | null => cases refused
      | _ =>
          cases refused
          exact List.cons_ne_nil _ _

theorem matrixField_refuses {value : Value} {issues : List Issue}
    (refused : readFloatList? value = .error issues) : matrixField.Refuses value := by
  intro params
  cases issues with
  | nil => exact (readFloatList?_error_ne_nil refused rfl).elim
  | cons issue others =>
      refine ⟨issue.under (.field "Q"), others.map (Issue.under (.field "Q")), ?_⟩
      simp only [matrixField, refused, List.map_cons]

/-- Storing a matrix is storing what it is read as. -/
theorem matrixField_store_eq_ok_iff {value : Value} {params after : ManagerParams} :
    matrixField.store value params = .ok after ↔
      ∃ matrix, readFloatList? value = .ok matrix ∧ { params with matrix := matrix } = after := by
  simp only [matrixField]
  cases readFloatList? value <;> simp

theorem matrixField_lawful : matrixField.Lawful where
  decides value := by
    cases outcome : readFloatList? value with
    | ok matrix => exact Or.inl ⟨matrixValue matrix, matrixField_stores outcome⟩
    | error issues => exact Or.inr (matrixField_refuses outcome)
  rereads value held stores := by
    rcases stores {} with ⟨after, accepted, rfl⟩
    rcases matrixField_store_eq_ok_iff.mp accepted with ⟨matrix, read, rfl⟩
    exact matrixField_stores (rereads_floatList value matrix read)

theorem matrixField_spares {β : Type} {view : ManagerParams → β}
    (spared : ∀ matrix params, view { params with matrix := matrix } = view params) :
    matrixField.Spares view := by
  intro value params after accepted
  rcases matrixField_store_eq_ok_iff.mp accepted with ⟨matrix, -, rfl⟩
  exact spared matrix params

theorem names_nodup : ownSchema.names.Nodup := by decide

theorem fields_lawful : LawfulFields ownSchema.fields where
  lawful := by
    simp only [ownSchema, ownFields, List.forall_mem_cons]
    refine ⟨?_, ?_, ?_, ?_, ?_, ?_, ?_, ?_, by simp⟩
    · exact Field.simple_lawful (fun _ _ => rfl) (rereads_text 1)
    · exact Field.simple_lawful (fun _ _ => rfl) rereads_positive
    · exact Field.simple_lawful (fun _ _ => rfl) rereads_positive
    · exact Field.simple_lawful (fun _ _ => rfl) rereads_float
    · exact matrixField_lawful
    · exact Field.simple_lawful (fun _ _ => rfl) (rereads_floatWithin _)
    · exact Field.simple_lawful (fun _ _ => rfl) rereads_float
    · exact Field.simple_lawful (fun _ _ => rfl) (rereads_text 0)
  apart := by
    simp only [ownSchema, ownFields, List.pairwise_cons, List.forall_mem_cons]
    and_intros
    all_goals first
      | exact Field.simple_spares fun _ _ => rfl
      | exact matrixField_spares fun _ _ => rfl
      | simp

/-- Storing to a field of the manager leaves the engine's parameters. -/
theorem spares_engine : ∀ field ∈ ownSchema.fields, field.Spares ManagerParams.engine := by
  simp only [ownSchema, ownFields, List.forall_mem_cons]
  and_intros
  all_goals first
    | exact Field.simple_spares fun _ _ => rfl
    | exact matrixField_spares fun _ _ => rfl
    | simp

/-- Every default of the manager passes its own check. -/
theorem stores_default :
    ∀ field ∈ ownSchema.fields, field.Stores (field.get {}) (field.get {}) := by
  simp only [ownSchema, ownFields, List.forall_mem_cons]
  refine ⟨?_, ?_, ?_, ?_, ?_, ?_, ?_, ?_, by simp⟩
  case refine_5 =>
    have read : readFloatList? .null = .ok none := rfl
    exact matrixField_stores read
  case refine_6 => exact Field.simple_stores_float (fun _ _ => rfl) (by decide)
  all_goals exact Field.simple_stores (fun _ _ => rfl) rfl

theorem refuses_mapping (entries : Mapping) :
    ∀ field ∈ ownSchema.fields, field.Refuses (.mapping entries) := by
  simp only [ownSchema, ownFields, List.forall_mem_cons]
  refine ⟨?_, ?_, ?_, ?_, ?_, ?_, ?_, ?_, by simp⟩
  case refine_5 => exact matrixField_refuses rfl
  all_goals exact Field.simple_refuses rfl

theorem get_withEngine (params : ManagerParams) (engine : EngineParams) :
    ∀ field ∈ ownSchema.fields, field.get { params with engine := engine } = field.get params := by
  simp only [ownSchema, ownFields, List.forall_mem_cons]
  and_intros
  all_goals first
    | rfl
    | simp

theorem matrixValue_injective {left right : Option (List Float)}
    (same : matrixValue left = matrixValue right) : left = right := by
  cases left with
  | none =>
      cases right with
      | none => rfl
      | some numbers => cases same
  | some numbers =>
      cases right with
      | none => cases same
      | some others =>
          simp only [matrixValue, Value.list.injEq] at same
          have apart : ∀ number other : Float, Value.float number = .float other →
              number = other := by
            rintro number other ⟨⟩
            rfl
          exact congrArg some ((List.map_inj_right apart).mp same)

/-- The manager's own fields and the engine's parameters determine the parameters. -/
theorem eq_of_get {left right : ManagerParams}
    (same : ∀ field ∈ ownSchema.fields, field.get left = field.get right)
    (engines : left.engine = right.engine) : left = right := by
  simp only [ownSchema, ownFields, Field.simple, matrixField, List.forall_mem_cons] at same
  rcases same with ⟨frame, width, height, rate, matrix, timeout, period, spec, -⟩
  have matrices := matrixValue_injective matrix
  cases left
  cases right
  simp_all

end ManagerParams

end MapIngest.Config
