import MapIngest.Proofs.Config.Assignment
import MapIngest.Proofs.Config.Validation

/-!
# Declaring parameters and reading them back

Parameters are declared on a node as the entries of their namespace, and validation reads
them from the node again.  The names that are declared are those that are read.  What the
node holds is therefore the namespace in which the given values replace the declared ones,
and validation has the outcome of this namespace.

Validation leaves out what is null.  Of all parameters only the matrix can be null, and a
matrix that is null is stored as none, which is what it is without being given.
-/

namespace MapIngest

namespace Mapping

/-- Additions with keys of their own are found in front of the entries they are stored in. -/
theorem get?_insertAll {additions : Mapping} (distinct : additions.Distinct)
    (entries : Mapping) (key : Scalar) :
    get? (entries.insertAll additions) key = (get? additions key).or (get? entries key) := by
  induction additions generalizing entries with
  | nil => rfl
  | cons entry rest ih =>
      rcases entry with ⟨added, value⟩
      rcases List.pairwise_cons.mp distinct with ⟨-, others⟩
      have step : get? (entries.insertAll ((added, value) :: rest)) key =
          (get? rest key).or (get? (entries.insert added value) key) := ih others _
      rw [step, get?_insert, get?_cons]
      split
      next same =>
        rw [distinct.get?_tail same]
        rfl
      next => rfl

theorem named?_insertAll {additions : Mapping} (distinct : additions.Distinct)
    (entries : Mapping) (name : String) :
    (entries.insertAll additions).named? name =
      (additions.named? name).or (entries.named? name) :=
  get?_insertAll distinct entries _

theorem Textual.insertAll {entries additions : Mapping} (textual : entries.Textual)
    (textual' : additions.Textual) : (entries.insertAll additions).Textual := by
  induction additions generalizing entries with
  | nil => exact textual
  | cons entry rest ih =>
      rcases List.forall_mem_cons.mp textual' with ⟨⟨name, first⟩, others⟩
      have added := textual.insert name entry.2
      rw [← first] at added
      exact ih added others

end Mapping

namespace Config

/-! ## A matrix that is null -/

namespace ManagerParams

theorem matrixField_mem : matrixField ∈ ownSchema.fields := by
  simp [ownSchema, ownFields]

theorem eq_matrixField {field : Field ManagerParams} (member : field ∈ ownSchema.fields)
    (named : field.name = matrixField.name) : field = matrixField :=
  List.inj_on_of_nodup_map names_nodup member matrixField_mem named

/-- Where there is no matrix, a null changes nothing. -/
theorem matrixField_idle_null {blank : ManagerParams} (missing : blank.matrix = none) :
    matrixField.Idle blank .null := by
  intro record same
  have none : record.matrix = none := (matrixValue_injective same).trans missing
  apply matrixField_store_eq_ok_iff.mpr
  refine ⟨.none, rfl, ?_⟩
  rw [← none]

end ManagerParams

theorem IsFlat.ofNamespace_of_null {given other : Mapping} (flat : IsFlat given)
    (flat' : IsFlat other) (null : given.named? ManagerParams.matrixField.name = some .null)
    (absent : other.named? ManagerParams.matrixField.name = none)
    (same : ∀ name, name ≠ ManagerParams.matrixField.name →
      given.named? name = other.named? name) :
    ManagerParams.ofNamespace given = ManagerParams.ofNamespace other := by
  have measured : Measured given := by
    intro value found
    rw [null] at found
    exact Or.inl (Option.some.inj found).symm
  have measured' : Measured other := by
    intro value found
    rw [absent] at found
    cases found
  apply flat.ofNamespace_of_alike flat' measured measured'
  · intro name inside
    apply same
    rintro rfl
    exact matrixName_not_mem inside
  · intro engine field member
    by_cases named : field.name = ManagerParams.matrixField.name
    · obtain rfl := ManagerParams.eq_matrixField member named
      rw [null, absent]
      exact Or.inr ⟨rfl, .null, rfl, ManagerParams.matrixField_idle_null rfl⟩
    · rw [same field.name named]
      exact Or.inl rfl

/-! ## What is declared -/

namespace ManagerParams

variable (params : ManagerParams)

/-- Only the matrix of the manager's parameters can be null. -/
theorem eq_matrix_of_null :
    ∀ field ∈ ownSchema.fields, field.get params = .null → field.name = matrixField.name := by
  simp [ownSchema, ownFields, Field.simple, matrixField]

theorem engine_ne_null (engine : EngineParams) :
    ∀ field ∈ EngineParams.schema.fields, field.get engine ≠ .null := by
  simp [EngineParams.schema, EngineParams.fields, EngineParams.floatField, Field.simple]

theorem textual_toNamespace : params.toNamespace.Textual := by
  intro entry member
  rcases List.mem_append.mp member with own | engine
  · rcases List.mem_map.mp own with ⟨field, -, rfl⟩
    exact ⟨field.name, rfl⟩
  · rcases List.mem_map.mp engine with ⟨field, -, rfl⟩
    exact ⟨field.name, rfl⟩

/-- What is found in a written namespace is what one of the fields holds. -/
theorem named?_toNamespace {name : String} {value : Value}
    (found : params.toNamespace.named? name = some value) :
    (∃ field ∈ ownSchema.fields, field.name = name ∧ field.get params = value) ∨
      ∃ field ∈ EngineParams.schema.fields, field.name = name ∧
        field.get params.engine = value := by
  rcases Mapping.mem_of_get?_eq_some found with ⟨entry, member, same, rfl⟩
  rcases List.mem_append.mp member with own | engine
  · rcases List.mem_map.mp own with ⟨field, inside, rfl⟩
    exact Or.inl ⟨field, inside, by simpa using same, rfl⟩
  · rcases List.mem_map.mp engine with ⟨field, inside, rfl⟩
    exact Or.inr ⟨field, inside, by simpa using same, rfl⟩

theorem named?_toNamespace_eq_none_iff (name : String) :
    params.toNamespace.named? name = none ↔ name ∉ names := by
  rw [toNamespace, Mapping.named?_append, Option.or_eq_none_iff, names, List.mem_append, not_or]
  constructor
  · rintro ⟨own, engine⟩
    constructor
    · intro inside
      rcases List.mem_map.mp inside with ⟨field, member, rfl⟩
      rw [Schema.named?_toMapping names_nodup params field member] at own
      cases own
    · intro inside
      rcases List.mem_map.mp inside with ⟨field, member, rfl⟩
      rw [EngineParams.toMapping, Schema.named?_toMapping EngineParams.names_nodup params.engine
        field member] at engine
      cases engine
  · rintro ⟨own, engine⟩
    exact ⟨Schema.named?_toMapping_eq_none own params,
      Schema.named?_toMapping_eq_none engine params.engine⟩

theorem named?_toNamespace_ne_null {name : String} (other : name ≠ matrixField.name) :
    params.toNamespace.named? name ≠ some .null := by
  intro null
  rcases params.named?_toNamespace null with
    ⟨field, member, rfl, held⟩ | ⟨field, member, rfl, held⟩
  · exact other (params.eq_matrix_of_null field member held)
  · exact engine_ne_null params.engine field member held

theorem matrix_toNamespace :
    params.toNamespace.named? matrixField.name = some (matrixValue params.matrix) := by
  rw [toNamespace, Mapping.named?_append,
    Schema.named?_toMapping names_nodup params matrixField matrixField_mem]
  rfl

end ManagerParams

/-- The declarations of the fields of one record. -/
def fieldDeclarations {ρ : Type} (fields : List (Field ρ)) (record : ρ) : List Declaration :=
  fields.map fun field => ⟨field.name, field.get record, true⟩

theorem declarations_eq (params : ManagerParams) :
    declarations params = fieldDeclarations ManagerParams.ownSchema.fields params ++
      fieldDeclarations EngineParams.schema.fields params.engine := by
  simp [declarations, ManagerParams.toNamespace, EngineParams.toMapping, Schema.toMapping,
    fieldDeclarations, List.filterMap_map]

/-- The names that are declared are those that are read. -/
theorem declared_names (params : ManagerParams) :
    (declarations params).map Declaration.name = ManagerParams.names := by
  simp [declarations_eq, fieldDeclarations, ManagerParams.names, Schema.names,
    Function.comp_def]

theorem named?_hold_fields {ρ : Type} (fields : List (Field ρ)) (record : ρ) (given : Mapping)
    (name : String) :
    (hold (fieldDeclarations fields record) given).named? name =
      (Mapping.named? (fields.map fun field => (.text field.name, field.get record)) name).map
        fun initial => (given.named? name).getD initial := by
  induction fields with
  | nil => rfl
  | cons field rest ih =>
      rw [List.map_cons, Mapping.named?_cons_text]
      change Mapping.named? ((.text field.name, _) ::
        hold (fieldDeclarations rest record) given) name = _
      rw [Mapping.named?_cons_text, ih]
      split
      next same =>
        subst same
        rfl
      next => rfl

/-- A node holds for a declared name the value that is given for it, or what was declared. -/
theorem named?_hold (params : ManagerParams) (given : Mapping) (name : String) :
    (hold (declarations params) given).named? name =
      (params.toNamespace.named? name).map fun initial => (given.named? name).getD initial := by
  have split : hold (declarations params) given =
      hold (fieldDeclarations ManagerParams.ownSchema.fields params) given ++
        hold (fieldDeclarations EngineParams.schema.fields params.engine) given := by
    rw [declarations_eq, hold, List.map_append]
    rfl
  rw [split, Mapping.named?_append, named?_hold_fields, named?_hold_fields,
    ManagerParams.toNamespace, Mapping.named?_append, Option.map_or]
  rfl

/-! ## Overrides -/

/-- The node gives its matrix as a list, if it gives one. -/
def ListsMatrix (given : Mapping) : Prop :=
  ∀ value, given.named? ManagerParams.matrixField.name = some value →
    ∃ contents, value = .list contents

namespace IsPlain

variable {given : Mapping} (plain : IsPlain given) (params : ManagerParams)

include plain

theorem named?_replaced (name : String) :
    (params.toNamespace.insertAll given).named? name =
      (given.named? name).or (params.toNamespace.named? name) :=
  Mapping.named?_insertAll plain.distinct _ name

/-- A node holds the namespace in which the given values replace the declared ones. -/
theorem named?_hold_eq (name : String) :
    (hold (declarations params) given).named? name =
      (params.toNamespace.insertAll given).named? name := by
  rw [named?_hold, plain.named?_replaced]
  cases declared : params.toNamespace.named? name with
  | some initial => cases given.named? name <;> rfl
  | none =>
      rw [plain.flat.known name ((params.named?_toNamespace_eq_none_iff name).mp declared)]
      rfl

theorem flat_replaced : IsFlat (params.toNamespace.insertAll given) where
  textual := params.textual_toNamespace.insertAll plain.flat.textual
  known name foreign := by
    rw [plain.named?_replaced, plain.flat.known name foreign,
      (params.named?_toNamespace_eq_none_iff name).mpr foreign]
    rfl

theorem replaced_ne_null {name : String} (other : name ≠ ManagerParams.matrixField.name) :
    (params.toNamespace.insertAll given).named? name ≠ some .null := by
  rw [plain.named?_replaced]
  cases found : given.named? name with
  | none => exact params.named?_toNamespace_ne_null other
  | some value =>
      intro null
      exact plain.ne_null found (Option.some.inj null)

/-- The matrix that is held is null or a list. -/
theorem matrix_replaced (listed : ListsMatrix given) :
    (params.toNamespace.insertAll given).named? ManagerParams.matrixField.name = some .null ∨
      ∃ contents, (params.toNamespace.insertAll given).named? ManagerParams.matrixField.name =
        some (.list contents) := by
  rw [plain.named?_replaced, params.matrix_toNamespace]
  cases found : given.named? ManagerParams.matrixField.name with
  | some value =>
      rcases listed value found with ⟨contents, rfl⟩
      exact Or.inr ⟨contents, rfl⟩
  | none =>
      cases params.matrix with
      | none => exact Or.inl rfl
      | some numbers => exact Or.inr ⟨numbers.map .float, rfl⟩

end IsPlain

/-! ## Validation -/

section Validation

variable {held given : Mapping} (same : ∀ name, held.named? name = given.named? name)
  (filled : ∀ name, name ≠ ManagerParams.matrixField.name → given.named? name ≠ some .null)
  (matrix : given.named? ManagerParams.matrixField.name = some .null ∨
    ∃ contents, given.named? ManagerParams.matrixField.name = some (.list contents))

include same filled in
theorem heldValue?_of_same {name : String} (other : name ≠ ManagerParams.matrixField.name) :
    heldValue? held name = .ok (given.named? name) := by
  rw [heldValue?, same]
  split
  next absent => rw [absent]
  next null => exact (filled name other null).elim
  next value _ found => rw [if_neg other, found]

include same matrix in
theorem not_holdsAtom : ¬ HoldsAtom held := by
  rintro ⟨value, found, atom⟩
  rw [same] at found
  rcases matrix with null | ⟨contents, listed⟩
  · rw [null] at found
    obtain rfl := Option.some.inj found
    exact atom
  · rw [listed] at found
    obtain rfl := Option.some.inj found
    exact atom

include same filled matrix in
/-- A node is read as the namespace it holds, if of this only the matrix is null or a list. -/
theorem validate_of_same (flat : IsFlat given) :
    Answered (validate held) ∧ (validate held).1 = ManagerParams.ofNamespace given := by
  rcases exists_gathered (not_holdsAtom same matrix) with ⟨gathered, done⟩
  refine ⟨answered_of_gather done, ?_⟩
  rcases named?_gather done with ⟨-, taken⟩
  have others : ∀ name, name ≠ ManagerParams.matrixField.name →
      given.named? name = gathered.named? name := by
    intro name other
    by_cases inside : name ∈ ManagerParams.names
    · have equal := (taken name).1 inside
      rw [heldValue?_of_same same filled other] at equal
      exact Except.ok.inj equal
    · rw [flat.known name inside, (taken name).2 inside]
  have gatheredMatrix := matrix_gathered done
  rw [heldValue?, same] at gatheredMatrix
  rw [validate_eq, done, ok_bind]
  rcases matrix with null | ⟨contents, listed⟩
  · -- What is null is not gathered, and the matrix is missing in what is read.
    rw [null] at gatheredMatrix
    have absent := (Except.ok.inj gatheredMatrix).symm
    exact (flat.ofNamespace_of_null (flat_of_gather done) null absent others).symm
  · rw [listed] at gatheredMatrix
    have kept := (Except.ok.inj gatheredMatrix).symm
    have measured : Measured given := by
      intro value found
      rw [listed] at found
      obtain rfl := Option.some.inj found
      exact Or.inr ⟨contents.length, rfl⟩
    refine (flat_of_gather done).ofNamespace_congr flat (measured_of_gather done) measured ?_
    intro name
    by_cases asked : name = ManagerParams.matrixField.name
    · rw [asked, kept, listed]
    · rw [others name asked]

end Validation

/--
Let parameters that some namespace is read as be declared on a node.  The names that are
declared are those that validation reads.  If the node is given no values, validation
returns the same parameters and writes no record.  If it is given values for some of the
names, none of them null and the matrix as a list, validation has the outcome of the
written parameters with these values in place of what is written.
-/
theorem declared_read_back {source : Mapping} {params : ManagerParams}
    (accepted : ManagerParams.ofNamespace source = .ok params) :
    (declarations params).map Declaration.name = ManagerParams.names ∧
      validate (hold (declarations params) []) = (.ok params, []) ∧
      ∀ given, IsPlain given → ListsMatrix given →
        Answered (validate (hold (declarations params) given)) ∧
          (validate (hold (declarations params) given)).1 =
            ManagerParams.ofNamespace (params.toNamespace.insertAll given) := by
  have overridden : ∀ given, IsPlain given → ListsMatrix given →
      Answered (validate (hold (declarations params) given)) ∧
        (validate (hold (declarations params) given)).1 =
          ManagerParams.ofNamespace (params.toNamespace.insertAll given) := by
    intro given plain listed
    exact validate_of_same (plain.named?_hold_eq params)
      (fun _ other => plain.replaced_ne_null params other)
      (plain.matrix_replaced params listed) (plain.flat_replaced params)
  have plain : IsPlain [] := ⟨nofun, List.Pairwise.nil, nofun⟩
  have filled : params.withoutVacancy = params :=
    if_neg (ManagerParams.matrix_ne_nil accepted)
  have read : ManagerParams.ofNamespace params.toNamespace = .ok params := by
    rw [(ManagerParams.settled_of_accepted accepted).ofNamespace_of_sound
      (ManagerParams.breach?_engine accepted), filled]
  refine ⟨declared_names params, ?_, overridden⟩
  rcases overridden [] plain nofun with ⟨answered, outcome⟩
  have returned : (validate (hold (declarations params) [])).1 = .ok params :=
    outcome.trans read
  revert answered returned
  generalize validate (hold (declarations params) []) = answer
  rintro (⟨other⟩ | ⟨report⟩) returned
  · rw [Except.ok.inj returned]
  · cases returned

/-- A resolution in place of the declared one, and a matrix where none was declared. -/
def givenMatrix : Mapping :=
  [(.text "resolution", .text "0.5"), (.text "Q", .list [.int 1, .float 2.0])]

theorem givenMatrix_plain : IsPlain givenMatrix where
  known := by
    simp only [givenMatrix, List.forall_mem_cons]
    exact ⟨⟨"resolution", by decide, rfl⟩, ⟨"Q", by decide, rfl⟩, List.forall_mem_nil _⟩
  distinct := by simp [givenMatrix, Mapping.Distinct]
  filled := by
    simp [givenMatrix]

open ManagerParams in
theorem givenMatrix_read_back :
    ofNamespace coerced = .ok uncoerced ∧ IsPlain givenMatrix ∧ ListsMatrix givenMatrix ∧
      validate (hold (declarations uncoerced) []) = (.ok uncoerced, []) ∧
      (validate (hold (declarations uncoerced) givenMatrix)).1 =
        .ok { uncoerced with
          matrix := some [1.0, 2.0]
          engine := { uncoerced.engine with resolution := 0.5 } } := by
  have accepted : ofNamespace coerced = .ok uncoerced := by decide +kernel
  have listed : ListsMatrix givenMatrix := by
    intro value found
    exact ⟨_, (Option.some.inj found).symm⟩
  rcases declared_read_back accepted with ⟨-, returned, overridden⟩
  refine ⟨accepted, givenMatrix_plain, listed, returned, ?_⟩
  rw [(overridden givenMatrix givenMatrix_plain listed).2]
  decide +kernel

end Config

end MapIngest
