import Mathlib.Data.List.Basic
import MapIngest.Proofs.Config.Division

/-!
# Namespaces that are read alike

What a flat namespace is read as depends on what is found under the known names, and
not on the order of the entries.  As long as the matrix can be measured, a namespace
divides into two parts whose keys are all texts, and what is found in them is what was
found before.  Two namespaces in which the same is found, up to a matrix given as an
empty collection, are therefore read with the same outcome, down to the report.

A flat namespace is refused in one of two ways only: by a report, or because its matrix
has no length.
-/

namespace MapIngest

namespace Mapping

/-- Every key is a text. -/
def Textual (entries : Mapping) : Prop :=
  ∀ entry ∈ entries, ∃ name, entry.1 = .text name

theorem textual_nil : Textual [] := by
  intro entry member
  cases member

theorem Textual.cons {entries : Mapping} (textual : entries.Textual) (name : String)
    (value : Value) : Textual ((.text name, value) :: entries) :=
  List.forall_mem_cons.mpr ⟨⟨name, rfl⟩, textual⟩

theorem Textual.erase {entries : Mapping} (textual : entries.Textual) (key : Scalar) :
    (entries.erase key).Textual :=
  fun entry member => textual entry (List.mem_filter.mp member |>.1)

theorem Textual.insert {entries : Mapping} (textual : entries.Textual) (name : String)
    (value : Value) : (entries.insert (.text name) value).Textual := by
  induction entries with
  | nil => exact textual_nil.cons name value
  | cons entry rest ih =>
      rcases entry with ⟨old, held⟩
      rcases List.forall_mem_cons.mp textual with ⟨first, others⟩
      rw [Mapping.insert]
      split
      · exact List.forall_mem_cons.mpr ⟨first, others⟩
      · exact List.forall_mem_cons.mpr ⟨first, ih others⟩

theorem Textual.names?_eq {entries : Mapping} (textual : entries.Textual) :
    ∃ names, entries.names? = some names := by
  induction entries with
  | nil => exact ⟨[], rfl⟩
  | cons entry rest ih =>
      rcases entry with ⟨key, value⟩
      rcases List.forall_mem_cons.mp textual with ⟨⟨name, first⟩, others⟩
      rcases ih others with ⟨names, found⟩
      obtain rfl : key = .text name := first
      rw [names?_cons_text, found]
      exact ⟨name :: names, rfl⟩

theorem named?_ne_none_of_mem {entries : Mapping} {name : String} {value : Value}
    (member : (.text name, value) ∈ entries) : entries.named? name ≠ none := by
  intro absent
  have apart := (get?_eq_none_iff entries _).mp absent _ member
  rw [Scalar.sameKey_refl] at apart
  cases apart

end Mapping

namespace Config

/-! ## Records built alike -/

section Idle

variable {ρ : Type}

/-- Stored in a record that holds the same as the blank one, the value changes nothing. -/
def Field.Idle (field : Field ρ) (blank : ρ) (value : Value) : Prop :=
  ∀ record, field.get record = field.get blank → field.store value record = .ok record

/-- The same is given for a field, or an idle value on the first side and nothing on the other. -/
def Field.GivenAlike (field : Field ρ) (blank : ρ) (value? other? : Option Value) : Prop :=
  value? = other? ∨ other? = none ∧ ∃ value, value? = some value ∧ field.Idle blank value

theorem Field.GivenAlike.readField_eq {field : Field ρ} {blank : ρ} {given other : Mapping}
    (alike : field.GivenAlike blank (given.named? field.name) (other.named? field.name))
    {progress : ρ × List Issue} (untouched : field.get progress.1 = field.get blank) :
    Schema.readField given progress field = Schema.readField other progress field := by
  rw [Schema.readField, Schema.readField]
  rcases alike with same | ⟨absent, value, found, idle⟩
  · rw [same]
  · rw [absent, found]
    simp only [idle progress.1 untouched]

end Idle

namespace Schema

variable {ρ : Type} {schema : Schema ρ} {given other : Mapping}

theorem readFields_congr
    (same : ∀ field ∈ schema.fields, given.named? field.name = other.named? field.name)
    (blank : ρ) : schema.readFields given blank = schema.readFields other blank := by
  rw [readFields, readFields]
  apply List.foldl_ext
  intro progress field member
  rw [readField, readField, same field member]

/-- Fields for which the same is given up to idle values are read alike. -/
theorem foldl_readField_eq {fields : List (Field ρ)} (lawful : LawfulFields fields) {blank : ρ}
    (alike : ∀ field ∈ fields,
      field.GivenAlike blank (given.named? field.name) (other.named? field.name))
    {progress : ρ × List Issue}
    (untouched : ∀ field ∈ fields, field.get progress.1 = field.get blank) :
    fields.foldl (readField given) progress = fields.foldl (readField other) progress := by
  induction fields generalizing progress with
  | nil => rfl
  | cons field rest ih =>
      rcases List.forall_mem_cons.mp alike with ⟨first, others⟩
      rcases List.forall_mem_cons.mp untouched with ⟨here, there⟩
      rw [List.foldl_cons, List.foldl_cons, first.readField_eq here]
      refine ih lawful.tail others fun later member => ?_
      -- Storing to the first field leaves the later ones as they are in the blank record.
      rw [readField_spares other (lawful.head_apart later member).1, there later member]

/-- A mapping in which nothing is found under a foreign name has no stranger. -/
theorem strangerless (textual : given.Textual)
    (known : ∀ name, name ∉ schema.names → given.named? name = none) :
    given.filterMap schema.strangerIssue? = [] := by
  rw [List.filterMap_eq_nil_iff]
  rintro ⟨key, value⟩ member
  rcases textual _ member with ⟨name, rfl⟩
  have inside : name ∈ schema.names := by
    by_contra foreign
    exact Mapping.named?_ne_none_of_mem member (known name foreign)
  simp [strangerIssue?, inside]

theorem build_congr (textual : given.Textual) (textual' : other.Textual)
    (known : ∀ name, name ∉ schema.names → given.named? name = none)
    (known' : ∀ name, name ∉ schema.names → other.named? name = none) {blank : ρ}
    (read : schema.readFields given blank = schema.readFields other blank) :
    schema.build blank given = schema.build blank other := by
  rw [build, build, strangerless textual known, strangerless textual' known', read]

end Schema

theorem buildNamed_of_textual {ρ : Type} {given : Mapping} (textual : given.Textual)
    (build : Mapping → Except Report ρ) :
    buildNamed build given = Report.refused (build given) := by
  rcases textual.names?_eq with ⟨names, found⟩
  rw [buildNamed, found]

theorem Report.eq_invalid_of_refused {α : Type} {outcome : Except Report α} {fault : Fault}
    (refused : Report.refused outcome = .error fault) : ∃ report, fault = .invalid report := by
  cases outcome with
  | ok value => cases refused
  | error report =>
      cases refused
      exact ⟨report, rfl⟩

/-! ## Dividing a flat namespace -/

/-- A namespace of texts in which nothing is found but under the known names. -/
structure IsFlat (given : Mapping) : Prop where
  textual : given.Textual
  known : ∀ name, name ∉ ManagerParams.names → given.named? name = none

namespace Division

/-- All keys of both parts are texts. -/
structure Textual (division : Division) : Prop where
  manager : division.manager.Textual
  engine : division.engine.Textual

theorem Textual.moveFlat {division : Division} (textual : division.Textual) (name : String) :
    (division.moveFlat name).Textual := by
  rw [Division.moveFlat]
  split
  · exact ⟨textual.manager.erase _, textual.engine.insert _ _⟩
  · exact textual

theorem Textual.foldl {division : Division} (textual : division.Textual)
    (names : List String) : (names.foldl Division.moveFlat division).Textual := by
  induction names generalizing division with
  | nil => exact textual
  | cons name rest ih => exact ih (textual.moveFlat name)

theorem Textual.clear {division cleared : Division} (textual : division.Textual)
    (clear : division.clearEmptyMatrix = .ok cleared) : cleared.Textual := by
  rcases bind_eq_ok.mp clear with ⟨empty, -, result⟩
  cases empty with
  | true =>
      cases result
      exact ⟨textual.manager.insert _ _, textual.engine⟩
  | false =>
      cases result
      exact textual

end Division

/-- The matrix is not given, or null, or has a length. -/
def Measured (given : Mapping) : Prop :=
  ∀ value, given.named? ManagerParams.matrixField.name = some value →
    value = .null ∨ ∃ count, value.length = .ok count

/-- What is found in the parts of a flat namespace; the manager's values are settled by `view`. -/
structure Division.Splits (given : Mapping) (view : String → Value → Value)
    (division : Division) : Prop where
  textual : division.Textual
  manager : ∀ name, division.manager.named? name =
    if name ∈ EngineParams.schema.names then none else (given.named? name).map (view name)
  engine : ∀ name, division.engine.named? name =
    if name ∈ EngineParams.schema.names then given.named? name else none

namespace IsFlat

variable {given other : Mapping}

theorem divided (flat : IsFlat given) :
    ∃ division, Division.ofNamespace given = .ok division ∧
      division.Splits given fun _ value => value := by
  have absent : given.named? ManagerParams.engineName = none := by
    apply flat.known
    decide
  have nested : Division.nested given = .ok [] := by
    rw [Division.nested, absent]
  have kept : given.erase (.text ManagerParams.engineName) = given :=
    Mapping.erase_of_absent absent
  refine ⟨_, Division.ofNamespace_eq_ok_iff.mpr ⟨[], nested, rfl⟩, ?_⟩
  rw [kept]
  constructor
  · exact Division.Textual.foldl ⟨flat.textual, Mapping.textual_nil⟩ _
  · intro name
    rw [Division.named?_manager_foldl, Option.map_id']
  · intro name
    rw [Division.named?_engine_foldl EngineParams.names_nodup]
    simp

theorem matrixName_not_mem : ManagerParams.matrixField.name ∉ EngineParams.schema.names := by
  decide

/-- A namespace whose matrix can be measured is read from its two parts. -/
theorem ofNamespace_eq_build (flat : IsFlat given) (measured : Measured given) :
    ∃ division : Division, division.Splits given Division.settled ∧
      ManagerParams.ofNamespace given = division.build := by
  rcases flat.divided with ⟨division, divided, splits⟩
  have found : division.manager.named? ManagerParams.matrixField.name =
      given.named? ManagerParams.matrixField.name := by
    rw [splits.manager, if_neg matrixName_not_mem, Option.map_id']
  obtain ⟨empty, decided⟩ : ∃ empty, division.hasEmptyMatrix = .ok empty := by
    rw [Division.hasEmptyMatrix, found]
    split
    · exact ⟨false, rfl⟩
    · exact ⟨false, rfl⟩
    next value filled equal =>
      rcases measured value equal with null | ⟨count, length⟩
      · exact (filled null).elim
      · exact ⟨_, congrArg (Except.map _) length⟩
  obtain ⟨cleared, clear⟩ : ∃ cleared, division.clearEmptyMatrix = .ok cleared := by
    rw [Division.clearEmptyMatrix, decided, ok_bind]
    cases empty with
    | true => exact ⟨_, rfl⟩
    | false => exact ⟨_, rfl⟩
  refine ⟨cleared, ⟨splits.textual.clear clear, ?_, ?_⟩, ?_⟩
  · intro name
    rw [Division.named?_clearEmptyMatrix clear, splits.manager, Option.map_id']
    split <;> rfl
  · intro name
    rw [Division.engine_clearEmptyMatrix clear]
    exact splits.engine name
  · rw [ManagerParams.ofNamespace, divided, ok_bind, clear, ok_bind]

end IsFlat

theorem Division.Splits.build_eq {given : Mapping} {division : Division}
    {view : String → Value → Value} (splits : division.Splits given view) :
    division.build = (Report.refused (EngineParams.build division.engine) >>= fun engine =>
      Report.refused (ManagerParams.ownSchema.build { engine := engine } division.manager)) := by
  rw [Division.build, buildNamed_of_textual splits.textual.engine]
  simp only [buildNamed_of_textual splits.textual.manager]

namespace IsFlat

variable {given other : Mapping}

theorem engine_of_splits {view : String → Value → Value} {division : Division}
    (splits : division.Splits given view) :
    ∀ name, name ∉ EngineParams.schema.names → division.engine.named? name = none := by
  intro name foreign
  rw [splits.engine, if_neg foreign]

theorem manager_of_splits (flat : IsFlat given) {view : String → Value → Value}
    {division : Division} (splits : division.Splits given view) :
    ∀ name, name ∉ ManagerParams.ownSchema.names → division.manager.named? name = none := by
  intro name foreign
  rw [splits.manager]
  split
  · rfl
  next outside =>
    rw [flat.known name (fun inside => (List.mem_append.mp inside).elim foreign outside)]
    rfl

/-- Flat namespaces that give the same for every field, up to idle values, are read alike. -/
theorem ofNamespace_of_alike (flat : IsFlat given) (flat' : IsFlat other)
    (measured : Measured given) (measured' : Measured other)
    (engine : ∀ name ∈ EngineParams.schema.names, given.named? name = other.named? name)
    (own : ∀ engine, ∀ field ∈ ManagerParams.ownSchema.fields,
      field.GivenAlike { engine := engine }
        ((given.named? field.name).map (Division.settled field.name))
        ((other.named? field.name).map (Division.settled field.name))) :
    ManagerParams.ofNamespace given = ManagerParams.ofNamespace other := by
  rcases flat.ofNamespace_eq_build measured with ⟨division, splits, read⟩
  rcases flat'.ofNamespace_eq_build measured' with ⟨division', splits', read'⟩
  have engines : EngineParams.build division.engine = EngineParams.build division'.engine := by
    refine Schema.build_congr splits.textual.engine splits'.textual.engine
      (engine_of_splits splits) (engine_of_splits splits') (Schema.readFields_congr ?_ _)
    intro field member
    have known : field.name ∈ EngineParams.schema.names := List.mem_map_of_mem member
    rw [splits.engine, splits'.engine, if_pos known, if_pos known, engine field.name known]
  have managers : ∀ engine, ManagerParams.ownSchema.build { engine := engine } division.manager =
      ManagerParams.ownSchema.build { engine := engine } division'.manager := by
    intro engine
    refine Schema.build_congr splits.textual.manager splits'.textual.manager
      (flat.manager_of_splits splits) (flat'.manager_of_splits splits')
      (Schema.foldl_readField_eq ManagerParams.fields_lawful ?_ fun _ _ => rfl)
    intro field member
    have outside := ManagerParams.names_apart.1 field.name (List.mem_map_of_mem member)
    rw [splits.manager, splits'.manager, if_neg outside, if_neg outside]
    exact own engine field member
  rw [read, read', splits.build_eq, splits'.build_eq, engines]
  simp only [managers]

/-- Flat namespaces in which the same is found once the matrix is settled are read alike. -/
theorem ofNamespace_congr (flat : IsFlat given) (flat' : IsFlat other)
    (measured : Measured given) (measured' : Measured other)
    (same : ∀ name, (given.named? name).map (Division.settled name) =
      (other.named? name).map (Division.settled name)) :
    ManagerParams.ofNamespace given = ManagerParams.ofNamespace other := by
  refine flat.ofNamespace_of_alike flat' measured measured' ?_ fun _ _ _ => Or.inl (same _)
  intro name inside
  have apart : name ≠ ManagerParams.matrixField.name := by
    rintro rfl
    exact matrixName_not_mem inside
  have plain : Division.settled name = id := funext (Division.settled_of_ne apart)
  have equal := same name
  rw [plain, Option.map_id] at equal
  exact equal

/-- A flat namespace whose matrix can be measured is refused by a report. -/
theorem report_of_ofNamespace (flat : IsFlat given) (measured : Measured given) {fault : Fault}
    (refused : ManagerParams.ofNamespace given = .error fault) :
    ∃ report, fault = .invalid report := by
  rcases flat.ofNamespace_eq_build measured with ⟨division, splits, read⟩
  rw [read, splits.build_eq] at refused
  rcases bind_eq_error.mp refused with first | ⟨engine, -, second⟩
  · exact Report.eq_invalid_of_refused first
  · exact Report.eq_invalid_of_refused second

theorem kind_of_ofNamespace (flat : IsFlat given) (measured : Measured given) {fault : Fault}
    (refused : ManagerParams.ofNamespace given = .error fault) : fault.kind = .validation := by
  rcases flat.report_of_ofNamespace measured refused with ⟨report, rfl⟩
  rfl

/-- A matrix that has no length is refused before anything else. -/
theorem ofNamespace_of_lengthless (flat : IsFlat given) {value : Value}
    (found : given.named? ManagerParams.matrixField.name = some value) (filled : value ≠ .null)
    {fault : Fault} (lengthless : value.length = .error fault) :
    ManagerParams.ofNamespace given = .error fault := by
  rcases flat.divided with ⟨division, divided, splits⟩
  have given : division.manager.named? ManagerParams.matrixField.name = some value := by
    rw [splits.manager, if_neg matrixName_not_mem, found]
    rfl
  have undecided : division.hasEmptyMatrix = .error fault := by
    rw [Division.hasEmptyMatrix, given]
    split
    next equal => cases equal
    next equal => exact (filled (Option.some.inj equal)).elim
    next equal =>
      cases equal
      rw [lengthless]
      rfl
  rw [ManagerParams.ofNamespace, divided, ok_bind, Division.clearEmptyMatrix, undecided]
  rfl

end IsFlat

end Config

end MapIngest
