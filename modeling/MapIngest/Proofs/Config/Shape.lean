import MapIngest.Proofs.Config.Spelling
import MapIngest.Proofs.Config.Validation
import MapIngest.Proofs.Fallible

/-!
# Documents of any shape

A configuration is taken apart before anything in it is validated.  A document and the
parameters of its section must be mappings, and so must what is nested for the engine,
where collections of pairs also count as mappings.  The matrix must have a length, and
all names must be texts.

What is of another shape is not refused by a report, but fails in the step that takes it
apart.  Each of these steps is described by the shape that it needs; together they tell
exactly which documents are either accepted or refused by a report.
-/

namespace MapIngest

/-- The failures of steps that are given something of a shape that they do not expect. -/
def Fault.IsMisshapen (fault : Fault) : Prop :=
  fault.kind = .type ∨ fault.kind = .value ∨ fault.kind = .attribute

variable {α β : Type} {shaped : Prop}

/-- A step returns or reports if it is given the shape that it needs, and fails otherwise. -/
inductive Responds (shaped : Prop) : Except Fault α → Prop
  | returned (holds : shaped) (value : α) : Responds shaped (.ok value)
  | reported (holds : shaped) (report : Config.Report) :
      Responds shaped (.error (.invalid report))
  | misshapen (fails : ¬ shaped) {fault : Fault} (kind : fault.IsMisshapen) :
      Responds shaped (.error fault)

theorem Responds.congr {shaped' : Prop} {first : Except Fault α} (responds : Responds shaped first)
    (same : shaped ↔ shaped') : Responds shaped' first := by
  rwa [← propext same]

/-- What is asked of whatever a step returns is asked of what it returns. -/
theorem forall_returned_iff {first : Except Fault α} {value : α} (found : first = .ok value)
    (asked : α → Prop) : (∀ other, first = .ok other → asked other) ↔ asked value := by
  subst found
  exact ⟨fun all => all value rfl, fun holds _ same => Except.ok.inj same ▸ holds⟩

theorem Needs.bind_responds {shaped' : Prop} {first : Except Fault α}
    (needs : Needs shaped Fault.IsMisshapen first) {next : α → Except Fault β}
    (nexts : ∀ value, first = .ok value → Responds shaped' (next value)) :
    Responds (shaped ∧ shaped') (first >>= next) := by
  cases needs with
  | returned holds value => exact (nexts value rfl).congr (and_iff_right holds).symm
  | failed lacks kind => exact .misshapen (fun both => lacks both.1) kind

namespace Value

/-! ## Mappings and collections of pairs -/

/-- Two items, the first of which is a scalar. -/
def IsPair (item : Value) : Prop :=
  ∃ key second, item.items = .ok [.scalar key, second]

/-- A value counts as false, or is a mapping or a collection of pairs. -/
inductive IsTable : Value → Prop
  | blank {value : Value} (falsy : value.isTruthy = false) : IsTable value
  | mapping (entries : Mapping) : IsTable (.mapping entries)
  | pairs {value : Value} {contents : List Value} (taken : value.items = .ok contents)
      (pairs : ∀ item ∈ contents, item.IsPair) : IsTable value

theorem storePairs_of_not_isPair {item : Value} (other : ¬ item.IsPair) (index : Nat)
    (stored : Mapping) (rest : List Value) :
    ∃ fault, storePairs index stored (item :: rest) = .error fault ∧ fault.IsMisshapen := by
  rw [storePairs, toPair]
  cases taken : item.items with
  | error fault => exact ⟨_, rfl, Or.inl rfl⟩
  | ok contents =>
      match contents with
      | [.scalar key, second] => exact (other ⟨key, second, taken⟩).elim
      | [.list items, second] => exact ⟨_, rfl, Or.inl rfl⟩
      | [.mapping entries, second] => exact ⟨_, rfl, Or.inl rfl⟩
      | [] => exact ⟨_, rfl, Or.inr (Or.inl rfl)⟩
      | [first] => exact ⟨_, rfl, Or.inr (Or.inl rfl)⟩
      | first :: second :: third :: others => exact ⟨_, rfl, Or.inr (Or.inl rfl)⟩

theorem needs_storePairs (items : List Value) (index : Nat) (stored : Mapping) :
    Needs (∀ item ∈ items, item.IsPair) Fault.IsMisshapen (storePairs index stored items) := by
  induction items generalizing index stored with
  | nil => exact .returned (by simp) stored
  | cons item rest ih =>
      by_cases pair : item.IsPair
      · rcases pair with ⟨key, second, taken⟩
        have step : storePairs index stored (item :: rest) =
            storePairs (index + 1) (stored.insert key second) rest := by
          rw [storePairs, toPair, taken]
          rfl
        rw [step]
        refine (ih _ _).congr ?_
        rw [List.forall_mem_cons]
        exact (and_iff_right ⟨key, second, taken⟩).symm
      · rcases storePairs_of_not_isPair pair index stored rest with ⟨fault, failed, kind⟩
        rw [failed]
        exact .failed (fun pairs => pair (pairs item List.mem_cons_self)) kind

theorem isTable_iff_of_truthy {value : Value} (truthy : value.isTruthy = true)
    (other : ∀ entries, value ≠ .mapping entries) :
    value.IsTable ↔
      ∃ contents, value.items = .ok contents ∧ ∀ item ∈ contents, item.IsPair := by
  constructor
  · rintro (falsy | entries | ⟨taken, pairs⟩)
    · rw [truthy] at falsy
      cases falsy
    · exact (other entries rfl).elim
    · exact ⟨_, taken, pairs⟩
  · rintro ⟨contents, taken, pairs⟩
    exact .pairs taken pairs

theorem needs_toMappingOrEmpty (value : Value) :
    Needs value.IsTable Fault.IsMisshapen value.toMappingOrEmpty := by
  rw [toMappingOrEmpty]
  split
  next truthy =>
    by_cases mapping : ∃ entries, value = .mapping entries
    · rcases mapping with ⟨entries, rfl⟩
      exact .returned (.mapping entries) entries
    · rw [not_exists] at mapping
      rw [isTable_iff_of_truthy truthy mapping, toMapping.eq_2 value mapping]
      cases taken : value.items with
      | error fault =>
          refine .failed ?_ (Or.inl (Config.kind_of_items taken))
          rintro ⟨contents, same, -⟩
          cases same
      | ok contents =>
          refine (needs_storePairs contents 0 []).congr ⟨fun pairs => ⟨contents, rfl, pairs⟩, ?_⟩
          rintro ⟨_, ⟨⟩, pairs⟩
          exact pairs
  next falsy => exact .returned (.blank (eq_false_of_ne_true falsy)) []

end Value

namespace Mapping

/-! ## Names -/

theorem textual_erase_iff (entries : Mapping) (name : String) :
    (entries.erase (.text name)).Textual ↔ entries.Textual := by
  refine ⟨fun textual entry member => ?_, fun textual => textual.erase _⟩
  by_cases named : entry.1 = .text name
  · exact ⟨name, named⟩
  · refine textual entry (List.mem_filter.mpr ⟨member, ?_⟩)
    rw [Bool.not_eq_true', Bool.eq_false_iff, Ne, Scalar.sameKey_text_iff]
    exact named

theorem textual_insert_iff (entries : Mapping) (name : String) (value : Value) :
    (entries.insert (.text name) value).Textual ↔ entries.Textual := by
  refine ⟨fun textual => ?_, fun textual => textual.insert name value⟩
  induction entries with
  | nil => exact textual_nil
  | cons entry rest ih =>
      rcases entry with ⟨old, held⟩
      rw [Mapping.insert] at textual
      split at textual
      · rcases List.forall_mem_cons.mp textual with ⟨first, others⟩
        exact List.forall_mem_cons.mpr ⟨first, others⟩
      · rcases List.forall_mem_cons.mp textual with ⟨first, others⟩
        exact List.forall_mem_cons.mpr ⟨first, ih others⟩

end Mapping

namespace Config

namespace Division

theorem textual_moveFlat_iff (division : Division) (name : String) :
    ((division.moveFlat name).manager.Textual ↔ division.manager.Textual) ∧
      ((division.moveFlat name).engine.Textual ↔ division.engine.Textual) := by
  rw [moveFlat]
  split
  · exact ⟨Mapping.textual_erase_iff _ _, Mapping.textual_insert_iff _ _ _⟩
  · exact ⟨Iff.rfl, Iff.rfl⟩

theorem textual_foldl_iff (names : List String) (division : Division) :
    ((names.foldl moveFlat division).manager.Textual ↔ division.manager.Textual) ∧
      ((names.foldl moveFlat division).engine.Textual ↔ division.engine.Textual) := by
  induction names generalizing division with
  | nil => exact ⟨Iff.rfl, Iff.rfl⟩
  | cons name rest ih =>
      have moved := textual_moveFlat_iff division name
      have others := ih (division.moveFlat name)
      exact ⟨others.1.trans moved.1, others.2.trans moved.2⟩

/-- The names in the two parts of a namespace are those of the namespace and of what it nests. -/
theorem textual_parts_iff (given inner : Mapping) :
    ((parts given inner).manager.Textual ↔ given.Textual) ∧
      ((parts given inner).engine.Textual ↔ inner.Textual) := by
  have moved := textual_foldl_iff EngineParams.schema.names
    ⟨given.erase (.text ManagerParams.engineName), inner⟩
  exact ⟨moved.1.trans (Mapping.textual_erase_iff _ _), moved.2⟩

theorem textual_clear_iff {division cleared : Division}
    (clear : division.clearEmptyMatrix = .ok cleared) :
    cleared.manager.Textual ↔ division.manager.Textual := by
  rcases bind_eq_ok.mp clear with ⟨empty, -, result⟩
  cases empty with
  | true =>
      cases result
      exact Mapping.textual_insert_iff _ _ _
  | false =>
      cases result
      exact Iff.rfl

/-! ## Namespaces -/

theorem needs_nested (given : Mapping) :
    Needs (∀ value, given.named? ManagerParams.engineName = some value → value.IsTable)
      Fault.IsMisshapen (nested given) := by
  rw [nested]
  cases found : given.named? ManagerParams.engineName with
  | none => exact .returned (by simp) []
  | some value => exact value.needs_toMappingOrEmpty.congr (by simp)

theorem needs_clearEmptyMatrix (division : Division) :
    Needs (∀ value, division.manager.named? ManagerParams.matrixField.name = some value →
      ¬ value.IsAtom) Fault.IsMisshapen division.clearEmptyMatrix := by
  refine Needs.bind_returned ?_ fun empty _ => ?_
  · rw [hasEmptyMatrix]
    split
    next absent => exact .returned (by simp [absent]) false
    next null =>
      rw [null]
      exact .returned (by rintro _ ⟨⟩; exact id) false
    next value filled found =>
      rw [found]
      by_cases atom : value.IsAtom
      · rw [Value.length, Value.items_of_isAtom atom]
        exact .failed (fun compound => compound value rfl atom) (Or.inl rfl)
      · rcases Value.exists_items atom filled with ⟨contents, taken⟩
        rw [length_of_items taken]
        exact .returned (by rintro _ ⟨⟩; exact atom) _
  · cases empty with
    | true => exact ⟨_, rfl⟩
    | false => exact ⟨_, rfl⟩

theorem responds_buildNamed {ρ : Type} (build : Mapping → Except Report ρ) (given : Mapping) :
    Responds given.Textual (buildNamed build given) := by
  by_cases textual : given.Textual
  · rw [buildNamed_of_textual textual]
    cases build given with
    | ok record => exact .returned textual record
    | error report => exact .reported textual report
  · rw [buildNamed_of_not_textual textual]
    exact .misshapen textual (Or.inl rfl)

/-- The names of the manager's part do not matter if the engine's part is refused. -/
theorem responds_build (division : Division) :
    Responds (division.engine.Textual ∧
      (division.manager.Textual ∨ ∃ report, EngineParams.build division.engine = .error report))
      division.build := by
  rw [build]
  by_cases textual : division.engine.Textual
  · rw [buildNamed_of_textual textual]
    cases built : EngineParams.build division.engine with
    | error report => exact .reported ⟨textual, Or.inr ⟨report, rfl⟩⟩ report
    | ok engine =>
        refine (responds_buildNamed _ division.manager).congr ?_
        simp [textual]
  · rw [buildNamed_of_not_textual textual]
    exact .misshapen (fun both => textual both.1) (Or.inl rfl)

end Division

/-- A namespace, with what it nests for the engine, has the shape that its parts need. -/
structure Division.Fits (given inner : Mapping) : Prop where
  matrix : ∀ value, given.named? ManagerParams.matrixField.name = some value → ¬ value.IsAtom
  engine : inner.Textual
  manager : given.Textual ∨
    ∃ report, EngineParams.build (parts given inner).engine = .error report

/-- A namespace has the shape that reading it needs. -/
structure Presentable (given : Mapping) : Prop where
  nested : ∀ value, given.named? ManagerParams.engineName = some value → value.IsTable
  parts : ∀ inner, Division.nested given = .ok inner → Division.Fits given inner

namespace Division

/-- Clearing the matrix and validating needs the shape of the matrix and of the names. -/
theorem responds_cleared (division : Division) :
    Responds ((∀ value, division.manager.named? ManagerParams.matrixField.name = some value →
        ¬ value.IsAtom) ∧
      division.engine.Textual ∧
      (division.manager.Textual ∨ ∃ report, EngineParams.build division.engine = .error report))
      (division.clearEmptyMatrix >>= build) := by
  refine (needs_clearEmptyMatrix division).bind_responds fun cleared clear => ?_
  have responds := responds_build cleared
  rwa [engine_clearEmptyMatrix clear, propext (textual_clear_iff clear)] at responds

theorem responds_parts (given inner : Mapping) :
    Responds (Fits given inner) ((parts given inner).clearEmptyMatrix >>= build) := by
  have matrix : (parts given inner).manager.named? ManagerParams.matrixField.name =
      given.named? ManagerParams.matrixField.name := by
    refine get?_manager_parts given inner fun name known same => ?_
    rw [Scalar.text.injEq] at same
    exact (by decide : ManagerParams.matrixField.name ∉ engineNames) (same ▸ known)
  have responds := responds_cleared (parts given inner)
  have textual := textual_parts_iff given inner
  rw [matrix, propext textual.1, propext textual.2] at responds
  exact responds.congr ⟨fun ⟨measured, named, own⟩ => ⟨measured, named, own⟩,
    fun fits => ⟨fits.matrix, fits.engine, fits.manager⟩⟩

end Division

theorem ofNamespace_eq_parts (given : Mapping) :
    ManagerParams.ofNamespace given = Division.nested given >>= fun inner =>
      (Division.parts given inner).clearEmptyMatrix >>= Division.build := by
  rw [ManagerParams.ofNamespace, Division.ofNamespace]
  cases Division.nested given <;> rfl

/-- A namespace is accepted or reported exactly if it has the shape that reading it needs. -/
theorem responds_ofNamespace (given : Mapping) :
    Responds (Presentable given) (ManagerParams.ofNamespace given) := by
  have nested := Division.needs_nested given
  rw [ofNamespace_eq_parts]
  have responds := nested.bind_responds fun inner read =>
    (Division.responds_parts given inner).congr
      (forall_returned_iff read (Division.Fits given)).symm
  exact responds.congr ⟨fun ⟨table, parts⟩ => ⟨table, parts⟩,
    fun presentable => ⟨presentable.nested, presentable.parts⟩⟩

/-! ## Documents -/

/-- The document that is read from a path; without a path, an empty mapping. -/
def documentAt (files : Files) (path? : Option String) : Except Fault Value :=
  match path? with
  | none => .ok (.mapping [])
  | some path => if path.isEmpty then .ok (.mapping []) else files.load path

theorem fileSection_eq (files : Files) (path? : Option String) :
    fileSection files path? = documentAt files path? >>= nodeSection := by
  cases path? with
  | none => rfl
  | some path =>
      rw [fileSection, documentAt]
      split <;> rfl

/-- A document is a mapping, and the parameters in its section, if any, are a table. -/
def HoldsTable (document : Value) : Prop :=
  ∃ entries, document = .mapping entries ∧ ∀ parameters,
    sectionNames.findSome? (sectionAt? entries) = some parameters → parameters.IsTable

theorem needs_nodeSection (document : Value) :
    Needs (HoldsTable document) Fault.IsMisshapen (nodeSection document) := by
  cases document with
  | mapping entries =>
      have same : HoldsTable (.mapping entries) ↔ ∀ parameters,
          sectionNames.findSome? (sectionAt? entries) = some parameters → parameters.IsTable := by
        simp [HoldsTable]
      rw [same, nodeSection]
      cases sectionNames.findSome? (sectionAt? entries) with
      | none => exact .returned (by simp) []
      | some parameters => exact parameters.needs_toMappingOrEmpty.congr (by simp)
  | scalar content =>
      refine .failed ?_ (Or.inr (Or.inr rfl))
      rintro ⟨entries, ⟨⟩, -⟩
  | list items =>
      refine .failed ?_ (Or.inr (Or.inr rfl))
      rintro ⟨entries, ⟨⟩, -⟩

namespace Sources

variable {sources : Sources} {files : Files} {base preset : Value}

theorem needs_merged (readBase : documentAt files sources.base? = .ok base)
    (readPreset : documentAt files sources.preset? = .ok preset)
    (layer : (∃ overrides, sources.overrides = .mapping overrides) ∨
      sources.overrides.isTruthy = false) :
    Needs (HoldsTable base ∧ HoldsTable preset) Fault.IsMisshapen (sources.merged files) := by
  obtain ⟨overrides, given⟩ : ∃ overrides, sources.overrides = .mapping overrides ∨
      sources.overrides.isTruthy = false ∧ overrides = [] := by
    rcases layer with ⟨overrides, same⟩ | falsy
    · exact ⟨overrides, Or.inl same⟩
    · exact ⟨[], Or.inr ⟨falsy, rfl⟩⟩
  have baseSection : fileSection files sources.base? = nodeSection base := by
    rw [fileSection_eq, readBase, ok_bind]
  have presetSection : fileSection files sources.preset? = nodeSection preset := by
    rw [fileSection_eq, readPreset, ok_bind]
  rw [merged, baseSection, presetSection]
  refine (needs_nodeSection base).bind fun first found => ?_
  refine (needs_nodeSection preset).bind_returned fun second found' => ?_
  have give : sources.Give files first second overrides :=
    ⟨baseSection.trans found, presetSection.trans found', given⟩
  have merged := give.merged_eq
  rw [Sources.merged, give.base, give.preset] at merged
  exact ⟨_, merged⟩

/--
A document that cannot be read fails a configuration with its own failure.  Otherwise the
configuration is accepted or refused by a report exactly if both documents hold tables and
the namespace that they are merged into has the shape that reading it needs; documents
and namespaces of any other shape fail with a failure of shape.
-/
theorem load_responds (files : Files)
    (layer : (∃ overrides, sources.overrides = .mapping overrides) ∨
      sources.overrides.isTruthy = false) :
    (∀ fault, documentAt files sources.base? = .error fault →
      sources.load files = .error fault) ∧
    (∀ base fault, documentAt files sources.base? = .ok base → HoldsTable base →
      documentAt files sources.preset? = .error fault → sources.load files = .error fault) ∧
    ∀ base preset, documentAt files sources.base? = .ok base →
      documentAt files sources.preset? = .ok preset →
      Responds ((HoldsTable base ∧ HoldsTable preset) ∧
        ∀ merged, sources.merged files = .ok merged → Presentable merged)
        (sources.load files) := by
  refine ⟨?_, ?_, ?_⟩
  · intro fault unread
    rw [load, merged, fileSection_eq, unread]
    rfl
  · intro base fault readBase table unread
    rcases (needs_nodeSection base).isOk_iff.mpr table with ⟨parameters, found⟩
    rw [load, merged, fileSection_eq, readBase, ok_bind, found, fileSection_eq, unread]
    rfl
  · intro base preset readBase readPreset
    exact (needs_merged readBase readPreset layer).bind_responds fun given found =>
      (responds_ofNamespace given).congr (forall_returned_iff found Presentable).symm

end Sources

/-! ## A section whose parameters are a number -/

def numberParameters : String :=
  "/**:\n  ros__parameters: 5\n"

def numberFiles : Files :=
  [("base.yaml", numberParameters.toUTF8.toList)]

def numberSources : Sources where
  base? := some "base.yaml"
  overrides := .mapping []

def numberDocument : Value :=
  .mapping [(.text "/**", .mapping [(.text parametersName, .int 5)])]

def numberTokens : List Yaml.Token :=
  [ .blockMapping, .key, .scalar "/**" true, .value,
    .blockMapping, .key, .scalar "ros__parameters" true, .value, .scalar "5" true,
    .blockEnd, .blockEnd ]

theorem load_numberParameters :
    Yaml.load numberParameters.toUTF8.toList = .ok numberDocument := by
  have text : Text.decode? numberParameters.toUTF8.toList = some numberParameters := by
    decide +kernel
  have permitted : (Yaml.plainBreaks numberParameters.toList).all Yaml.isPermitted = true := by
    decide +kernel
  have tokens : Yaml.tokensOf (Yaml.plainBreaks numberParameters.toList) = .ok numberTokens := by
    decide +kernel
  have root : Yaml.Node.ofTokens? numberTokens = .ok (some
      (.entry "/**" (.entry "ros__parameters" (.plain "5")))) := by
    apply Yaml.ofTokens?_of_node
    apply Yaml.Compose.run_node_entry false 35 "/**" rfl
    apply Yaml.Compose.run_node_entry true 31 "ros__parameters" rfl
    exact Yaml.Compose.run_node_plain true true 31 "5" _ _
  have number : (Yaml.Node.plain "5").toValue = .ok (.int 5) := by
    have tag : Yaml.Tag.ofPlain "5" = .int := by decide +kernel
    have read : Yaml.scalarOf .int "5" = .ok (.int 5) := by decide +kernel
    rw [Yaml.Node.plain, tag, Yaml.Node.toValue, read]
    rfl
  have part := Yaml.toValue_entry "ros__parameters" (by decide +kernel) number
  have value := Yaml.toValue_entry "/**" (by decide +kernel) part
  exact Yaml.load_eq_ok text permitted tokens root value

theorem documentAt_numberFiles :
    documentAt numberFiles numberSources.base? = .ok numberDocument := by
  have found : numberFiles.find (Path.ofText "base.yaml") =
      .file numberParameters.toUTF8.toList := rfl
  change numberFiles.load "base.yaml" = _
  rw [Files.load, found]
  simp only [load_numberParameters]
  rfl

/-- The section is no table, and loading responds accordingly. -/
theorem numberSources_respond :
    numberSources.overrides = .mapping [] ∧
      documentAt numberFiles numberSources.base? = .ok numberDocument ∧
      documentAt numberFiles numberSources.preset? = .ok (.mapping []) ∧
      ¬ HoldsTable numberDocument ∧
      Responds ((HoldsTable numberDocument ∧ HoldsTable (.mapping [])) ∧
        ∀ merged, numberSources.merged numberFiles = .ok merged → Presentable merged)
        (numberSources.load numberFiles) := by
  refine ⟨rfl, documentAt_numberFiles, rfl, ?_, ?_⟩
  · rintro ⟨entries, ⟨⟩, table⟩
    rcases table (.int 5) rfl with falsy | _ | ⟨taken, -⟩
    · cases falsy
    · cases taken
  · exact (Sources.load_responds numberFiles (Or.inl ⟨[], rfl⟩)).2.2 _ _
      documentAt_numberFiles rfl

/-- A document of another shape is not refused by a report. -/
theorem numberSources_unreported :
    ¬ ∀ (sources : Sources) (files : Files) (base preset : Value) (overrides : Mapping),
      documentAt files sources.base? = .ok base →
      documentAt files sources.preset? = .ok preset →
      sources.overrides = .mapping overrides → overrides.Textual →
        (∃ params, sources.load files = .ok params) ∨
          ∃ report, sources.load files = .error (.invalid report) := by
  intro always
  have failed : numberSources.load numberFiles = .error (.conversion (.noItems "int")) := by
    rw [Sources.load, Sources.merged, fileSection_eq, documentAt_numberFiles]
    rfl
  rcases always numberSources numberFiles _ _ _ documentAt_numberFiles rfl rfl
      Mapping.textual_nil with ⟨params, loaded⟩ | ⟨report, refused⟩
  · rw [failed] at loaded
    cases loaded
  · rw [failed] at refused
    cases refused

end Config

end MapIngest
