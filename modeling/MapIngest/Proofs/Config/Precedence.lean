import MapIngest.Config.Layers
import MapIngest.Proofs.Config.Division
import MapIngest.Proofs.Config.Nesting
import MapIngest.Proofs.Yaml.Entry

/-!
# Which layer decides a parameter

A configuration that is accepted takes every parameter of the manager from the last
layer that names it.  A parameter of the engine can be set flat or nested, and for
these the layers are merged first and the flat values preferred afterwards: a flat
value of any layer comes before every nested one, and only then the last layer
decides.  The last layer that sets such a parameter in either way therefore decides it,
unless it is outranked.
-/

namespace MapIngest.Config

/-! ## The layers of a configuration -/

/-- A layer and the mapping that it nests have distinct keys. -/
structure IsLayer (layer : Mapping) : Prop where
  distinct : layer.Distinct
  nested : ∀ entries, layer.named? ManagerParams.engineName = some (.mapping entries) →
    Mapping.Distinct entries

/-- What is read as nested in merged layers blends what the last nesting with the name gives. -/
theorem blends_nested {layers : List Mapping} (sound : ∀ layer ∈ layers, IsLayer layer)
    {inner : Mapping} (read : Division.nested (layers.foldl mergeEntries []) = .ok inner)
    (name : String) :
    Option.Rel Blends (latestNested? layers name) (inner.named? name) := by
  rw [Division.nested,
    named?_engineName_merged fun layer member => (sound layer member).distinct] at read
  have distinct : ∀ entries, .mapping entries ∈ nestedValues layers →
      Mapping.Distinct entries := by
    intro entries member
    rcases List.mem_filterMap.mp member with ⟨layer, inside, found⟩
    exact (sound layer (List.mem_reverse.mp inside)).nested entries found
  cases found : joined (nestedValues layers) with
  | none =>
      rw [found, Except.ok.injEq] at read
      subst read
      rw [latestNested?, eq_nil_of_joined found]
      exact .none
  | some merged =>
      rw [found] at read
      exact blends_joined distinct found read name

/-- The layers that sources consist of; overrides that count as false set nothing. -/
structure Sources.Give (sources : Sources) (files : Files) (base preset overrides : Mapping) :
    Prop where
  base : fileSection files sources.base? = .ok base
  preset : fileSection files sources.preset? = .ok preset
  overrides : sources.overrides = .mapping overrides ∨
    sources.overrides.isTruthy = false ∧ overrides = []

theorem mergeLayer_of_not_truthy {value : Value} (falsy : value.isTruthy = false)
    (base : Mapping) : mergeLayer base value = .ok base := by
  cases value with
  | mapping entries =>
      cases entries with
      | nil => rfl
      | cons entry rest => cases falsy
  | _ => simp [mergeLayer, falsy]

theorem Sources.Give.merged_eq {sources : Sources} {files : Files}
    {base preset overrides : Mapping} (give : sources.Give files base preset overrides) :
    sources.merged files = .ok ([base, preset, overrides].foldl mergeEntries []) := by
  rw [merged, give.base, give.preset]
  rcases give.overrides with same | ⟨falsy, rfl⟩
  · rw [same]
    exact merge_mappings [base, preset, overrides]
  · change merge ([base, preset].map .mapping ++ [sources.overrides]) = _
    have first := merge_mappings [base, preset]
    rw [merge] at first ⊢
    rw [List.foldlM_append, first]
    change mergeLayer _ _ >>= pure = _
    rw [mergeLayer_of_not_truthy falsy]
    rfl

/-! ## What parameters hold -/

/-- A field that refuses mappings holds the latest value as soon as it holds a blend of it. -/
theorem Field.Holds.of_blends {ρ : Type} {field : Field ρ} {blank record : ρ}
    (refuses : ∀ entries, field.Refuses (.mapping entries)) {latest? merged? : Option Value}
    (blends : Option.Rel Blends latest? merged?) (holds : field.Holds merged? blank record) :
    field.Holds latest? blank record := by
  cases blends with
  | none => exact holds
  | some blended =>
      rcases blended with rfl | ⟨-, others, -, rfl, -⟩
      · exact holds
      · exact ((refuses others).not_stores record holds).elim

theorem blends_or {first second first' second' : Option Value}
    (left : Option.Rel Blends first first') (right : Option.Rel Blends second second') :
    Option.Rel Blends (first.or second) (first'.or second') := by
  cases left with
  | none => exact right
  | some blended => exact .some blended

theorem settled_mapping {entries : Mapping} (filled : entries ≠ []) (name : String) :
    Division.settled name (.mapping entries) = .mapping entries := by
  have occupied : Division.isVacant (.mapping entries) = false := by
    cases entries with
    | nil => exact (filled rfl).elim
    | cons entry rest => rfl
  rw [Division.settled, occupied]
  simp

/-- The same where an empty matrix counts as no matrix. -/
theorem Field.Holds.of_blends_settled {ρ : Type} {field : Field ρ} {blank record : ρ}
    (refuses : ∀ entries, field.Refuses (.mapping entries)) {latest? merged? : Option Value}
    (blends : Option.Rel Blends latest? merged?) {name : String}
    (holds : field.Holds (merged?.map (Division.settled name)) blank record) :
    field.Holds (latest?.map (Division.settled name)) blank record := by
  cases blends with
  | none => exact holds
  | some blended =>
      rcases blended with rfl | ⟨entries, others, rfl, rfl, empties⟩
      · exact holds
      · by_cases filled : others = []
        · rw [empties filled]
          rw [filled] at holds
          exact holds
        · rw [Option.map_some, settled_mapping filled] at holds
          exact ((refuses others).not_stores record holds).elim

namespace Sources

variable {sources : Sources} {files : Files} {base preset overrides : Mapping}
  {params : ManagerParams}

/--
Accepted parameters of the engine hold what the last flat value is read as, or
else what the last nested one is read as; this is the value of the last layer that
sets the parameter, unless it is outranked.  Accepted parameters of the manager
hold what the value of the last layer that names them is read as.  What no layer
sets holds its default.
-/
theorem load_holds_latest (give : sources.Give files base preset overrides)
    (layers : ∀ layer ∈ [base, preset, overrides], IsLayer layer)
    (accepted : sources.load files = .ok params) :
    (∀ field ∈ EngineParams.schema.fields,
      field.Holds ((latest? [base, preset, overrides] field.name).or
        (latestNested? [base, preset, overrides] field.name)) {} params.engine) ∧
    ((∀ layer ∈ [base, preset, overrides], NestsMapping layer) →
      ∀ field ∈ EngineParams.schema.fields,
        ¬ Outranked [base, preset, overrides] field.name →
          field.Holds (latestSetting? [base, preset, overrides] field.name) {} params.engine) ∧
    ∀ field ∈ ManagerParams.ownSchema.fields,
      field.Holds ((latest? [base, preset, overrides] field.name).map
        (Division.settled field.name)) {} params := by
  rcases bind_eq_ok.mp accepted with ⟨merged, found, read⟩
  rw [give.merged_eq, Except.ok.injEq] at found
  subst found
  generalize [base, preset, overrides] = layered at layers read ⊢
  have distinct : ∀ layer ∈ layered, layer.Distinct := fun layer member =>
    (layers layer member).distinct
  rcases ManagerParams.ofNamespace_holds read with ⟨inner, nested, engineHolds, ownHolds⟩
  have engine : ∀ field ∈ EngineParams.schema.fields,
      field.Holds ((latest? layered field.name).or (latestNested? layered field.name)) {}
        params.engine := by
    intro field member
    have refuses := fun entries => EngineParams.refuses_mapping entries field member
    refine (engineHolds field member).of_blends refuses ?_
    exact blends_or (blends_merged distinct field.name) (blends_nested layers nested field.name)
  refine ⟨engine, ?_, ?_⟩
  · intro mappings field member first
    rw [latestSetting?_eq mappings first]
    exact engine field member
  · intro field member
    have refuses := fun entries => ManagerParams.refuses_mapping entries field member
    exact (ownHolds field member).of_blends_settled refuses (blends_merged distinct field.name)

end Sources

/-! ## A nested override of a flat value -/

def flatResolution : String :=
  "/**:\n  ros__parameters:\n    resolution: 0.2\n"

def flatFiles : Files :=
  [("base.yaml", flatResolution.toUTF8.toList)]

def flatParameters : Mapping :=
  [(.text "resolution", .float 0.2)]

/-- The overrides nest another resolution, and a range. -/
def nestedOverrides : Mapping :=
  [(.text ManagerParams.engineName, .mapping
    [(.text "resolution", .float 0.5), (.text "sensor_max_range", .float 2.5)])]

def disputed : Sources where
  base? := some "base.yaml"
  overrides := .mapping nestedOverrides

def flatDocument : Mapping :=
  [(.text "/**", .mapping [(.text parametersName, .mapping flatParameters)])]

def flatTokens : List Yaml.Token :=
  [ .blockMapping, .key, .scalar "/**" true, .value,
    .blockMapping, .key, .scalar "ros__parameters" true, .value,
    .blockMapping, .key, .scalar "resolution" true, .value, .scalar "0.2" true,
    .blockEnd, .blockEnd, .blockEnd ]

theorem load_flatResolution :
    Yaml.load flatResolution.toUTF8.toList = .ok (.mapping flatDocument) := by
  have text : Text.decode? flatResolution.toUTF8.toList = some flatResolution := by
    decide +kernel
  have permitted : (Yaml.plainBreaks flatResolution.toList).all Yaml.isPermitted = true := by
    decide +kernel
  have tokens : Yaml.tokensOf (Yaml.plainBreaks flatResolution.toList) = .ok flatTokens := by
    decide +kernel
  have root : Yaml.Node.ofTokens? flatTokens = .ok (some
      (.entry "/**" (.entry "ros__parameters" (.entry "resolution" (.plain "0.2"))))) := by
    apply Yaml.ofTokens?_of_node
    apply Yaml.Compose.run_node_entry false 50 "/**" rfl
    apply Yaml.Compose.run_node_entry true 46 "ros__parameters" rfl
    apply Yaml.Compose.run_node_entry true 42 "resolution" rfl
    exact Yaml.Compose.run_node_plain true true 42 "0.2" _ _
  have number : (Yaml.Node.plain "0.2").toValue = .ok (.float 0.2) := by
    have tag : Yaml.Tag.ofPlain "0.2" = .float := by decide +kernel
    have read : Yaml.scalarOf .float "0.2" = .ok (.float 0.2) := by decide +kernel
    rw [Yaml.Node.plain, tag, Yaml.Node.toValue, read]
    rfl
  have parameters := Yaml.toValue_entry "resolution" (by decide +kernel) number
  have part := Yaml.toValue_entry "ros__parameters" (by decide +kernel) parameters
  have value := Yaml.toValue_entry "/**" (by decide +kernel) part
  exact Yaml.load_eq_ok text permitted tokens root value

theorem load_flatFiles : flatFiles.load "base.yaml" = .ok (.mapping flatDocument) := by
  have found : flatFiles.find (Path.ofText "base.yaml") =
      .file flatResolution.toUTF8.toList := rfl
  rw [Files.load, found]
  simp only [load_flatResolution]
  rfl

theorem disputed_gives :
    disputed.Give flatFiles flatParameters [] nestedOverrides where
  base := by
    change flatFiles.load "base.yaml" >>= nodeSection = _
    rw [load_flatFiles]
    rfl
  preset := rfl
  overrides := Or.inl rfl

theorem disputed_isLayer :
    ∀ layer ∈ [flatParameters, [], nestedOverrides], IsLayer layer := by
  have flat : IsLayer flatParameters := ⟨by simp [Mapping.Distinct, flatParameters], by
    simp [flatParameters, Mapping.named?_cons_text, ManagerParams.engineName]⟩
  have empty : IsLayer [] := ⟨List.Pairwise.nil, by simp⟩
  have nested : IsLayer nestedOverrides := by
    refine ⟨List.pairwise_singleton _ _, ?_⟩
    intro entries found
    cases found
    simp [Mapping.Distinct]
  simp only [List.forall_mem_cons]
  exact ⟨flat, empty, nested, by simp⟩

theorem disputed_nestsMapping :
    ∀ layer ∈ [flatParameters, [], nestedOverrides], NestsMapping layer := by
  have flat : NestsMapping flatParameters := by
    simp [NestsMapping, flatParameters, Mapping.named?_cons_text, ManagerParams.engineName]
  have nested : NestsMapping nestedOverrides := by
    intro value found
    cases found
    exact ⟨_, rfl⟩
  simp only [List.forall_mem_cons]
  exact ⟨flat, by simp [NestsMapping], nested, by simp⟩

theorem eq_resolution_of_outranked {name : String} (known : name ∈ EngineParams.schema.names)
    (outranked : Outranked [flatParameters, [], nestedOverrides] name) :
    name = "resolution" := by
  rcases outranked with ⟨earlier, layer, later, parts, -, -, -, other, before, flat⟩
  have member : other ∈ [flatParameters, [], nestedOverrides] := by
    rw [parts]
    exact List.mem_append_left _ before
  simp only [List.mem_cons, List.not_mem_nil, or_false] at member
  rcases member with rfl | rfl | rfl
  · rw [flatParameters, Mapping.named?_cons_text] at flat
    by_contra unequal
    rw [if_neg (Ne.symm unequal)] at flat
    cases flat
  · cases flat
  · have apart := ManagerParams.names_apart.2.2 name known
    rw [nestedOverrides, Mapping.named?_cons_text, if_neg (Ne.symm apart)] at flat
    cases flat

/-- The flat value of the file is loaded, not the nested one that overrides it. -/
theorem disputed_load :
    disputed.load flatFiles = .ok { engine := { resolution := 0.2, sensorMaxRange := 2.5 } } := by
  have read : ManagerParams.ofNamespace (flatParameters ++ nestedOverrides) =
      .ok { engine := { resolution := 0.2, sensorMaxRange := 2.5 } } := by
    decide +kernel
  exact bind_eq_ok.mpr ⟨_, disputed_gives.merged_eq, read⟩

theorem disputed_range_taken :
    disputed.load flatFiles = .ok { engine := { resolution := 0.2, sensorMaxRange := 2.5 } } ∧
      ∀ field ∈ EngineParams.schema.fields, field.name ≠ "resolution" →
        field.Holds (latestSetting? [flatParameters, [], nestedOverrides] field.name) {}
          { resolution := 0.2, sensorMaxRange := 2.5 } := by
  refine ⟨disputed_load, ?_⟩
  intro field member other
  have holds := (Sources.load_holds_latest disputed_gives disputed_isLayer disputed_load).2.1
  exact holds disputed_nestsMapping field member fun outranked =>
    other (eq_resolution_of_outranked (List.mem_map_of_mem member) outranked)

/-- The last layer that sets a parameter does not always decide it. -/
theorem last_setting_outranked :
    ¬ ∀ (sources : Sources) (files : Files) (base preset overrides : Mapping)
        (params : ManagerParams),
      sources.Give files base preset overrides →
      (∀ layer ∈ [base, preset, overrides], IsLayer layer ∧ NestsMapping layer) →
      sources.load files = .ok params →
      ∀ field ∈ EngineParams.schema.fields,
        field.Holds (latestSetting? [base, preset, overrides] field.name) {} params.engine := by
  intro always
  have holds := always disputed flatFiles _ _ _ _ disputed_gives
    (fun layer member => ⟨disputed_isLayer layer member, disputed_nestsMapping layer member⟩)
    disputed_load _ List.mem_cons_self
  -- The nested value would be stored as the flat one.
  rcases holds {} with ⟨after, stored, held⟩
  have kept : Field.get _ after = .float 0.5 :=
    (Field.simple_stores_float (fun _ _ => rfl) (by decide)).store_eq stored
  have same : Value.float 0.2 = .float 0.5 := held.symm.trans kept
  have different : (0.2 : Float) ≠ 0.5 := by decide
  simp only [Value.scalar.injEq, Scalar.float.injEq] at same
  exact different same

end MapIngest.Config
