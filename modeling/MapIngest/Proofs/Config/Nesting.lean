import MapIngest.Config.ManagerParams
import MapIngest.Proofs.Config.Merge

/-!
# What layers set flat and nested

A layer sets a parameter of the engine flat or, under the engine's name, nested.  What
the layers nest is merged with the layers, so that what is found nested for a name
blends what the last layer that nests the name gives.

The last layer that sets a parameter in either way is found by looking for flat values
first, unless this layer nests the parameter and a layer before has it flat.  Such a
layer is outranked by the one before it.
-/

namespace MapIngest.Config

/-! ## What layers nest -/

/-- The values that layers give under the engine's name, the latest first. -/
def nestedValues (layers : List Mapping) : List Value :=
  layers.reverse.filterMap (·.named? ManagerParams.engineName)

/-- The entries of the mappings at the head of a list. -/
def leadingMappings : List Value → List Mapping
  | .mapping entries :: rest => entries :: leadingMappings rest
  | _ => []

/--
What the engine is given nested, the latest first: a mapping joins the mappings
before it, and any other value stands alone.
-/
def nestings : List Value → List Mapping
  | [] => []
  | .mapping entries :: earlier => entries :: leadingMappings earlier
  | value :: _ => value.toMappingOrEmpty.toOption.toList

/-- The value of the last layer that nests a name. -/
def latestNested? (layers : List Mapping) (name : String) : Option Value :=
  (nestings (nestedValues layers)).findSome? (·.named? name)

/-- The value that is found where values are merged one after the other, the latest first. -/
def joined : List Value → Option Value
  | [] => none
  | value :: earlier => some (mergeValue (joined earlier) value)

theorem eq_nil_of_joined {values : List Value} (absent : joined values = none) : values = [] := by
  cases values with
  | nil => rfl
  | cons value earlier => cases absent

theorem nestedValues_concat (layers : List Mapping) (layer : Mapping) :
    nestedValues (layers ++ [layer]) =
      (layer.named? ManagerParams.engineName).toList ++ nestedValues layers := by
  rw [nestedValues, nestedValues, List.reverse_concat, List.filterMap_cons]
  cases layer.named? ManagerParams.engineName <;> rfl

/-- Merged layers hold under the engine's name what its values there are joined to. -/
theorem named?_engineName_merged {layers : List Mapping}
    (distinct : ∀ layer ∈ layers, layer.Distinct) :
    (layers.foldl mergeEntries []).named? ManagerParams.engineName =
      joined (nestedValues layers) := by
  induction layers using List.reverseRecOn with
  | nil => rfl
  | append_singleton earlier layer ih =>
      rw [List.forall_mem_append, List.forall_mem_singleton] at distinct
      rw [List.foldl_append, List.foldl_cons, List.foldl_nil, named?_mergeEntries distinct.2,
        ih distinct.1, nestedValues_concat]
      cases layer.named? ManagerParams.engineName <;> rfl

theorem toMappingOrEmpty_mapping (entries : Mapping) :
    (Value.mapping entries).toMappingOrEmpty = .ok entries := by
  cases entries <;> rfl

theorem nestings_of_ne_mapping {value : Value} (plain : ∀ entries, value ≠ .mapping entries)
    (earlier : List Value) :
    nestings (value :: earlier) = value.toMappingOrEmpty.toOption.toList := by
  cases value with
  | mapping entries => exact (plain entries rfl).elim
  | _ => rfl

theorem mergeValue_mapping_of_ne_mapping {held? : Option Value}
    (plain : ∀ base, held? ≠ some (.mapping base)) (entries : Mapping) :
    mergeValue held? (.mapping entries) = .mapping entries := by
  cases held? with
  | none => rfl
  | some held =>
      cases held with
      | mapping base => exact (plain base rfl).elim
      | _ => rfl

/-- Where the joined values are no mapping, the latest of them is none. -/
theorem leadingMappings_eq_nil {values : List Value}
    (plain : ∀ entries, joined values ≠ some (.mapping entries)) :
    leadingMappings values = [] := by
  cases values with
  | nil => rfl
  | cons value earlier =>
      cases value with
      | mapping entries =>
          rcases blends_mergeValue (joined earlier) (.mapping entries) with
            same | ⟨-, others, -, same, -⟩
          · exact (plain entries (congrArg some same)).elim
          · exact (plain others (congrArg some same)).elim
      | _ => rfl

/-- Where the joined values are a mapping, the latest of them is one. -/
theorem leadingMappings_eq_nestings {values : List Value} {entries : Mapping}
    (found : joined values = some (.mapping entries)) :
    leadingMappings values = nestings values := by
  cases values with
  | nil => cases found
  | cons value earlier =>
      cases value with
      | mapping latest => rfl
      | _ =>
          rw [joined, mergeValue_of_ne_mapping (by simp)] at found
          cases found

/-- What is found in joined values blends what the latest nesting with the name gives. -/
theorem blends_joined {values : List Value}
    (distinct : ∀ entries, .mapping entries ∈ values → Mapping.Distinct entries)
    {merged : Value} (found : joined values = some merged) {inner : Mapping}
    (read : merged.toMappingOrEmpty = .ok inner) (name : String) :
    Option.Rel Blends ((nestings values).findSome? (·.named? name)) (inner.named? name) := by
  induction values generalizing merged inner with
  | nil => cases found
  | cons value earlier ih =>
      rw [joined, Option.some.injEq] at found
      subst found
      by_cases nested : ∃ entries, value = .mapping entries
      · obtain ⟨entries, rfl⟩ := nested
        have own := distinct entries List.mem_cons_self
        by_cases joins : ∃ base, joined earlier = some (.mapping base)
        · obtain ⟨base, before⟩ := joins
          rw [before, mergeValue, toMappingOrEmpty_mapping, Except.ok.injEq] at read
          subst read
          have blends := ih (fun others member => distinct others (List.mem_cons_of_mem _ member))
            before (toMappingOrEmpty_mapping base)
          rw [nestings, leadingMappings_eq_nestings before, ← List.singleton_append,
            List.findSome?_append, List.findSome?_singleton, named?_mergeEntries own]
          exact blends_overlaid blends _
        · rw [not_exists] at joins
          rw [mergeValue_mapping_of_ne_mapping joins, toMappingOrEmpty_mapping,
            Except.ok.injEq] at read
          subst read
          rw [nestings, leadingMappings_eq_nil joins, List.findSome?_singleton]
          exact blends_refl _
      · rw [not_exists] at nested
        rw [mergeValue_of_ne_mapping nested] at read
        rw [nestings_of_ne_mapping nested, read, Except.toOption, Option.toList_some,
          List.findSome?_singleton]
        exact blends_refl _

/-! ## The last layer that sets a name -/

def nested? (layer : Mapping) (name : String) : Option Value :=
  match layer.named? ManagerParams.engineName with
  | some (.mapping entries) => Mapping.named? entries name
  | _ => none

/-- The value that a layer sets for a name: the flat one, or else the nested one. -/
def setting? (layer : Mapping) (name : String) : Option Value :=
  (layer.named? name).or (nested? layer name)

/-- The value of the last layer that sets a name, flat or nested. -/
def latestSetting? (layers : List Mapping) (name : String) : Option Value :=
  layers.reverse.findSome? (setting? · name)

/-- Whatever a layer gives under the engine's name is a mapping. -/
def NestsMapping (layer : Mapping) : Prop :=
  ∀ value, layer.named? ManagerParams.engineName = some value →
    ∃ entries, value = .mapping entries

/-- The last layer that sets a name nests it, and a layer before has it flat. -/
def Outranked (layers : List Mapping) (name : String) : Prop :=
  ∃ earlier layer later, layers = earlier ++ layer :: later ∧
    layer.named? name = none ∧ (nested? layer name).isSome ∧
    (∀ other ∈ later, setting? other name = none) ∧
    ∃ other ∈ earlier, (other.named? name).isSome

theorem latestSetting?_concat (layers : List Mapping) (layer : Mapping) (name : String) :
    latestSetting? (layers ++ [layer]) name =
      (setting? layer name).or (latestSetting? layers name) := by
  rw [latestSetting?, latestSetting?, List.reverse_append, List.findSome?_append,
    List.reverse_singleton, List.findSome?_singleton]

theorem leadingMappings_of_forall {values : List Value}
    (mappings : ∀ value ∈ values, ∃ entries, value = .mapping entries) :
    leadingMappings values = nestings values := by
  cases values with
  | nil => rfl
  | cons value earlier =>
      obtain ⟨entries, rfl⟩ := mappings value List.mem_cons_self
      rfl

/-- Where every layer nests a mapping, the last layer that nests the name decides. -/
theorem latestNested?_concat {layers : List Mapping} {layer : Mapping}
    (mappings : ∀ other ∈ layers, NestsMapping other) (own : NestsMapping layer)
    (name : String) :
    latestNested? (layers ++ [layer]) name =
      (nested? layer name).or (latestNested? layers name) := by
  rw [latestNested?, latestNested?, nestedValues_concat, nested?]
  cases given : layer.named? ManagerParams.engineName with
  | none => rfl
  | some value =>
      obtain ⟨entries, rfl⟩ := own value given
      have before : ∀ value ∈ nestedValues layers, ∃ entries, value = .mapping entries := by
        intro value member
        rcases List.mem_filterMap.mp member with ⟨other, inside, found⟩
        exact mappings other (List.mem_reverse.mp inside) value found
      rw [Option.toList_some, List.singleton_append, nestings,
        leadingMappings_of_forall before, ← List.singleton_append, List.findSome?_append,
        List.findSome?_singleton]

theorem Outranked.concat {layers : List Mapping} {name : String}
    (outranked : Outranked layers name) {layer : Mapping} (unset : setting? layer name = none) :
    Outranked (layers ++ [layer]) name := by
  rcases outranked with ⟨earlier, own, later, rfl, unflat, nests, none, flat⟩
  refine ⟨earlier, own, later ++ [layer], by simp, unflat, nests, ?_, flat⟩
  rw [List.forall_mem_append, List.forall_mem_singleton]
  exact ⟨none, unset⟩

/-- Unless it is outranked, the last layer that sets a name is met by looking flat first. -/
theorem latestSetting?_eq {layers : List Mapping}
    (mappings : ∀ layer ∈ layers, NestsMapping layer) {name : String}
    (first : ¬ Outranked layers name) :
    latestSetting? layers name = (latest? layers name).or (latestNested? layers name) := by
  induction layers using List.reverseRecOn with
  | nil => rfl
  | append_singleton earlier layer ih =>
      rw [List.forall_mem_append, List.forall_mem_singleton] at mappings
      rw [latestSetting?_concat, latest?_concat,
        latestNested?_concat mappings.1 mappings.2, setting?]
      cases flat : layer.named? name with
      | some value => rfl
      | none =>
          cases nests : nested? layer name with
          | none =>
              have unset : setting? layer name = none := by
                rw [setting?, flat, nests]
                rfl
              exact ih mappings.1 fun outranked => first (outranked.concat unset)
          | some value =>
              -- A flat value before would outrank the layer.
              cases before : latest? earlier name with
              | none => rfl
              | some other =>
                  obtain ⟨held, member, found⟩ := List.exists_of_findSome?_eq_some before
                  refine (first ⟨earlier, layer, [], rfl, flat, by simp [nests], by simp, held,
                    List.mem_reverse.mp member, by simp [found]⟩).elim

end MapIngest.Config
