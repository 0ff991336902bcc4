import Mathlib.Data.List.DropRight
import MapIngest.Proofs.Config.Merge
import MapIngest.Proofs.Value.Nested

/-!
# What merged layers hold

The keys of merged layers are those of all layers, in the order in which they first
occur.  What is held under a key depends on nothing but the values that the layers give
for it.  If the last of these is no mapping, it is held as it is.  Otherwise the values
at the end that are mappings, as far back as there is nothing else between, are merged
in turn, and what they merge to is held.

A layer that is merged twice in a row is merged once.
-/

namespace MapIngest

/-- Whether a value is a mapping. -/
def Value.isMapping : Value → Bool
  | .mapping _ => true
  | _ => false

namespace Config

/-! ## Keys -/

theorem keys_mergeEntries (base entries : Mapping) :
    (mergeEntries base entries).keys = entries.keys.foldl Mapping.noteKey base.keys := by
  induction entries generalizing base with
  | nil => rfl
  | cons entry rest ih =>
      rw [mergeEntries_cons, ih, Mapping.keys_insert]
      rfl

theorem keys_foldl_mergeEntries (layers : List Mapping) (base : Mapping) :
    (layers.foldl mergeEntries base).keys =
      (layers.flatMap Mapping.keys).foldl Mapping.noteKey base.keys := by
  induction layers generalizing base with
  | nil => rfl
  | cons layer rest ih =>
      rw [List.foldl_cons, ih, keys_mergeEntries, List.flatMap_cons, List.foldl_append]

/-- The keys of merged layers stand in the order in which they first occur. -/
theorem keys_merged (layers : List Mapping) :
    (layers.foldl mergeEntries []).keys =
      (layers.flatMap Mapping.keys).eraseDupsBy Scalar.sameKey := by
  rw [keys_foldl_mergeEntries, Mapping.foldl_noteKey]
  simp [Mapping.keys]

/-! ## Merging a layer again -/

/-- A layer whose values are settled is merged without a change. -/
theorem mergeEntries_of_settled {base entries : Mapping}
    (settled : ∀ entry ∈ entries, ∃ held, base.get? entry.1 = some held ∧
      mergeValue (some held) entry.2 = held) : mergeEntries base entries = base := by
  induction entries with
  | nil => rfl
  | cons entry rest ih =>
      rcases List.forall_mem_cons.mp settled with ⟨⟨held, found, same⟩, others⟩
      rw [mergeEntries_cons, found, same, Mapping.insert_of_found found]
      exact ih others

@[simp]
theorem mergeValue_none (value : Value) : mergeValue none value = value := by
  cases value <;> simp [mergeValue]

/-- Entries under keys that are not there yet are added at the end. -/
theorem mergeEntries_of_fresh {base entries : Mapping}
    (distinct : Mapping.Distinct (base ++ entries)) :
    mergeEntries base entries = base ++ entries := by
  induction entries generalizing base with
  | nil => exact (List.append_nil base).symm
  | cons entry rest ih =>
      rcases entry with ⟨key, value⟩
      have absent : base.get? key = none := by
        rw [Mapping.get?_eq_none_iff]
        intro earlier member
        exact (List.pairwise_append.mp distinct).2.2 earlier member _ List.mem_cons_self
      rw [List.append_cons] at distinct
      rw [mergeEntries_cons, absent, Mapping.insert_of_absent absent,
        mergeValue_none, ih distinct, List.append_assoc, List.singleton_append]

theorem mergeEntries_nil {entries : Mapping} (distinct : entries.Distinct) :
    mergeEntries [] entries = entries :=
  mergeEntries_of_fresh distinct

/-- The entries of what is held, if it is a mapping. -/
def heldEntries : Option Value → Mapping
  | some (.mapping entries) => entries
  | _ => []

/-- A mapping is merged into what is held, which counts as empty if it is no mapping. -/
theorem mergeValue_mapping {entries : Mapping} (distinct : entries.Distinct)
    (held? : Option Value) :
    mergeValue held? (.mapping entries) = .mapping (mergeEntries (heldEntries held?) entries) := by
  rcases held? with _ | _ | _ | base <;>
    simp [mergeValue, heldEntries, mergeEntries_nil distinct]

/-- A value that is merged twice in a row is merged once. -/
theorem mergeValue_again {value : Value} (keyed : value.Keyed) (held? : Option Value) :
    mergeValue (some (mergeValue held? value)) value = mergeValue held? value := by
  induction value using Value.induction generalizing held? with
  | scalar content => simp [mergeValue_of_ne_mapping]
  | list items => simp [mergeValue_of_ne_mapping]
  | mapping entries ih =>
      have distinct := keyed.distinct
      rw [mergeValue_mapping distinct held?, mergeValue_mapping distinct, heldEntries]
      congr 1
      -- Once merged, every entry is found as it would be stored again.
      apply mergeEntries_of_settled
      intro entry member
      have found := distinct.get?_of_mem member
      refine ⟨_, get?_mergeEntries distinct _ _ |>.trans (by rw [found]; rfl), ?_⟩
      exact ih entry member (keyed.stored found) _

/-- A layer that is merged twice in a row is merged once. -/
theorem mergeEntries_again {entries : Mapping} (keyed : (Value.mapping entries).Keyed)
    (base : Mapping) :
    mergeEntries (mergeEntries base entries) entries = mergeEntries base entries := by
  have same := mergeValue_again keyed (some (.mapping base))
  rw [mergeValue, mergeValue] at same
  exact Value.mapping.inj same

/-! ## Values -/

/-- The values that layers give for a key, in order. -/
def given (layers : List Mapping) (key : Scalar) : List Value :=
  layers.filterMap (·.get? key)

/-- What is held after values are merged one after the other. -/
def settled (values : List Value) : Option Value :=
  values.foldl (fun held? value => some (mergeValue held? value)) none

theorem settled_concat (values : List Value) (value : Value) :
    settled (values ++ [value]) = some (mergeValue (settled values) value) := by
  rw [settled, List.foldl_append]
  rfl

/-- What is found under a key of merged layers is what the values given for it come to. -/
theorem get?_merged {layers : List Mapping} (distinct : ∀ layer ∈ layers, layer.Distinct)
    (key : Scalar) : (layers.foldl mergeEntries []).get? key = settled (given layers key) := by
  induction layers using List.reverseRecOn with
  | nil => rfl
  | append_singleton earlier layer ih =>
      rw [List.forall_mem_append, List.forall_mem_singleton] at distinct
      rw [List.foldl_append, List.foldl_cons, List.foldl_nil, get?_mergeEntries distinct.2,
        ih distinct.1, given, given, List.filterMap_append]
      cases found : layer.get? key with
      | none => simp [overlaid, found]
      | some value => simp [overlaid, found, settled_concat]

theorem merge_concat {layers : List Value} {base : Mapping} (merged : merge layers = .ok base)
    (entries : Mapping) :
    merge (layers ++ [.mapping entries]) = .ok (mergeEntries base entries) := by
  rw [merge] at merged
  rw [merge, List.foldlM_append, merged]
  rfl

/-- The mappings at the end of values merge to the entries of what the values come to. -/
theorem merge_suffix {values : List Value} (keyed : ∀ value ∈ values, value.Keyed) :
    merge (values.rtakeWhile Value.isMapping) = .ok (heldEntries (settled values)) := by
  induction values using List.reverseRecOn with
  | nil => rfl
  | append_singleton earlier value ih =>
      rw [List.forall_mem_append, List.forall_mem_singleton] at keyed
      rw [settled_concat]
      cases value with
      | mapping entries =>
          rw [List.rtakeWhile_concat_pos _ _ _ rfl, merge_concat (ih keyed.1),
            mergeValue_mapping keyed.2.distinct, heldEntries]
      | _ =>
          -- Any other value ends the suffix, and there is nothing to merge into.
          rw [List.rtakeWhile_concat_neg _ _ _ (by simp [Value.isMapping]),
            mergeValue_of_ne_mapping (by simp)]
          rfl

theorem isSome_settled_iff (values : List Value) :
    (settled values).isSome = true ↔ values ≠ [] := by
  induction values using List.reverseRecOn with
  | nil => simp [settled]
  | append_singleton earlier value => simp [settled_concat]

theorem given_ne_nil_iff (layers : List Mapping) (key : Scalar) :
    given layers key ≠ [] ↔ ∃ layer ∈ layers, layer.contains key = true := by
  simp [given, Mapping.contains_eq_isSome, Option.isSome_iff_exists, Option.ne_none_iff_exists']

theorem keyed_of_given {layers : List Mapping}
    (keyed : ∀ layer ∈ layers, (Value.mapping layer).Keyed) (key : Scalar) :
    ∀ value ∈ given layers key, value.Keyed := by
  intro value member
  rcases List.mem_filterMap.mp member with ⟨layer, among, found⟩
  exact (keyed layer among).stored found

/-- The values given for a key decide what it holds, as the last one is a mapping or not. -/
theorem settled_of_latest {values : List Value} (keyed : ∀ value ∈ values, value.Keyed)
    {latest : Value} (last : values.getLast? = some latest) :
    (latest.isMapping = false → settled values = some latest) ∧
      (latest.isMapping = true → ∃ inner,
        merge (values.rtakeWhile Value.isMapping) = .ok inner ∧
        settled values = some (.mapping inner)) := by
  have merged := merge_suffix keyed
  rcases List.getLast?_eq_some_iff.mp last with ⟨earlier, rfl⟩
  rw [List.forall_mem_append, List.forall_mem_singleton] at keyed
  rw [settled_concat] at merged ⊢
  cases latest with
  | mapping entries =>
      refine ⟨nofun, fun _ => ⟨_, merged, ?_⟩⟩
      rw [mergeValue_mapping keyed.2.distinct, heldEntries]
  | _ => exact ⟨fun _ => by rw [mergeValue_of_ne_mapping (by simp)], nofun⟩

/-! ## The law of merging -/

/--
Layers always merge.  The keys are those of the layers, in the order in which they first
occur.  Let the values that the layers give for a key be taken in order.  If the last one
is no mapping, the key holds it.  Otherwise the key holds what the longest end of these
values that consists of mappings merges to.  To merge the last layer once more changes
nothing.
-/
theorem merge_determined {layers : List Mapping}
    (keyed : ∀ layer ∈ layers, (Value.mapping layer).Keyed) :
    ∃ merged, merge (layers.map .mapping) = .ok merged ∧
      merged.keys = (layers.flatMap Mapping.keys).eraseDupsBy Scalar.sameKey ∧
      (∀ key, merged.contains key = true ↔ ∃ layer ∈ layers, layer.contains key = true) ∧
      (∀ key latest, (given layers key).getLast? = some latest →
        (latest.isMapping = false → merged.get? key = some latest) ∧
        (latest.isMapping = true → ∃ inner,
          merge ((given layers key).rtakeWhile Value.isMapping) = .ok inner ∧
          merged.get? key = some (.mapping inner))) ∧
      (∀ latest, layers.getLast? = some latest →
        merge ((layers ++ [latest]).map .mapping) = .ok merged) := by
  have found := get?_merged fun layer member => (keyed layer member).distinct
  refine ⟨_, merge_mappings layers, keys_merged layers, fun key => ?_, fun key latest last => ?_,
    fun latest last => ?_⟩
  · rw [Mapping.contains_eq_isSome, found, isSome_settled_iff, given_ne_nil_iff]
  · rw [found]
    exact settled_of_latest (keyed_of_given keyed key) last
  · rcases List.getLast?_eq_some_iff.mp last with ⟨earlier, rfl⟩
    rw [List.forall_mem_append, List.forall_mem_singleton] at keyed
    rw [merge_mappings]
    simp only [List.foldl_append, List.foldl_cons, List.foldl_nil, mergeEntries_again keyed.2]

/-- Three layers, of which the second one gives a number where the others give a mapping. -/
def interruptedLayers : List Mapping :=
  [[(.text "sensor", .mapping [(.text "range", .int 5)]), (.text "frame", .text "map")],
    [(.text "sensor", .int 0)],
    [(.text "frame", .null), (.text "sensor", .mapping [(.text "rate", .float 2.0)])]]

/-- A number between two mappings keeps the first of them out of what is merged. -/
theorem interruptedLayers_merged :
    (∀ layer ∈ interruptedLayers, (Value.mapping layer).Keyed) ∧
      ∃ merged, merge (interruptedLayers.map .mapping) = .ok merged ∧
        merged.get? (.text "sensor") = some (.mapping [(.text "rate", .float 2.0)]) := by
  have keyed : ∀ layer ∈ interruptedLayers, (Value.mapping layer).Keyed := by
    simp [interruptedLayers, Mapping.Distinct, or_imp, forall_and]
  refine ⟨keyed, ?_⟩
  obtain ⟨merged, returned, -, -, held, -⟩ := merge_determined keyed
  obtain ⟨inner, suffix, found⟩ := (held (.text "sensor") _ rfl).2 rfl
  cases suffix
  exact ⟨merged, returned, found⟩

end Config

end MapIngest
