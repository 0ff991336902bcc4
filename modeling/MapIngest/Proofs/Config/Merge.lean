import Mathlib.Data.List.Induction
import MapIngest.Config.Merge
import MapIngest.Proofs.Value.Mapping

/-!
# What is found in merged mappings

Merging the entries of a mapping with distinct keys overlays each of them on what
was found under its key before: a value that is a mapping is merged with a mapping
already there, and every other value replaces what was there.

After a sequence of layers, what is found under a name is what the last layer with
the name gives, unless that is a mapping; a mapping may have taken entries from the
layers before, and is empty only if the last one is.
-/

namespace MapIngest.Config

/-- What is found under a key once a layer is merged, given what each of the two gave. -/
def overlaid (held? value? : Option Value) : Option Value :=
  match value? with
  | none => held?
  | some value => some (mergeValue held? value)

theorem mergeValue_of_ne_mapping {value : Value} (plain : ∀ entries, value ≠ .mapping entries)
    (held? : Option Value) : mergeValue held? value = value := by
  cases value with
  | mapping entries => exact (plain entries rfl).elim
  | scalar content =>
      cases held? with
      | none => rfl
      | some held => cases held <;> rfl
  | list items =>
      cases held? with
      | none => rfl
      | some held => cases held <;> rfl

theorem mergeEntries_cons (base : Mapping) (key : Scalar) (value : Value) (rest : Mapping) :
    mergeEntries base ((key, value) :: rest) =
      mergeEntries (base.insert key (mergeValue (base.get? key) value)) rest := by
  rw [mergeEntries]

/-- Merging a layer with distinct keys overlays each of its values once. -/
theorem get?_mergeEntries {entries : Mapping} (distinct : entries.Distinct) (base : Mapping)
    (key : Scalar) :
    (mergeEntries base entries).get? key = overlaid (base.get? key) (entries.get? key) := by
  induction entries generalizing base with
  | nil => rfl
  | cons entry rest ih =>
      rcases entry with ⟨stored, value⟩
      rcases List.pairwise_cons.mp distinct with ⟨-, others⟩
      rw [mergeEntries_cons, ih others, Mapping.get?_insert, Mapping.get?_cons]
      by_cases same : stored.sameKey key = true
      · -- No later entry stands under the key of this one.
        rw [distinct.get?_tail same, if_pos same, if_pos same, Mapping.get?_congr base same]
        rfl
      · rw [if_neg same, if_neg same]

theorem named?_mergeEntries {entries : Mapping} (distinct : entries.Distinct)
    (base : Mapping) (name : String) :
    (mergeEntries base entries).named? name =
      overlaid (base.named? name) (entries.named? name) :=
  get?_mergeEntries distinct base _

theorem insert_ne_nil (entries : Mapping) (key : Scalar) (value : Value) :
    entries.insert key value ≠ [] := by
  cases entries with
  | nil => exact List.cons_ne_nil _ _
  | cons entry rest =>
      rcases entry with ⟨old, held⟩
      rw [Mapping.insert]
      split <;> exact List.cons_ne_nil _ _

theorem mergeEntries_ne_nil {base : Mapping} (filled : base ≠ []) (entries : Mapping) :
    mergeEntries base entries ≠ [] := by
  induction entries generalizing base with
  | nil => exact filled
  | cons entry rest ih =>
      rw [mergeEntries_cons]
      exact ih (insert_ne_nil _ _ _)

theorem eq_nil_of_mergeEntries {base entries : Mapping}
    (empty : mergeEntries base entries = []) : entries = [] := by
  cases entries with
  | nil => rfl
  | cons entry rest =>
      rw [mergeEntries_cons] at empty
      exact (mergeEntries_ne_nil (insert_ne_nil _ _ _) rest empty).elim

/-! ## Blends -/

/-- A merged value is the latest one, or a mapping that is empty only if the latest one is. -/
def Blends (latest merged : Value) : Prop :=
  merged = latest ∨
    ∃ entries others, latest = .mapping entries ∧ merged = .mapping others ∧
      (others = [] → entries = [])

theorem blends_refl (value? : Option Value) : Option.Rel Blends value? value? := by
  cases value? with
  | none => exact .none
  | some value => exact .some (Or.inl rfl)

theorem blends_mergeValue (held? : Option Value) (value : Value) :
    Blends value (mergeValue held? value) := by
  cases value with
  | mapping entries =>
      cases held? with
      | none => exact Or.inl rfl
      | some held =>
          cases held with
          | mapping base =>
              exact Or.inr ⟨entries, mergeEntries base entries, rfl, rfl,
                eq_nil_of_mergeEntries⟩
          | _ => exact Or.inl rfl
  | _ => exact Or.inl (mergeValue_of_ne_mapping (by simp) held?)

/-- An overlay blends what was found before with the latest value. -/
theorem blends_overlaid {latest? held? : Option Value}
    (blends : Option.Rel Blends latest? held?) (value? : Option Value) :
    Option.Rel Blends (value?.or latest?) (overlaid held? value?) := by
  cases value? with
  | none => exact blends
  | some value => exact .some (blends_mergeValue held? value)

/-! ## Layers -/

/-- The value of the last layer that has a name. -/
def latest? (layers : List Mapping) (name : String) : Option Value :=
  layers.reverse.findSome? (·.named? name)

theorem latest?_concat (layers : List Mapping) (layer : Mapping) (name : String) :
    latest? (layers ++ [layer]) name = (layer.named? name).or (latest? layers name) := by
  rw [latest?, latest?, List.reverse_append, List.findSome?_append, List.reverse_singleton,
    List.findSome?_singleton]

theorem merge_mappings (layers : List Mapping) :
    merge (layers.map .mapping) = .ok (layers.foldl mergeEntries []) := by
  rw [merge]
  generalize ([] : Mapping) = base
  induction layers generalizing base with
  | nil => rfl
  | cons layer rest ih =>
      rw [List.map_cons, List.foldlM_cons, List.foldl_cons]
      exact ih (mergeEntries base layer)

/-- What is found under a name in merged layers blends what the last of them gives. -/
theorem blends_merged {layers : List Mapping} (distinct : ∀ layer ∈ layers, layer.Distinct)
    (name : String) :
    Option.Rel Blends (latest? layers name)
      ((layers.foldl mergeEntries []).named? name) := by
  induction layers using List.reverseRecOn with
  | nil => exact .none
  | append_singleton earlier layer ih =>
      rw [List.forall_mem_append, List.forall_mem_singleton] at distinct
      rw [latest?_concat, List.foldl_append, List.foldl_cons, List.foldl_nil,
        named?_mergeEntries distinct.2]
      exact blends_overlaid (ih distinct.1) _

end MapIngest.Config
