import MapIngest.Proofs.Value.Mapping

/-!
# Nested values

A property of values that passes from the parts of a list and of a mapping to the whole
holds of every value.

A value is keyed if the keys of every mapping in it are distinct, as far as one gets
through mappings only.
-/

namespace MapIngest.Value

/-- Induction on a value, with the property of all items and of all stored values. -/
@[elab_as_elim]
theorem induction {motive : Value → Prop} (scalar : ∀ content, motive (.scalar content))
    (list : ∀ items, (∀ item ∈ items, motive item) → motive (.list items))
    (mapping : ∀ entries : Mapping, (∀ entry ∈ entries, motive entry.2) →
      motive (.mapping entries)) (value : Value) : motive value :=
  match value with
  | .scalar content => scalar content
  | .list items => list items fun item _ => induction scalar list mapping item
  | .mapping entries => mapping entries fun entry _ => induction scalar list mapping entry.2
termination_by sizeOf value
decreasing_by
  · have := List.sizeOf_lt_of_mem ‹item ∈ items›
    simp only [Value.list.sizeOf_spec]
    omega
  · have inside := List.sizeOf_lt_of_mem ‹entry ∈ entries›
    have part : sizeOf entry.2 < sizeOf entry := by
      rcases entry with ⟨key, stored⟩
      simp only [Prod.mk.sizeOf_spec]
      omega
    simp only [Value.mapping.sizeOf_spec]
    omega

/-- The keys of every mapping that is reached through mappings are distinct. -/
inductive Keyed : Value → Prop
  | scalar (content : Scalar) : Keyed (.scalar content)
  | list (items : List Value) : Keyed (.list items)
  | mapping {entries : Mapping} (distinct : entries.Distinct)
      (stored : ∀ entry ∈ entries, Keyed entry.2) : Keyed (.mapping entries)

attribute [simp] Keyed.scalar Keyed.list

@[simp]
theorem keyed_mapping_iff {entries : Mapping} :
    (Value.mapping entries).Keyed ↔ entries.Distinct ∧ ∀ entry ∈ entries, entry.2.Keyed := by
  constructor
  · rintro (_ | _ | ⟨distinct, stored⟩)
    exact ⟨distinct, stored⟩
  · rintro ⟨distinct, stored⟩
    exact .mapping distinct stored

theorem Keyed.distinct {entries : Mapping} (keyed : (Value.mapping entries).Keyed) :
    entries.Distinct :=
  (keyed_mapping_iff.mp keyed).1

theorem Keyed.stored {entries : Mapping} (keyed : (Value.mapping entries).Keyed)
    {key : Scalar} {value : Value} (found : entries.get? key = some value) : value.Keyed := by
  rcases Mapping.mem_of_get?_eq_some found with ⟨entry, member, -, rfl⟩
  exact (keyed_mapping_iff.mp keyed).2 entry member

end MapIngest.Value
