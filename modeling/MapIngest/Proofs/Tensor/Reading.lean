import MapIngest.Proofs.Decimal.Range
import MapIngest.Proofs.Fallible
import MapIngest.Proofs.Value.Nested
import MapIngest.Tensor

/-!
# Which values are arrays

A value has a shape if it is nested lists of these dimensions.  The outline of a value
is regular exactly if the value has a shape, and then shows the shape as far as there
is anything inside the lists.

A value is read as an array exactly if it has a shape of no more dimensions than an
array can have and each of its elements is read.  Otherwise the first element that is
not read decides how the reading fails.  The failure is one of a wrong type or of a
wrong value, unless that element is an integer beyond the range of doubles.
-/

namespace MapIngest

/-! ## Shapes -/

/-- A value is nested lists of the given dimensions, outermost first. -/
def Value.HasShape : (shape : List Nat) → Value → Prop
  | [], value => ∀ items, value ≠ .list items
  | count :: inner, value =>
    ∃ items, value = .list items ∧ items.length = count ∧ ∀ item ∈ items, item.HasShape inner

/-- The dimensions of a shape that can be seen: there is nothing inside an empty list. -/
def visibleDimensions : List Nat → List Nat
  | [] => []
  | 0 :: _ => [0]
  | (count + 1) :: inner => (count + 1) :: visibleDimensions inner

theorem length_visibleDimensions_le (shape : List Nat) :
    (visibleDimensions shape).length ≤ shape.length := by
  induction shape with
  | nil => exact Nat.le_refl 0
  | cons count inner ih =>
      cases count with
      | zero => exact Nat.succ_le_succ (Nat.zero_le inner.length)
      | succ count => exact Nat.succ_le_succ ih

@[simp]
theorem sharedDimensions_self (dimensions : List Nat) :
    sharedDimensions dimensions dimensions = dimensions := by
  induction dimensions with
  | nil => rfl
  | cons count inner ih => rw [sharedDimensions, if_pos rfl, ih]

namespace Outline

/-- What two outlines have in common. -/
def meet (found outline : Outline) : Outline :=
  ⟨sharedDimensions found.dimensions outline.dimensions,
    found.regular && outline.regular && found.dimensions == outline.dimensions⟩

theorem ofItems_cons (first : Outline) (rest : List Outline) :
    ofItems (first :: rest) =
      ⟨(rest.length + 1) :: (rest.foldl meet first).dimensions,
        (rest.foldl meet first).regular⟩ := rfl

@[simp]
theorem meet_self (dimensions : List Nat) :
    meet ⟨dimensions, true⟩ ⟨dimensions, true⟩ = ⟨dimensions, true⟩ := by
  simp [meet]

theorem foldl_meet_replicate (count : Nat) (dimensions : List Nat) :
    (List.replicate count ⟨dimensions, true⟩).foldl meet ⟨dimensions, true⟩ =
      ⟨dimensions, true⟩ := by
  induction count with
  | zero => rfl
  | succ count ih => rw [List.replicate_succ, List.foldl_cons, meet_self, ih]

/-- Items of one outline form a regular list. -/
theorem ofItems_replicate_succ (count : Nat) (dimensions : List Nat) :
    ofItems (List.replicate (count + 1) ⟨dimensions, true⟩) =
      ⟨(count + 1) :: dimensions, true⟩ := by
  rw [List.replicate_succ, ofItems_cons, foldl_meet_replicate, List.length_replicate]

/-- Outlines that are regular together are all the same. -/
theorem eq_of_foldl_meet_regular {first : Outline} {rest : List Outline}
    (regular : (rest.foldl meet first).regular = true) :
    first.regular = true ∧ ∀ outline ∈ rest, outline = first := by
  induction rest generalizing first with
  | nil => exact ⟨regular, by simp⟩
  | cons next others ih =>
      rcases ih regular with ⟨together, same⟩
      simp only [meet, Bool.and_eq_true, beq_iff_eq] at together
      obtain ⟨⟨own, second⟩, dimensions⟩ := together
      obtain rfl : next = first := by
        cases next
        cases first
        simp_all
      refine ⟨own, List.forall_mem_cons.mpr ⟨rfl, fun outline member => ?_⟩⟩
      rw [same outline member]
      cases next
      simp_all [meet]

end Outline

theorem itemOutlines_eq_map (items : List Value) :
    itemOutlines items = items.map Value.outline := by
  induction items with
  | nil => rfl
  | cons item rest ih => rw [itemOutlines, ih, List.map_cons]

/-- The outline of a value that has a shape shows the shape. -/
theorem Value.HasShape.outline_eq {shape : List Nat} {value : Value}
    (shaped : value.HasShape shape) : value.outline = ⟨visibleDimensions shape, true⟩ := by
  induction shape generalizing value with
  | nil =>
      cases value with
      | list items => exact (shaped items rfl).elim
      | _ => rfl
  | cons count inner ih =>
      obtain ⟨items, rfl, rfl, parts⟩ := shaped
      have outlines : itemOutlines items =
          List.replicate items.length ⟨visibleDimensions inner, true⟩ := by
        rw [itemOutlines_eq_map]
        exact List.map_eq_replicate_iff.mpr fun item member => ih (parts item member)
      rw [Value.outline, outlines]
      cases items with
      | nil => rfl
      | cons item rest => exact Outline.ofItems_replicate_succ rest.length _

/-- A value whose outline is regular has the shape that the outline shows. -/
theorem Value.hasShape_of_regular {value : Value} (regular : value.outline.regular = true) :
    value.HasShape value.outline.dimensions := by
  induction value using Value.induction with
  | scalar content =>
      intro items same
      cases same
  | mapping entries ih =>
      intro items same
      cases same
  | list items ih =>
      rw [Value.outline, itemOutlines_eq_map] at regular ⊢
      cases items with
      | nil => exact ⟨[], rfl, rfl, by simp⟩
      | cons first rest =>
          rw [List.map_cons, Outline.ofItems_cons] at regular
          rcases Outline.eq_of_foldl_meet_regular regular with ⟨own, same⟩
          rw [List.forall_mem_map] at same
          have outlines : rest.map Value.outline =
              List.replicate rest.length ⟨first.outline.dimensions, true⟩ :=
            List.map_eq_replicate_iff.mpr fun item member => by
              rw [same item member, ← own]
          have start : first.outline = ⟨first.outline.dimensions, true⟩ := by rw [← own]
          rw [List.map_cons, outlines, start, ← List.replicate_succ,
            Outline.ofItems_replicate_succ]
          refine ⟨first :: rest, rfl, rfl, List.forall_mem_cons.mpr ⟨?_, ?_⟩⟩
          · exact ih first List.mem_cons_self own
          · intro item member
            have shaped := ih item (List.mem_cons_of_mem _ member) (by
              rw [same item member, own])
            rwa [same item member] at shaped

/-- A value is as regular as an array must be exactly if it has a shape that an array can have. -/
theorem Value.regular_iff_hasShape {value : Value} {most : Nat} :
    value.outline.regular = true ∧ value.outline.dimensions.length ≤ most ↔
      ∃ shape, shape.length ≤ most ∧ value.HasShape shape := by
  constructor
  · rintro ⟨regular, shallow⟩
    exact ⟨_, shallow, Value.hasShape_of_regular regular⟩
  · rintro ⟨shape, shallow, shaped⟩
    rw [shaped.outline_eq]
    exact ⟨rfl, Nat.le_trans (length_visibleDimensions_le shape) shallow⟩

/-! ## Elements -/

namespace Value

/-- A value is an integer beyond the range of doubles. -/
def Oversized (value : Value) : Prop :=
  ∃ number : Int, value = .int number ∧ 2 ^ 1024 - 2 ^ 970 ≤ number.natAbs

theorem Oversized.toElement_eq {value : Value} (oversized : value.Oversized) :
    value.toElement = .error (.conversion .numberRange) := by
  obtain ⟨number, rfl, large⟩ := oversized
  change toFloat (.int number) = _
  rw [toFloat, Decimal.ofInteger?_eq_none_iff.mpr large]
  rfl

theorem toFloat_refusal {value : Value} {fault : Fault} (refused : value.toFloat = .error fault) :
    value.Oversized ∧ fault = .conversion .numberRange ∨
      fault.kind = .type ∨ fault.kind = .value := by
  cases value with
  | list items =>
      cases refused
      exact Or.inr (Or.inl rfl)
  | mapping entries =>
      cases refused
      exact Or.inr (Or.inl rfl)
  | scalar content =>
      cases content with
      | int number =>
          rw [toFloat] at refused
          split at refused
          next => cases refused
          next absent =>
            cases refused
            exact Or.inl ⟨⟨number, rfl, Decimal.ofInteger?_eq_none_iff.mp absent⟩, rfl⟩
      | text content =>
          rw [toFloat] at refused
          split at refused
          next => cases refused
          next =>
            cases refused
            exact Or.inr (Or.inr rfl)
      | bytes content =>
          rw [toFloat] at refused
          split at refused
          next => cases refused
          next =>
            cases refused
            exact Or.inr (Or.inr rfl)
      | bool truth => cases refused
      | float number => cases refused
      | null =>
          cases refused
          exact Or.inr (Or.inl rfl)
      | date iso =>
          cases refused
          exact Or.inr (Or.inl rfl)

/-- An element is refused as out of range, or as of a wrong type, or as a wrong value. -/
theorem toElement_refusal {value : Value} {fault : Fault}
    (refused : value.toElement = .error fault) :
    value.Oversized ∧ fault = .conversion .numberRange ∨
      fault.kind = .type ∨ fault.kind = .value := by
  unfold toElement at refused
  split at refused
  next => cases refused
  next =>
    rcases toFloat_refusal refused with ⟨⟨number, same, -⟩, -⟩ | kind
    · cases same
    · exact Or.inr kind
  next => exact toFloat_refusal refused

/-! ## Arrays -/

/-- A value is nested lists of a shape that an array can have. -/
def Rectangular (value : Value) : Prop :=
  ∃ shape, shape.length ≤ Tensor.maxDimensions ∧ value.HasShape shape

/-- A value is an array whose elements, in order, are read as the given doubles. -/
structure Flattens (value : Value) (numbers : List Float) : Prop where
  rectangular : value.Rectangular
  elements : List.Forall₂ (fun leaf number => leaf.toElement = .ok number) value.leaves numbers

/-- The first element of an array that is not read is an integer beyond the range of doubles. -/
structure Overflows (value : Value) : Prop where
  rectangular : value.Rectangular
  element : ∃ before leaf after, value.leaves = before ++ leaf :: after ∧
    (∀ earlier ∈ before, ∃ number, earlier.toElement = .ok number) ∧ leaf.Oversized

end Value

namespace Tensor

theorem ofValue_of_rectangular {value : Value} (rectangular : value.Rectangular) :
    ofValue value =
      (value.leaves.mapM Value.toElement).map fun elements =>
        ⟨value.outline.dimensions, elements⟩ := by
  rw [ofValue, if_pos (Value.regular_iff_hasShape.mpr rectangular)]

theorem ofValue_of_not_rectangular {value : Value} (ragged : ¬ value.Rectangular) :
    ofValue value = .error (.conversion (refusal value.outline.dimensions)) := by
  rw [ofValue, if_neg (fun regular => ragged (Value.regular_iff_hasShape.mp regular))]
  rfl

theorem kind_refusal (dimensions : List Nat) : (refusal dimensions).kind = .value := by
  rw [refusal]
  split <;> rfl

/-- A value is read as an array with the elements that it flattens to. -/
theorem elements_ofValue_iff {value : Value} {numbers : List Float} :
    (∃ tensor, ofValue value = .ok tensor ∧ tensor.elements = numbers) ↔
      value.Flattens numbers := by
  by_cases rectangular : value.Rectangular
  · rw [ofValue_of_rectangular rectangular]
    constructor
    · rintro ⟨tensor, returned, rfl⟩
      cases read : value.leaves.mapM Value.toElement with
      | error fault =>
          rw [read] at returned
          cases returned
      | ok elements =>
          rw [read] at returned
          cases returned
          exact ⟨rectangular, mapM_eq_ok_iff.mp read⟩
    · intro flattens
      rw [mapM_eq_ok_iff.mpr flattens.elements]
      exact ⟨_, rfl, rfl⟩
  · rw [ofValue_of_not_rectangular rectangular]
    constructor
    · rintro ⟨tensor, returned, -⟩
      cases returned
    · intro flattens
      exact (rectangular flattens.rectangular).elim

/-- The reading of a value fails as out of range if the value overflows, and else as refused. -/
theorem ofValue_refusal {value : Value} {fault : Fault} (refused : ofValue value = .error fault) :
    value.Overflows ∧ fault = .conversion .numberRange ∨
      fault.kind = .type ∨ fault.kind = .value := by
  by_cases rectangular : value.Rectangular
  · rw [ofValue_of_rectangular rectangular] at refused
    cases read : value.leaves.mapM Value.toElement with
    | ok elements =>
        rw [read] at refused
        cases refused
    | error cause =>
        rw [read] at refused
        cases refused
        rcases mapM_eq_error_iff.mp read with ⟨before, leaf, after, split, earlier, failed⟩
        rcases Value.toElement_refusal failed with ⟨oversized, same⟩ | kind
        · exact Or.inl ⟨⟨rectangular, before, leaf, after, split, earlier, oversized⟩, same⟩
        · exact Or.inr kind
  · rw [ofValue_of_not_rectangular rectangular] at refused
    cases refused
    exact Or.inr (Or.inr (kind_refusal _))

theorem ofValue_of_overflows {value : Value} (overflows : value.Overflows) :
    ofValue value = .error (.conversion .numberRange) := by
  rcases overflows.element with ⟨before, leaf, after, split, earlier, oversized⟩
  rw [ofValue_of_rectangular overflows.rectangular,
    mapM_eq_error_iff.mpr ⟨before, leaf, after, split, earlier, oversized.toElement_eq⟩]
  rfl

end Tensor

end MapIngest
