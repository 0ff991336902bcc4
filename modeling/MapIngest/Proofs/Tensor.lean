import MapIngest.Proofs.Tensor.Reading

/-!
# Reading lists of doubles as arrays

A list of doubles has a shape of one dimension.  Reading it as an array never
fails and gives the doubles back.  Cutting the array into quadruples
succeeds when its length is a multiple of four, and keeps every element at its
place in row-major order.
-/

namespace MapIngest

open MapIngest.Geometry

@[simp]
theorem itemLeaves_floats (numbers : List Float) :
    itemLeaves (numbers.map .float) = numbers.map .float := by
  induction numbers with
  | nil => rfl
  | cons number rest ih => simp [itemLeaves, Value.leaves, ih]

theorem hasShape_floats (numbers : List Float) :
    (Value.list (numbers.map .float)).HasShape [numbers.length] := by
  refine ⟨_, rfl, List.length_map _, fun item member items => ?_⟩
  rcases List.mem_map.mp member with ⟨number, -, rfl⟩
  exact nofun

theorem mapM_toElement_floats (numbers : List Float) :
    (numbers.map Value.float).mapM Value.toElement = .ok numbers := by
  rw [mapM_eq_ok_iff, List.forall₂_map_left_iff, List.forall₂_same]
  exact fun _ _ => rfl

namespace Tensor

/-- A list of doubles is read as the array of these doubles. -/
theorem ofValue_floats (numbers : List Float) :
    ofValue (.list (numbers.map .float)) = .ok ⟨[numbers.length], numbers⟩ := by
  have shaped := hasShape_floats numbers
  have visible : visibleDimensions [numbers.length] = [numbers.length] := by
    cases numbers <;> rfl
  rw [ofValue_of_rectangular ⟨_, by simp [maxDimensions], shaped⟩, shaped.outline_eq, visible,
    Value.leaves, itemLeaves_floats, mapM_toElement_floats]
  rfl

/-- Quadruples keep every element at its place in row-major order. -/
theorem quadruples?_of_length {α : Type} (rows : Nat) (elements : List α)
    (length : elements.length = 4 * rows) :
    ∃ quadruples, quadruples? elements = some quadruples ∧ quadruples.length = rows ∧
      ∀ row column, column < 4 →
        quadruples[row]?.bind (fun q => q.toList[column]?) = elements[4 * row + column]? := by
  induction rows generalizing elements with
  | zero =>
      obtain rfl : elements = [] := List.eq_nil_of_length_eq_zero length
      exact ⟨[], rfl, rfl, by simp⟩
  | succ rows ih =>
      match elements, length with
      | x :: y :: z :: w :: rest, length =>
          rcases ih rest (by simp at length; omega) with ⟨quadruples, cut, count, places⟩
          refine ⟨⟨x, y, z, w⟩ :: quadruples, by simp [quadruples?, cut], by simp [count], ?_⟩
          intro row column inside
          cases row with
          | zero =>
              have : column = 0 ∨ column = 1 ∨ column = 2 ∨ column = 3 := by omega
              rcases this with rfl | rfl | rfl | rfl <;> rfl
          | succ row =>
              have shifted : 4 * (row + 1) + column = (4 * row + column) + 4 := by omega
              simpa [shifted] using places row column inside

end Tensor

end MapIngest
