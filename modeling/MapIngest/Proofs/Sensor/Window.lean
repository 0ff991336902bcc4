import MapIngest.Tensor

/-!
# Windows of a buffer

A window is what stands in a buffer from a start on, up to a width.  A window of a
window is a window of the buffer, if it does not reach beyond the first one.  The
pieces that a buffer is cut into are windows side by side, and pieces of rows that
are put together are the pieces of each row.  Rows of one length that are put together
are the windows at the multiples of the length.

Overwriting bytes changes no window apart from them, and the window at their place
holds them.
-/

namespace MapIngest.Sensor

variable {α : Type}

/-- What stands in a buffer from a start on, up to a width. -/
def window (buffer : List α) (start width : Nat) : List α :=
  (buffer.drop start).take width

theorem length_window {buffer : List α} {start width : Nat}
    (inside : start + width ≤ buffer.length) : (window buffer start width).length = width := by
  rw [window, List.length_take, List.length_drop]
  omega

theorem window_window (buffer : List α) (start offset : Nat) {width wide : Nat}
    (inside : offset + width ≤ wide) :
    window (window buffer start wide) offset width = window buffer (start + offset) width := by
  rw [window, window, window, List.drop_take, List.take_take, List.drop_drop,
    Nat.min_eq_left (by omega)]

theorem take_window (buffer : List α) (start : Nat) {width wide : Nat} (narrow : width ≤ wide) :
    (window buffer start wide).take width = window buffer start width := by
  rw [window, window, List.take_take, Nat.min_eq_left narrow]

theorem window_take (buffer : List α) {start width held : Nat} (inside : start + width ≤ held) :
    window (buffer.take held) start width = window buffer start width := by
  rw [window, window, List.drop_take, List.take_take, Nat.min_eq_left (by omega)]

theorem pieces_succ (count stride : Nat) (buffer : List α) :
    Tensor.pieces (count + 1) stride buffer =
      buffer.take stride :: Tensor.pieces count stride (buffer.drop stride) := by
  rw [Tensor.pieces, List.splitAt_eq]

/-- Buffers that agree inside a window have the same window. -/
theorem window_congr {buffer other : List α} {start width : Nat}
    (agree : ∀ index, start ≤ index → index < start + width → buffer[index]? = other[index]?) :
    window buffer start width = window other start width := by
  apply List.ext_getElem?
  intro index
  rw [window, window, List.getElem?_take, List.getElem?_take]
  by_cases inside : index < width
  · rw [if_pos inside, if_pos inside, List.getElem?_drop, List.getElem?_drop]
    exact agree _ (by omega) (by omega)
  · rw [if_neg inside, if_neg inside]

theorem pieces_eq_map (count stride : Nat) (buffer : List α) :
    Tensor.pieces count stride buffer =
      (List.range count).map fun index => window buffer (index * stride) stride := by
  induction count generalizing buffer with
  | zero => rfl
  | succ count ih =>
      rw [pieces_succ, ih, List.range_succ_eq_map, List.map_cons, List.map_map]
      congr 1
      · rw [window, Nat.zero_mul, List.drop_zero]
      · apply List.map_congr_left
        intro index _
        rw [Function.comp_apply, window, window, List.drop_drop, Nat.succ_mul, Nat.add_comm]

theorem pieces_append (count others stride : Nat) {first : List α} (rest : List α)
    (whole : first.length = count * stride) :
    Tensor.pieces (count + others) stride (first ++ rest) =
      Tensor.pieces count stride first ++ Tensor.pieces others stride rest := by
  induction count generalizing first with
  | zero =>
      rw [Nat.zero_mul, List.length_eq_zero_iff] at whole
      rw [whole, Nat.zero_add]
      rfl
  | succ count ih =>
      rw [Nat.succ_mul] at whole
      have enough : stride ≤ first.length := by omega
      rw [Nat.succ_add, pieces_succ, pieces_succ, List.take_append_of_le_length enough,
        List.drop_append_of_le_length enough, ih (by rw [List.length_drop]; omega),
        List.cons_append]

/-- Rows of records that are put together are cut into the records of each row. -/
theorem pieces_flatten (width stride : Nat) {rows : List (List α)}
    (whole : ∀ row ∈ rows, row.length = width * stride) :
    Tensor.pieces (rows.length * width) stride rows.flatten =
      rows.flatMap (Tensor.pieces width stride) := by
  induction rows with
  | nil =>
      rw [List.length_nil, Nat.zero_mul]
      rfl
  | cons row rest ih =>
      rw [List.forall_mem_cons] at whole
      rw [List.length_cons, Nat.succ_mul, Nat.add_comm, List.flatten_cons,
        pieces_append _ _ _ _ whole.1, ih whole.2, List.flatMap_cons]

theorem window_map_range {count start width : Nat} (inside : start + width ≤ count)
    (element : Nat → α) :
    window ((List.range count).map element) start width =
      (List.range width).map fun index => element (start + index) := by
  apply List.ext_getElem?
  intro index
  rw [window, List.getElem?_take, List.getElem?_map]
  by_cases within : index < width
  · rw [if_pos within, List.getElem?_drop, List.getElem?_map,
      List.getElem?_range (by omega), List.getElem?_range within]
    rfl
  · rw [if_neg within, List.getElem?_eq_none (by rw [List.length_range]; omega)]
    rfl

/-- A row of a buffer of rows of one length is a window, whatever follows the rows. -/
theorem window_flatten {width : Nat} {rows : List (List α)}
    (whole : ∀ row ∈ rows, row.length = width) (rest : List α) {index : Nat} {row : List α}
    (found : rows[index]? = some row) :
    window (rows.flatten ++ rest) (index * width) width = row := by
  induction rows generalizing index with
  | nil => cases found
  | cons first others ih =>
      rw [List.forall_mem_cons] at whole
      cases index with
      | zero =>
          obtain rfl : first = row := Option.some.inj found
          rw [window, Nat.zero_mul, List.drop_zero, List.flatten_cons, List.append_assoc,
            ← whole.1, List.take_left]
      | succ index =>
          rw [← ih whole.2 found, window, window, Nat.succ_mul, Nat.add_comm, ← List.drop_drop,
            List.flatten_cons, List.append_assoc, ← whole.1, List.drop_left]

/-- A buffer with other bytes from a start on. -/
def overwrite (buffer : List α) (start : Nat) (bytes : List α) : List α :=
  buffer.mapIdx fun index byte =>
    if start ≤ index then bytes[index - start]?.getD byte else byte

@[simp]
theorem length_overwrite (buffer : List α) (start : Nat) (bytes : List α) :
    (overwrite buffer start bytes).length = buffer.length := by
  rw [overwrite, List.length_mapIdx]

theorem window_overwrite_of_apart {buffer bytes : List α} {start other width : Nat}
    (apart : start + bytes.length ≤ other ∨ other + width ≤ start) :
    window (overwrite buffer start bytes) other width = window buffer other width := by
  refine window_congr fun index above below => ?_
  rw [overwrite, List.getElem?_mapIdx]
  by_cases before : start ≤ index
  · have beyond : bytes[index - start]? = none := List.getElem?_eq_none (by omega)
    simp only [before, beyond]
    exact Option.map_id_apply
  · simp only [before]
    exact Option.map_id_apply

theorem window_overwrite {buffer bytes : List α} {start : Nat}
    (inside : start + bytes.length ≤ buffer.length) :
    window (overwrite buffer start bytes) start bytes.length = bytes := by
  apply List.ext_getElem?
  intro index
  rw [window, List.getElem?_take]
  by_cases within : index < bytes.length
  · rw [if_pos within, List.getElem?_drop, overwrite, List.getElem?_mapIdx,
      List.getElem?_eq_getElem (by omega : start + index < buffer.length), Option.map_some,
      if_pos (Nat.le_add_right start index), Nat.add_sub_cancel_left,
      List.getElem?_eq_getElem within, Option.getD_some]
  · rw [if_neg within, List.getElem?_eq_none (Nat.le_of_not_lt within)]

end MapIngest.Sensor
