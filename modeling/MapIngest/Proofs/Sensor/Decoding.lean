import MapIngest.Proofs.Sensor.Cloud
import MapIngest.Proofs.Sensor.Single
import MapIngest.Proofs.Sensor.Window

/-!
# What is decoded from a cloud

A message of a cloud is decoded exactly if the three axes are known and the cloud is
empty or its buffer holds every row and its records every axis; otherwise it is
refused.  What is decoded are the points of the grid in row-major order without those
that are not finite.  A coordinate is the number whose bytes stand at the offset of its
axis in its record, and no other byte of the buffer has an influence.
-/

namespace MapIngest.Sensor

open MapIngest.Geometry MapIngest.Decimal

/-- The exact value that the bits of a number stand for, if it is finite. -/
def NumberFormat.exactValue? : NumberFormat → (bits : Nat) → Option Scaled
  | .single, bits => Decimal.exactValue? 8 23 bits
  | .double, bits => Decimal.exactValue? 11 52 bits

namespace Cloud

/-- Where a record starts in the buffer. -/
def start (cloud : Cloud) (row column : Nat) : Nat :=
  row * cloud.rowStep + column * cloud.pointStep

/-- The bits of the number that stands in a slot of a record. -/
def bits (cloud : Cloud) (slot : Slot) (row column : Nat) : Nat :=
  cloud.order.number
    (window cloud.data (cloud.start row column + slot.offset) slot.format.width)

/-- The double that the number in a slot of a record is. -/
def coordinate (cloud : Cloud) (slot : Slot) (row column : Nat) : Float :=
  slot.format.value (cloud.bits slot row column)

def point (cloud : Cloud) (axes : Vec3 Slot) (row column : Nat) : Vec3 Float :=
  axes.map fun slot => cloud.coordinate slot row column

/-- The points of the grid, row by row. -/
def points (cloud : Cloud) (axes : Vec3 Slot) : List (Vec3 Float) :=
  (List.range cloud.height).flatMap fun row =>
    (List.range cloud.width).map fun column => cloud.point axes row column

/-- The cloud is empty, or the buffer holds every row and a record holds the axes. -/
def Holds (cloud : Cloud) (axes : Vec3 Slot) : Prop :=
  cloud.width * cloud.height = 0 ∨
    cloud.width * cloud.pointStep ≤ cloud.rowStep ∧
      cloud.rowStep * cloud.height ≤ cloud.data.length ∧
      ∀ slot ∈ axes.toList, slot.stop ≤ cloud.pointStep

/-- A byte of the buffer is one of a coordinate. -/
def Reads (cloud : Cloud) (axes : Vec3 Slot) (index : Nat) : Prop :=
  ∃ row < cloud.height, ∃ column < cloud.width, ∃ slot ∈ axes.toList,
    cloud.start row column + slot.offset ≤ index ∧
      index < cloud.start row column + slot.stop

end Cloud

/-! ## Sizes -/

variable {cloud : Cloud} {axes : Vec3 Slot}

theorem needed_le_iff {size : Nat} :
    RecordLayout.needed axes ≤ size ↔ ∀ slot ∈ axes.toList, slot.stop ≤ size := by
  simp [RecordLayout.needed, Vec3.toList]

theorem count_eq : cloud.extent.count = (cloud.width * cloud.height : Nat) := rfl

theorem leadingCount_natCast (limit size : Nat) : leadingCount limit size = min limit size := by
  rw [leadingCount, if_pos (Int.natCast_nonneg limit), Int.toNat_natCast]

theorem checkRow_eq :
    cloud.extent.checkRow =
      if cloud.rowStep < cloud.width * cloud.pointStep then
        .error (.cloudRow cloud.rowStep (cloud.width * cloud.pointStep))
      else .ok () := by
  simp only [CloudExtent.checkRow, Cloud.extent]
  norm_cast

theorem checkBuffer_eq :
    cloud.extent.checkBuffer cloud.data =
      if cloud.data.length < cloud.rowStep * cloud.height then
        .error (.cloudBuffer cloud.data.length (cloud.rowStep * cloud.height))
      else .ok () := by
  simp only [CloudExtent.checkBuffer, Cloud.extent]
  norm_cast

theorem checkRecordSize_eq (needed : Nat) {size : Nat} (fits : size < 2 ^ 63) :
    checkRecordSize needed size =
      if size < needed then Value.refuse (.recordSize needed size) else .ok size := by
  rw [checkRecordSize, fitsWord_of_lt fits, if_neg (by decide), Int.toNat_natCast]
  norm_cast

theorem tableExtent_natCast {rows columns : Nat} (fewRows : rows < 2 ^ 63)
    (fewColumns : columns < 2 ^ 63) :
    tableExtent (rows * columns) rows columns = .ok (rows, columns) := by
  rw [tableExtent, fitsWord_of_lt fewRows, fitsWord_of_lt fewColumns, if_neg (by decide),
    if_neg (by omega), if_neg (by omega), Int.toNat_natCast, Int.toNat_natCast, if_pos rfl]

theorem elementCount_natCast {width held count : Nat} (few : count < 2 ^ 63)
    (enough : count * width ≤ held) : elementCount width held count = .ok count := by
  rw [elementCount, fitsWord_of_lt few, if_neg (by decide), if_neg (by omega),
    Int.toNat_natCast, if_neg (Nat.not_lt.mpr enough)]

theorem pointStep_lt (filled : cloud.width * cloud.height ≠ 0)
    (narrow : cloud.width * cloud.pointStep ≤ cloud.rowStep)
    (buffer : cloud.rowStep * cloud.height ≤ cloud.data.length) : cloud.pointStep < 2 ^ 63 := by
  rcases Nat.mul_ne_zero_iff.mp filled with ⟨wide, high⟩
  refine Nat.lt_of_le_of_lt ?_ cloud.held
  calc
    cloud.pointStep ≤ cloud.width * cloud.pointStep :=
      Nat.le_mul_of_pos_left _ (Nat.pos_of_ne_zero wide)
    _ ≤ cloud.rowStep := narrow
    _ ≤ cloud.rowStep * cloud.height := Nat.le_mul_of_pos_right _ (Nat.pos_of_ne_zero high)
    _ ≤ cloud.data.length := buffer

/-- The other sizes are bounded by the buffer too, since a record takes some bytes. -/
theorem sizes_lt (filled : cloud.width * cloud.height ≠ 0)
    (narrow : cloud.width * cloud.pointStep ≤ cloud.rowStep)
    (buffer : cloud.rowStep * cloud.height ≤ cloud.data.length) (some : 0 < cloud.pointStep) :
    cloud.rowStep < 2 ^ 63 ∧ cloud.height < 2 ^ 63 ∧ cloud.width * cloud.height < 2 ^ 63 := by
  rcases Nat.mul_ne_zero_iff.mp filled with ⟨wide, high⟩
  have bound : cloud.rowStep * cloud.height < 2 ^ 63 := Nat.lt_of_le_of_lt buffer cloud.held
  have width : cloud.width ≤ cloud.rowStep :=
    Nat.le_trans (Nat.le_mul_of_pos_right _ some) narrow
  have columns : 0 < cloud.rowStep := Nat.lt_of_lt_of_le (Nat.pos_of_ne_zero wide) width
  refine ⟨?_, ?_, ?_⟩
  · exact Nat.lt_of_le_of_lt (Nat.le_mul_of_pos_right _ (Nat.pos_of_ne_zero high)) bound
  · exact Nat.lt_of_le_of_lt (Nat.le_mul_of_pos_left _ columns) bound
  · exact Nat.lt_of_le_of_lt (Nat.mul_le_mul_right _ width) bound

/-! ## Refusals -/

/-- A cloud is read only if it is empty or the offsets of its axes fit into machine words. -/
theorem offset_lt_of_readAxes {points : List (Vec3 Float)}
    (returned : readAxes cloud axes = .ok points) (filled : cloud.width * cloud.height ≠ 0) :
    ∀ slot ∈ axes.toList, slot.offset < 2 ^ 63 := by
  rw [readAxes, count_eq, if_neg (mod_cast filled)] at returned
  obtain ⟨_, -, returned⟩ := bind_eq_ok.mp returned
  obtain ⟨_, -, returned⟩ := bind_eq_ok.mp returned
  obtain ⟨_, x, returned⟩ := bind_eq_ok.mp returned
  obtain ⟨_, y, returned⟩ := bind_eq_ok.mp returned
  obtain ⟨_, z, -⟩ := bind_eq_ok.mp returned
  simp only [Vec3.toList, List.forall_mem_cons]
  exact ⟨lt_of_readOffset x, lt_of_readOffset y, lt_of_readOffset z, by simp⟩

theorem readAxes_refused (small : ∀ slot ∈ axes.toList, slot.offset < 2 ^ 63)
    (lacks : ¬ cloud.Holds axes) : Refused (readAxes cloud axes) := by
  rw [Cloud.Holds, not_or] at lacks
  rcases lacks with ⟨filled, lacks⟩
  simp only [Vec3.toList, List.forall_mem_cons] at small
  rw [readAxes, count_eq, if_neg (mod_cast filled), checkRow_eq]
  by_cases rows : cloud.rowStep < cloud.width * cloud.pointStep
  · rw [if_pos rows]
    exact Refused.bind ⟨_, rfl, rfl⟩ _
  · rw [if_neg rows, ok_bind, checkBuffer_eq]
    by_cases buffer : cloud.data.length < cloud.rowStep * cloud.height
    · rw [if_pos buffer]
      exact Refused.bind ⟨_, rfl, rfl⟩ _
    · have short : cloud.pointStep < RecordLayout.needed axes := by
        rw [← Nat.not_le, needed_le_iff]
        exact fun record => lacks ⟨Nat.le_of_not_lt rows, Nat.le_of_not_lt buffer, record⟩
      have size : checkRecordSize (RecordLayout.needed axes) cloud.extent.pointStep = _ :=
        checkRecordSize_eq _
          (pointStep_lt filled (Nat.le_of_not_lt rows) (Nat.le_of_not_lt buffer))
      rw [if_neg buffer, ok_bind, readOffset_of_lt small.1, ok_bind, readOffset_of_lt small.2.1,
        ok_bind, readOffset_of_lt small.2.2.1, ok_bind, readRecords, size, if_pos short]
      exact Refused.bind ⟨_, rfl, rfl⟩ _

theorem holds_of_readAxes {points : List (Vec3 Float)}
    (returned : readAxes cloud axes = .ok points) : cloud.Holds axes := by
  by_contra lacks
  have filled : cloud.width * cloud.height ≠ 0 := fun empty => lacks (Or.inl empty)
  obtain ⟨fault, failed, -⟩ := readAxes_refused (offset_lt_of_readAxes returned filled) lacks
  rw [failed] at returned
  cases returned

/-! ## Reading the buffer -/

theorem row_stop_le {row : Nat} (inside : row < cloud.height) :
    row * cloud.rowStep + cloud.rowStep ≤ cloud.rowStep * cloud.height := by
  rw [← Nat.succ_mul, Nat.mul_comm cloud.rowStep]
  exact Nat.mul_le_mul_right _ inside

/-- The rows of records that stand in the buffer, without their padding. -/
def rows (cloud : Cloud) : List (List UInt8) :=
  (List.range cloud.height).map fun row =>
    window cloud.data (row * cloud.rowStep) (cloud.width * cloud.pointStep)

theorem packed_eq (narrow : cloud.width * cloud.pointStep ≤ cloud.rowStep)
    (buffer : cloud.rowStep * cloud.height ≤ cloud.data.length)
    (fewRows : cloud.height < 2 ^ 63) (fewColumns : cloud.rowStep < 2 ^ 63) :
    cloud.extent.packed cloud.data = .ok (rows cloud).flatten := by
  have held : leadingCount (cloud.extent.rowStep * cloud.extent.height) cloud.data.length =
      cloud.rowStep * cloud.height :=
    (leadingCount_natCast (cloud.rowStep * cloud.height) _).trans (Nat.min_eq_left buffer)
  have used : leadingCount (cloud.extent.width * cloud.extent.pointStep) cloud.rowStep =
      cloud.width * cloud.pointStep :=
    (leadingCount_natCast (cloud.width * cloud.pointStep) _).trans (Nat.min_eq_left narrow)
  have length : (cloud.data.take (cloud.rowStep * cloud.height)).length =
      cloud.height * cloud.rowStep := by
    rw [List.length_take, Nat.min_eq_left buffer, Nat.mul_comm]
  have table : tableExtent (cloud.height * cloud.rowStep) cloud.extent.height
      cloud.extent.rowStep = .ok (cloud.height, cloud.rowStep) :=
    tableExtent_natCast fewRows fewColumns
  simp only [CloudExtent.packed]
  rw [held, length, table, ok_bind]
  simp only [used]
  rw [pieces_eq_map, List.flatMap_map]
  refine congrArg Except.ok ?_
  rw [rows, ← List.flatMap_def]
  refine List.flatMap_congr fun row member => ?_
  rw [window_take _ (row_stop_le (List.mem_range.mp member)), take_window _ _ narrow]

/-- The point that is read out of a record is the one at its place in the grid. -/
theorem point_window {size : Nat} (record : ∀ slot ∈ axes.toList, slot.stop ≤ cloud.pointStep)
    (row : Nat) {column : Nat} (inside : column < cloud.width) :
    RecordLayout.point ⟨cloud.order, axes, size⟩
        (window (window cloud.data (row * cloud.rowStep) (cloud.width * cloud.pointStep))
          (column * cloud.pointStep) cloud.pointStep) =
      cloud.point axes row column := by
  have fits : column * cloud.pointStep + cloud.pointStep ≤ cloud.width * cloud.pointStep := by
    rw [← Nat.succ_mul]
    exact Nat.mul_le_mul_right _ inside
  have slots : ∀ slot ∈ axes.toList,
      slot.read cloud.order (window (window cloud.data (row * cloud.rowStep)
        (cloud.width * cloud.pointStep)) (column * cloud.pointStep) cloud.pointStep) =
        cloud.coordinate slot row column := by
    intro slot member
    have stop := record slot member
    rw [Slot.stop] at stop
    rw [window_window _ _ _ fits, Slot.read, ← window, window_window _ _ _ stop]
    rfl
  simp only [Vec3.toList, List.forall_mem_cons] at slots
  rw [RecordLayout.point, Vec3.map, slots.1, slots.2.1, slots.2.2.1]
  rfl

theorem length_of_mem_rows (narrow : cloud.width * cloud.pointStep ≤ cloud.rowStep)
    (buffer : cloud.rowStep * cloud.height ≤ cloud.data.length) :
    ∀ row ∈ rows cloud, row.length = cloud.width * cloud.pointStep := by
  intro held member
  rcases List.mem_map.mp member with ⟨row, inside, rfl⟩
  have stop := @row_stop_le cloud row (List.mem_range.mp inside)
  exact length_window (by omega)

theorem length_rows_flatten (narrow : cloud.width * cloud.pointStep ≤ cloud.rowStep)
    (buffer : cloud.rowStep * cloud.height ≤ cloud.data.length) :
    (rows cloud).flatten.length = cloud.width * cloud.height * cloud.pointStep := by
  rw [List.length_flatten, List.map_congr_left (length_of_mem_rows narrow buffer),
    List.map_const', List.sum_replicate_nat, rows, List.length_map, List.length_range,
    ← Nat.mul_assoc, Nat.mul_comm cloud.height]

theorem map_point_pieces (narrow : cloud.width * cloud.pointStep ≤ cloud.rowStep)
    (buffer : cloud.rowStep * cloud.height ≤ cloud.data.length)
    (record : ∀ slot ∈ axes.toList, slot.stop ≤ cloud.pointStep) (size : Nat) :
    (Tensor.pieces (cloud.width * cloud.height) cloud.pointStep (rows cloud).flatten).map
        (RecordLayout.point ⟨cloud.order, axes, size⟩) = cloud.points axes := by
  have count : cloud.width * cloud.height = (rows cloud).length * cloud.width := by
    rw [rows, List.length_map, List.length_range, Nat.mul_comm]
  rw [count, pieces_flatten _ _ (length_of_mem_rows narrow buffer), List.map_flatMap, rows,
    List.flatMap_map, Cloud.points]
  refine List.flatMap_congr fun row _ => ?_
  rw [pieces_eq_map, List.map_map]
  refine List.map_congr_left fun column inside => ?_
  exact point_window record row (List.mem_range.mp inside)

theorem readAxes_of_holds (holds : cloud.Holds axes) :
    readAxes cloud axes = .ok ((cloud.points axes).filter Vec3.isFinite) := by
  by_cases empty : cloud.width * cloud.height = 0
  · have none : cloud.points axes = [] := by
      rcases Nat.mul_eq_zero.mp empty with narrow | low
      · simp [Cloud.points, narrow]
      · simp [Cloud.points, low]
    rw [readAxes, count_eq, if_pos (mod_cast empty), none]
    rfl
  · rcases holds with zero | ⟨narrow, buffer, record⟩
    · exact (empty zero).elim
    have needed := needed_le_iff.mpr record
    have some : 0 < cloud.pointStep := by
      have stop := record axes.x List.mem_cons_self
      have positive : 0 < axes.x.format.width := by cases axes.x.format <;> decide
      rw [Slot.stop] at stop
      omega
    rcases sizes_lt empty narrow buffer some with ⟨rowStep, height, count⟩
    have small : ∀ slot ∈ axes.toList, slot.offset < 2 ^ 63 := by
      intro slot member
      have stop := record slot member
      have bound := pointStep_lt empty narrow buffer
      rw [Slot.stop] at stop
      omega
    simp only [Vec3.toList, List.forall_mem_cons] at small
    have size : checkRecordSize (RecordLayout.needed axes) cloud.extent.pointStep = _ :=
      checkRecordSize_eq _ (pointStep_lt empty narrow buffer)
    have records : elementCount cloud.pointStep (rows cloud).flatten.length cloud.extent.count =
        .ok (cloud.width * cloud.height) :=
      elementCount_natCast count (Nat.le_of_eq (length_rows_flatten narrow buffer).symm)
    rw [readAxes, count_eq, if_neg (mod_cast empty), checkRow_eq, if_neg (Nat.not_lt.mpr narrow),
      ok_bind, checkBuffer_eq, if_neg (Nat.not_lt.mpr buffer), ok_bind,
      readOffset_of_lt small.1, ok_bind, readOffset_of_lt small.2.1, ok_bind,
      readOffset_of_lt small.2.2.1, ok_bind, readRecords, size,
      if_neg (Nat.not_lt.mpr needed), ok_bind, packed_eq narrow buffer height rowStep, ok_bind,
      records, ok_bind, map_point_pieces narrow buffer record]
    rfl

/-! ## Coordinates and their bytes -/

theorem ofLittle_lt (bytes : List UInt8) : ofLittle bytes < 256 ^ bytes.length := by
  induction bytes with
  | nil => decide
  | cons byte rest ih =>
      have small := byte.toNat_lt
      rw [ofLittle, List.length_cons, Nat.pow_succ]
      omega

theorem ByteOrder.number_lt (order : ByteOrder) (bytes : List UInt8) :
    order.number bytes < 256 ^ bytes.length := by
  rw [number, ← length_arrange order bytes]
  exact ofLittle_lt _

theorem bits_lt (cloud : Cloud) (slot : Slot) (row column : Nat) :
    cloud.bits slot row column < 256 ^ slot.format.width := by
  refine Nat.lt_of_lt_of_le (ByteOrder.number_lt _ _) (Nat.pow_le_pow_right (by decide) ?_)
  rw [window, List.length_take]
  exact Nat.min_le_left _ _

theorem value_exact (format : NumberFormat) {bits : Nat} (fits : bits < 256 ^ format.width) :
    Option.Rel Scaled.Same (format.exactValue? bits) (scaled? (format.value bits)) := by
  cases format with
  | single => exact widen_exact bits
  | double =>
      have same : scaled? (Float.ofBits (UInt64.ofNat bits)) = Decimal.exactValue? 11 52 bits :=
        scaled?_ofBits fits
      rw [NumberFormat.exactValue?, NumberFormat.value, same]
      cases Decimal.exactValue? 11 52 bits with
      | none => exact .none
      | some number => exact .some (Scaled.same_refl number)

theorem coordinate_exact (cloud : Cloud) (slot : Slot) (row column : Nat) :
    Option.Rel Scaled.Same (slot.format.exactValue? (cloud.bits slot row column))
      (scaled? (cloud.coordinate slot row column)) :=
  value_exact slot.format (bits_lt cloud slot row column)

theorem isFinite_coordinate (cloud : Cloud) (slot : Slot) (row column : Nat) :
    (cloud.coordinate slot row column).isFinite =
      (slot.format.exactValue? (cloud.bits slot row column)).isSome := by
  have exact := coordinate_exact cloud slot row column
  rw [isFinite_eq_isSome]
  generalize slot.format.exactValue? _ = left at exact
  generalize scaled? _ = right at exact
  cases exact <;> rfl

namespace Cloud

/-- The same cloud in another buffer. -/
def withData (cloud : Cloud) (data : List UInt8) (held : data.length < 2 ^ 63) : Cloud :=
  { cloud with data := data, held := held }

end Cloud

/-- Buffers that agree on the bytes of the coordinates hold the same points. -/
theorem points_withData {data : List UInt8} (held : data.length < 2 ^ 63)
    (agree : ∀ index, cloud.Reads axes index → data[index]? = cloud.data[index]?) :
    (cloud.withData data held).points axes = cloud.points axes := by
  refine List.flatMap_congr fun row low => ?_
  refine List.map_congr_left fun column narrow => ?_
  have slots : ∀ slot ∈ axes.toList,
      (cloud.withData data held).coordinate slot row column =
        cloud.coordinate slot row column := by
    intro slot member
    have same : window data (cloud.start row column + slot.offset) slot.format.width =
        window cloud.data (cloud.start row column + slot.offset) slot.format.width := by
      refine window_congr fun index above below => agree index ?_
      exact ⟨row, List.mem_range.mp low, column, List.mem_range.mp narrow, slot, member, above, by
        rwa [Slot.stop, ← Nat.add_assoc]⟩
    exact congrArg (fun bytes => slot.format.value (cloud.order.number bytes)) same
  simp only [Vec3.toList, List.forall_mem_cons] at slots
  rw [Cloud.point, Cloud.point, Vec3.map, Vec3.map, slots.1, slots.2.1, slots.2.2.1]

/-! ## Messages -/

theorem exists_field_of_slot? {name : String} {slot : Slot} (found : cloud.slot? name = some slot) :
    ∃ field ∈ cloud.fields, slot.offset = field.offset := by
  rcases Option.bind_eq_some_iff.mp found with ⟨field, last, known⟩
  rcases Option.map_eq_some_iff.mp known with ⟨format, -, rfl⟩
  exact ⟨field, List.mem_reverse.mp (List.mem_of_find?_eq_some last), rfl⟩

theorem offset_lt_of_axes? (small : ∀ field ∈ cloud.fields, field.offset < 2 ^ 63)
    (known : cloud.axes? = some axes) : ∀ slot ∈ axes.toList, slot.offset < 2 ^ 63 := by
  rcases axes?_eq_some_iff.mp known with ⟨x, y, z⟩
  have below : ∀ name slot, cloud.slot? name = some slot → slot.offset < 2 ^ 63 := by
    intro name slot found
    rcases exists_field_of_slot? found with ⟨field, member, same⟩
    rw [same]
    exact small field member
  simp only [Vec3.toList, List.forall_mem_cons]
  exact ⟨below _ _ x, below _ _ y, below _ _ z, by simp⟩

section Messages

variable {message : Value}

/-- A message is decoded if the axes are known and the buffer holds the cloud. -/
theorem readCloud_of_holds (sent : cloud.SentAs message) (known : cloud.axes? = some axes)
    (holds : cloud.Holds axes) :
    readCloud message = .ok ((cloud.points axes).filter Vec3.isFinite) := by
  rw [readCloud_of_axes sent known]
  exact readAxes_of_holds holds

/-- No other message is decoded. -/
theorem holds_of_readCloud (sent : cloud.SentAs message) {points : List (Vec3 Float)}
    (returned : readCloud message = .ok points) :
    ∃ axes, cloud.axes? = some axes ∧ cloud.Holds axes := by
  cases known : cloud.axes? with
  | none =>
      obtain ⟨fault, failed, -⟩ := readCloud_refused sent known
      rw [failed] at returned
      cases returned
  | some axes =>
      rw [readCloud_of_axes sent known] at returned
      exact ⟨axes, rfl, holds_of_readAxes returned⟩

/-- A message that is not decoded has a wrong value, unless an offset is too large. -/
theorem kind_of_readCloud (sent : cloud.SentAs message)
    (small : ∀ field ∈ cloud.fields, field.offset < 2 ^ 63) {fault : Fault}
    (failed : readCloud message = .error fault) : fault.kind = .value := by
  have refused : Refused (readCloud message) := by
    cases known : cloud.axes? with
    | none => exact readCloud_refused sent known
    | some axes =>
        rw [readCloud_of_axes sent known]
        refine readAxes_refused (offset_lt_of_axes? small known) fun holds => ?_
        rw [readCloud_of_holds sent known holds] at failed
        cases failed
  obtain ⟨other, same, kind⟩ := refused
  rw [failed, Except.error.injEq] at same
  rw [same]
  exact kind

/--
A message of a cloud is decoded exactly if the axes are known and the buffer holds the
cloud; any other is refused as a wrong value if the offsets are machine words.  What is
decoded are the points of the grid that are finite, in row-major order.  Every coordinate
has the exact value of its bits and is finite if they stand for one, and any buffer with
the same bytes at the coordinates gives the same points.
-/
theorem readCloud_decodes (sent : cloud.SentAs message) :
    ((∀ field ∈ cloud.fields, field.offset < 2 ^ 63) →
      ∀ fault, readCloud message = .error fault → fault.kind = .value) ∧
    ((∃ points, readCloud message = .ok points) ↔
      ∃ axes, cloud.axes? = some axes ∧ cloud.Holds axes) ∧
    ∀ axes, cloud.axes? = some axes → ∀ points, readCloud message = .ok points →
      points = (cloud.points axes).filter Vec3.isFinite ∧
      (∀ slot row column,
        Option.Rel Scaled.Same (slot.format.exactValue? (cloud.bits slot row column))
            (scaled? (cloud.coordinate slot row column)) ∧
          (cloud.coordinate slot row column).isFinite =
            (slot.format.exactValue? (cloud.bits slot row column)).isSome) ∧
      ∀ data held other, (cloud.withData data held).SentAs other →
        (cloud.withData data held).Holds axes →
        (∀ index, cloud.Reads axes index → data[index]? = cloud.data[index]?) →
          readCloud other = .ok points := by
  refine ⟨fun small _ failed => kind_of_readCloud sent small failed, ⟨?_, ?_⟩, ?_⟩
  · rintro ⟨points, returned⟩
    exact holds_of_readCloud sent returned
  · rintro ⟨axes, known, holds⟩
    exact ⟨_, readCloud_of_holds sent known holds⟩
  · intro axes known points returned
    obtain ⟨others, same, holds⟩ := holds_of_readCloud sent returned
    obtain rfl : axes = others := Option.some.inj (known.symm.trans same)
    have decoded := readCloud_of_holds sent known holds
    rw [decoded, Except.ok.injEq] at returned
    refine ⟨returned.symm, fun slot row column =>
      ⟨coordinate_exact cloud slot row column, isFinite_coordinate cloud slot row column⟩, ?_⟩
    intro data held other sentOther holdsOther agree
    rw [readCloud_of_holds sentOther known holdsOther, points_withData held agree, returned]

end Messages

/-- Two points in one padded row; the first of two fields for x does not count. -/
def paddedCloud : Cloud where
  fields := [⟨"x", 0, .int 7⟩, ⟨"z", 0, .int 7⟩, ⟨"y", 4, .int 7⟩, ⟨"intensity", 16, .int 2⟩,
    ⟨"x", 8, .int 8⟩]
  order := .big
  width := 2
  height := 1
  pointStep := 17
  rowStep := 36
  data :=
    [0x40, 0x40, 0, 0, 0x40, 0, 0, 0, 0x3F, 0xF0, 0, 0, 0, 0, 0, 0, 0xFF,
      0x7F, 0xC0, 0, 0, 0x40, 0, 0, 0, 0x3F, 0xF0, 0, 0, 0, 0, 0, 0, 0xFF, 0xAB, 0xAB, 0xAB]
  held := by decide

theorem padded_cloud_decoded : readCloud paddedCloud.message = .ok [⟨1.0, 2.0, 3.0⟩] := by
  have known : paddedCloud.axes? = some ⟨⟨8, .double⟩, ⟨4, .single⟩, ⟨0, .single⟩⟩ := by decide
  obtain ⟨-, ⟨-, returns⟩, decoded⟩ := readCloud_decodes paddedCloud.sentAs_message
  obtain ⟨points, returned⟩ := returns ⟨_, known, Or.inr (by decide)⟩
  rw [returned, (decoded _ known points returned).1]
  decide +kernel

/-- A cloud of one point whose x stands too far for a machine word. -/
def farCloud : Cloud where
  fields := [⟨"x", 2 ^ 63, .int 7⟩, ⟨"y", 4, .int 7⟩, ⟨"z", 8, .int 7⟩]
  order := .little
  width := 1
  height := 1
  pointStep := 12
  rowStep := 12
  data := List.replicate 12 0
  held := by decide

theorem far_offset_overflows :
    ¬ ∀ (cloud : Cloud) (message : Value), cloud.SentAs message →
      (∃ points, readCloud message = .ok points) ∨
        ∃ fault, readCloud message = .error fault ∧ fault.kind = .value := by
  have failed : readCloud farCloud.message = .error (.conversion .layoutOverflow) := by
    decide +kernel
  intro settled
  rcases settled farCloud _ farCloud.sentAs_message with ⟨points, returned⟩ | ⟨fault, same, kind⟩
  · rw [failed] at returned
    cases returned
  · rw [failed, Except.error.injEq] at same
    rw [← same] at kind
    cases kind

end MapIngest.Sensor
