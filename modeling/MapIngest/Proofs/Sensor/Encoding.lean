import Mathlib.Data.List.Induction
import Mathlib.Data.List.Pairwise
import MapIngest.Proofs.Sensor.Decoding

/-!
# Writing points into a cloud

The points of a grid are written into the buffer of a cloud coordinate by coordinate:
the bytes of each coordinate go to the offset of its axis in its record, and all other
bytes stay as they are.  If the axes stand apart inside a record and the records inside
a row, no coordinate overwrites another one.  Decoding then gives back the finite points
of the grid, whatever stands around them, so that all layouts of the same points are
decoded alike.
-/

namespace MapIngest.Sensor

open MapIngest.Geometry MapIngest.Decimal

/-! ## Placements -/

/-- Bytes and the place in a buffer that they are written to. -/
structure Placement where
  start : Nat
  bytes : List UInt8

namespace Placement

def stop (placement : Placement) : Nat :=
  placement.start + placement.bytes.length

/-- Two placements have no byte in common. -/
def Apart (first second : Placement) : Prop :=
  first.stop ≤ second.start ∨ second.stop ≤ first.start

instance : Std.Symm Apart := ⟨fun _ _ => Or.symm⟩

def write (buffer : List UInt8) (placement : Placement) : List UInt8 :=
  overwrite buffer placement.start placement.bytes

end Placement

/-- Write the bytes of all placements, one after the other. -/
def writeAll (buffer : List UInt8) (placements : List Placement) : List UInt8 :=
  placements.foldl Placement.write buffer

@[simp]
theorem length_writeAll (buffer : List UInt8) (placements : List Placement) :
    (writeAll buffer placements).length = buffer.length := by
  induction placements generalizing buffer with
  | nil => rfl
  | cons placement rest ih => exact (ih _).trans (length_overwrite ..)

theorem writeAll_append_singleton (buffer : List UInt8) (placements : List Placement)
    (last : Placement) :
    writeAll buffer (placements ++ [last]) =
      overwrite (writeAll buffer placements) last.start last.bytes := by
  rw [writeAll, List.foldl_append]
  rfl

/-- The bytes of every placement stand at its place, if no two placements meet. -/
theorem window_writeAll {buffer : List UInt8} {placements : List Placement}
    (inside : ∀ placement ∈ placements, placement.stop ≤ buffer.length)
    (apart : ∀ first ∈ placements, ∀ second ∈ placements, first ≠ second → first.Apart second)
    {placement : Placement} (member : placement ∈ placements) :
    window (writeAll buffer placements) placement.start placement.bytes.length =
      placement.bytes := by
  -- The induction takes off what is written last, which leaves the other placements alone.
  induction placements using List.reverseRecOn with
  | nil => cases member
  | append_singleton earlier last ih =>
      have kept : ∀ {other}, other ∈ earlier → other ∈ earlier ++ [last] := fun before =>
        List.mem_append_left _ before
      rw [writeAll_append_singleton]
      by_cases final : placement = last
      · subst final
        apply window_overwrite
        rw [length_writeAll]
        exact inside placement member
      · have separate : placement.Apart last :=
          apart placement member last (List.mem_append_right _ (List.mem_singleton_self _)) final
        have before : placement ∈ earlier :=
          (List.mem_append.mp member).resolve_right fun same => final (List.mem_singleton.mp same)
        rw [window_overwrite_of_apart separate.symm]
        exact ih (fun other there => inside other (kept there))
          (fun first there second there' => apart first (kept there) second (kept there')) before

/-! ## Coordinates -/

/-- The bits of a double in a format. -/
def NumberFormat.bits : NumberFormat → Float → Nat
  | .single, x => narrow x
  | .double, x => x.toBits.toNat

/-- A double is read back from its bits in a format, if the format has the number. -/
theorem value_bits {format : NumberFormat} {x : Float} (single : format = .single → IsSingle x) :
    format.bits x < 256 ^ format.width ∧ format.value (format.bits x) = x := by
  cases format with
  | single => exact widen_narrow (single rfl)
  | double =>
      refine ⟨x.toBits.toNat_lt, ?_⟩
      rw [NumberFormat.bits, NumberFormat.value, UInt64.ofNat_toNat, Float.ofBits_toBits]

namespace Slot

/-- Where the bytes of a number go in the record with a start. -/
def place (slot : Slot) (order : ByteOrder) (start : Nat) (number : Float) : Placement :=
  ⟨start + slot.offset, order.bytes slot.format.width (slot.format.bits number)⟩

def Apart (first second : Slot) : Prop :=
  first.stop ≤ second.offset ∨ second.stop ≤ first.offset

instance : DecidableRel Apart := fun _ _ => inferInstanceAs (Decidable (_ ∨ _))

@[simp]
theorem length_bytes_place (slot : Slot) (order : ByteOrder) (start : Nat) (number : Float) :
    (slot.place order start number).bytes.length = slot.format.width :=
  ByteOrder.length_bytes ..

theorem stop_place (slot : Slot) (order : ByteOrder) (start : Nat) (number : Float) :
    (slot.place order start number).stop = start + slot.stop := by
  rw [Placement.stop, length_bytes_place, place, Slot.stop, Nat.add_assoc]

end Slot

/-- Where the bytes of the coordinates of a point go. -/
def placePoint (axes : Vec3 Slot) (order : ByteOrder) (start : Nat) (point : Vec3 Float) :
    List Placement :=
  [axes.x.place order start point.x, axes.y.place order start point.y,
    axes.z.place order start point.z]

theorem apart_placePoint {axes : Vec3 Slot} (apart : axes.toList.Pairwise Slot.Apart)
    (order : ByteOrder) (start : Nat) (point : Vec3 Float) :
    (placePoint axes order start point).Pairwise Placement.Apart := by
  have placed : ∀ {first second : Slot} {number other : Float}, first.Apart second →
      (first.place order start number).Apart (second.place order start other) := by
    intro first second number other separate
    rw [Placement.Apart, Slot.stop_place, Slot.stop_place]
    exact separate.imp (Nat.add_le_add_left · start) (Nat.add_le_add_left · start)
  simp only [Vec3.toList, List.pairwise_cons, List.forall_mem_cons] at apart
  simp only [placePoint, List.pairwise_cons, List.forall_mem_cons]
  rcases apart with ⟨⟨xy, xz, -⟩, ⟨yz, -⟩, -⟩
  exact ⟨⟨placed xy, placed xz, by simp⟩, ⟨placed yz, by simp⟩, by simp⟩

/-! ## Grids -/

namespace Cloud

/-- Where the coordinates of the points of a grid go. -/
def placements (cloud : Cloud) (axes : Vec3 Slot) (grid : List (List (Vec3 Float))) :
    List Placement :=
  grid.zipIdx.flatMap fun (points, row) =>
    points.zipIdx.flatMap fun (point, column) =>
      placePoint axes cloud.order (cloud.start row column) point

/-- The cloud with the points of a grid written into its buffer. -/
def write (cloud : Cloud) (axes : Vec3 Slot) (grid : List (List (Vec3 Float))) : Cloud :=
  cloud.withData (writeAll cloud.data (cloud.placements axes grid)) <| by
    rw [length_writeAll]
    exact cloud.held

/--
A cloud has room for the points of a grid: the axes stand apart inside a record, the
records inside a row, and the rows inside the buffer.  Nothing is asked of other fields.
-/
structure Fits (cloud : Cloud) (axes : Vec3 Slot) (grid : List (List (Vec3 Float))) : Prop where
  known : cloud.axes? = some axes
  apart : axes.toList.Pairwise Slot.Apart
  record : ∀ slot ∈ axes.toList, slot.stop ≤ cloud.pointStep
  narrow : cloud.width * cloud.pointStep ≤ cloud.rowStep
  buffer : cloud.rowStep * cloud.height ≤ cloud.data.length
  height : grid.length = cloud.height
  width : ∀ points ∈ grid, points.length = cloud.width
  /-- A coordinate that is sent in single precision is a number of single precision. -/
  single : ∀ point ∈ grid.flatten,
    (axes.x.format = .single → IsSingle point.x) ∧ (axes.y.format = .single → IsSingle point.y) ∧
      (axes.z.format = .single → IsSingle point.z)

end Cloud

section Writing

variable {cloud : Cloud} {axes : Vec3 Slot} {grid : List (List (Vec3 Float))}

theorem mem_placements_iff {placement : Placement} :
    placement ∈ cloud.placements axes grid ↔
      ∃ row points column point, grid[row]? = some points ∧ points[column]? = some point ∧
        placement ∈ placePoint axes cloud.order (cloud.start row column) point := by
  simp only [Cloud.placements, List.mem_flatMap, Prod.exists, List.mem_zipIdx_iff_getElem?]
  constructor
  · rintro ⟨points, row, low, point, column, narrow, member⟩
    exact ⟨row, points, column, point, low, narrow, member⟩
  · rintro ⟨row, points, column, point, low, narrow, member⟩
    exact ⟨points, row, low, point, column, narrow, member⟩

theorem record_le_of_column_lt (row : Nat) {column other : Nat} (before : column < other) :
    cloud.start row column + cloud.pointStep ≤ cloud.start row other := by
  rw [Cloud.start, Cloud.start, Nat.add_assoc, ← Nat.succ_mul]
  exact Nat.add_le_add_left (Nat.mul_le_mul_right _ before) _

theorem record_le_of_row_lt (narrow : cloud.width * cloud.pointStep ≤ cloud.rowStep)
    {row column below : Nat} (inside : column < cloud.width) (before : row < below)
    (other : Nat) : cloud.start row column + cloud.pointStep ≤ cloud.start below other := by
  calc
    cloud.start row column + cloud.pointStep ≤ cloud.start row cloud.width :=
      record_le_of_column_lt row inside
    _ ≤ row * cloud.rowStep + cloud.rowStep := Nat.add_le_add_left narrow _
    _ = (row + 1) * cloud.rowStep := (Nat.succ_mul ..).symm
    _ ≤ below * cloud.rowStep := Nat.mul_le_mul_right _ before
    _ ≤ cloud.start below other := Nat.le_add_right ..

theorem within_placePoint (record : ∀ slot ∈ axes.toList, slot.stop ≤ cloud.pointStep)
    {order : ByteOrder} {start : Nat} {point : Vec3 Float} {placement : Placement}
    (member : placement ∈ placePoint axes order start point) :
    start ≤ placement.start ∧ placement.stop ≤ start + cloud.pointStep := by
  have within : ∀ slot number, slot ∈ axes.toList → placement = slot.place order start number →
      start ≤ placement.start ∧ placement.stop ≤ start + cloud.pointStep := by
    rintro slot number axis rfl
    rw [Slot.stop_place]
    exact ⟨Nat.le_add_right .., Nat.add_le_add_left (record slot axis) start⟩
  rcases List.mem_cons.mp member with x | member
  · exact within axes.x _ (by simp [Vec3.toList]) x
  rcases List.mem_cons.mp member with y | member
  · exact within axes.y _ (by simp [Vec3.toList]) y
  · exact within axes.z _ (by simp [Vec3.toList]) (List.mem_singleton.mp member)

namespace Cloud.Fits

variable {row column : Nat} {points : List (Vec3 Float)} {point : Vec3 Float}

theorem row_lt (fits : cloud.Fits axes grid) (low : grid[row]? = some points) :
    row < cloud.height := by
  rw [← fits.height]
  exact (List.getElem?_eq_some_iff.mp low).1

theorem column_lt (fits : cloud.Fits axes grid) (low : grid[row]? = some points)
    (narrow : points[column]? = some point) : column < cloud.width := by
  rw [← fits.width points (List.mem_of_getElem? low)]
  exact (List.getElem?_eq_some_iff.mp narrow).1

theorem stop_le (fits : cloud.Fits axes grid) {placement : Placement}
    (member : placement ∈ cloud.placements axes grid) : placement.stop ≤ cloud.data.length := by
  obtain ⟨row, points, column, point, low, narrow, place⟩ := mem_placements_iff.mp member
  calc
    placement.stop ≤ cloud.start row column + cloud.pointStep :=
      (within_placePoint fits.record place).2
    _ ≤ cloud.start cloud.height 0 :=
      record_le_of_row_lt fits.narrow (fits.column_lt low narrow) (fits.row_lt low) 0
    _ = cloud.rowStep * cloud.height := by
      rw [Cloud.start, Nat.zero_mul, Nat.add_zero, Nat.mul_comm]
    _ ≤ cloud.data.length := fits.buffer

/-- No coordinate of the grid goes where another one goes. -/
theorem separate (fits : cloud.Fits axes grid) :
    ∀ first ∈ cloud.placements axes grid, ∀ second ∈ cloud.placements axes grid,
      first ≠ second → first.Apart second := by
  have ordered : ∀ {first second : Placement} {start next},
      first.stop ≤ start + cloud.pointStep → start + cloud.pointStep ≤ next →
        next ≤ second.start → first.Apart second :=
    fun ends between starts => Or.inl (Nat.le_trans (Nat.le_trans ends between) starts)
  intro first there second there' distinct
  obtain ⟨row, points, column, point, low, narrow, place⟩ := mem_placements_iff.mp there
  obtain ⟨row', points', column', point', low', narrow', place'⟩ := mem_placements_iff.mp there'
  rcases within_placePoint fits.record place with ⟨starts, ends⟩
  rcases within_placePoint fits.record place' with ⟨starts', ends'⟩
  have inside := fits.column_lt low narrow
  have inside' := fits.column_lt low' narrow'
  -- Two coordinates stand in different rows, in different records of a row or in one record.
  rcases Nat.lt_trichotomy row row' with above | rfl | below
  · exact ordered ends (record_le_of_row_lt fits.narrow inside above column') starts'
  · rcases Nat.lt_trichotomy column column' with left | rfl | right
    · exact ordered ends (record_le_of_column_lt row left) starts'
    · obtain rfl : points = points' := Option.some.inj (low.symm.trans low')
      obtain rfl : point = point' := Option.some.inj (narrow.symm.trans narrow')
      exact (apart_placePoint fits.apart _ _ _).forall place place' distinct
    · exact (ordered ends' (record_le_of_column_lt row right) starts).symm
  · exact (ordered ends' (record_le_of_row_lt fits.narrow inside' below column) starts).symm

theorem coordinate_write (fits : cloud.Fits axes grid) {slot : Slot} {number : Float}
    (member : slot.place cloud.order (cloud.start row column) number ∈
      cloud.placements axes grid)
    (single : slot.format = .single → IsSingle number) :
    (cloud.write axes grid).coordinate slot row column = number := by
  have written := window_writeAll (fun _ => fits.stop_le) fits.separate member
  rw [Slot.length_bytes_place] at written
  rcases value_bits single with ⟨bound, back⟩
  rw [Cloud.coordinate, Cloud.bits]
  exact (congrArg (fun bytes => slot.format.value (cloud.order.number bytes)) written).trans <|
    (congrArg slot.format.value (cloud.order.number_bytes bound)).trans back

theorem point_write (fits : cloud.Fits axes grid) (low : grid[row]? = some points)
    (narrow : points[column]? = some point) :
    (cloud.write axes grid).point axes row column = point := by
  have placed : ∀ {placement},
      placement ∈ placePoint axes cloud.order (cloud.start row column) point →
        placement ∈ cloud.placements axes grid := fun place =>
    mem_placements_iff.mpr ⟨row, points, column, point, low, narrow, place⟩
  have there : point ∈ grid.flatten :=
    List.mem_flatten_of_mem (List.mem_of_getElem? low) (List.mem_of_getElem? narrow)
  rcases fits.single point there with ⟨x, y, z⟩
  rw [Cloud.point, Vec3.map, fits.coordinate_write (placed (by simp [placePoint])) x,
    fits.coordinate_write (placed (by simp [placePoint])) y,
    fits.coordinate_write (placed (by simp [placePoint])) z]

theorem points_write (fits : cloud.Fits axes grid) :
    (cloud.write axes grid).points axes = grid.flatten := by
  have each : ∀ row points, grid[row]? = some points →
      (List.range cloud.width).map ((cloud.write axes grid).point axes row) = points := by
    intro row points low
    have length := fits.width points (List.mem_of_getElem? low)
    refine List.ext_getElem (by rw [List.length_map, List.length_range, length]) ?_
    intro column _ inside
    rw [List.getElem_map, List.getElem_range]
    exact fits.point_write low (List.getElem?_eq_getElem inside)
  rw [Cloud.points, List.flatMap_def]
  refine congrArg List.flatten (List.ext_getElem ?_ ?_)
  · rw [List.length_map, List.length_range]
    exact fits.height.symm
  · intro row _ inside
    rw [List.getElem_map, List.getElem_range]
    exact each row grid[row] (List.getElem?_eq_getElem inside)

theorem holds_write (fits : cloud.Fits axes grid) : (cloud.write axes grid).Holds axes := by
  refine Or.inr ⟨fits.narrow, ?_, fits.record⟩
  have length : (cloud.write axes grid).data.length = cloud.data.length := length_writeAll ..
  rw [length]
  exact fits.buffer

theorem readCloud_write (fits : cloud.Fits axes grid) {message : Value}
    (sent : (cloud.write axes grid).SentAs message) :
    readCloud message = .ok (grid.flatten.filter Vec3.isFinite) := by
  rw [readCloud_of_holds sent fits.known fits.holds_write, fits.points_write]

end Cloud.Fits

/--
Points that are written into a cloud are decoded to the finite ones of them, in row-major
order.  Every other cloud with the same points is decoded to the same list, in particular
one with all points in one row.
-/
theorem readCloud_undoes_write (fits : cloud.Fits axes grid) {message : Value}
    (sent : (cloud.write axes grid).SentAs message) :
    readCloud message = .ok (grid.flatten.filter Vec3.isFinite) ∧
    (∀ (other : Cloud) (slots : Vec3 Slot) (rows : List (List (Vec3 Float))),
      other.Fits slots rows → rows.flatten = grid.flatten →
        ∀ again, (other.write slots rows).SentAs again → readCloud again = readCloud message) ∧
    ∀ (flat : Cloud) (slots : Vec3 Slot), flat.Fits slots [grid.flatten] →
      ∀ again, (flat.write slots [grid.flatten]).SentAs again →
        readCloud again = readCloud message := by
  have alike : ∀ (other : Cloud) (slots : Vec3 Slot) (rows : List (List (Vec3 Float))),
      other.Fits slots rows → rows.flatten = grid.flatten →
        ∀ again, (other.write slots rows).SentAs again → readCloud again = readCloud message := by
    intro other slots rows fitsOther same again sentOther
    rw [fitsOther.readCloud_write sentOther, same, fits.readCloud_write sent]
  refine ⟨fits.readCloud_write sent, alike, fun flat slots fitsFlat => ?_⟩
  exact alike flat slots [grid.flatten] fitsFlat List.flatten_singleton

end Writing

/-- Two rows of two points, in records with a channel before the axes and padding after. -/
def organisedCloud : Cloud where
  fields := [⟨"intensity", 0, .int 2⟩, ⟨"z", 1, .int 7⟩, ⟨"y", 5, .int 8⟩, ⟨"x", 13, .int 7⟩]
  order := .big
  width := 2
  height := 2
  pointStep := 18
  rowStep := 39
  data := List.replicate 80 0xAB
  held := by decide

def organisedAxes : Vec3 Slot := ⟨⟨13, .single⟩, ⟨5, .double⟩, ⟨1, .single⟩⟩

def flatCloud : Cloud where
  fields := [⟨"x", 0, .int 8⟩, ⟨"y", 8, .int 8⟩, ⟨"z", 16, .int 8⟩]
  order := .little
  width := 4
  height := 1
  pointStep := 24
  rowStep := 96
  data := List.replicate 96 0
  held := by decide

def flatAxes : Vec3 Slot := ⟨⟨0, .double⟩, ⟨8, .double⟩, ⟨16, .double⟩⟩

/-- Four points, one of them without a finite y. -/
def samplePoints : List (List (Vec3 Float)) :=
  [[⟨1.5, 0.1, -0.0⟩, ⟨1.0, 1.0 / 0.0, 2.0⟩], [⟨0.25, -7.3, 3.0⟩, ⟨0.0, 1e-310, -4.0⟩]]

theorem organised_and_flat_alike :
    readCloud (organisedCloud.write organisedAxes samplePoints).message =
      .ok [⟨1.5, 0.1, -0.0⟩, ⟨0.25, -7.3, 3.0⟩, ⟨0.0, 1e-310, -4.0⟩] ∧
    readCloud (flatCloud.write flatAxes [samplePoints.flatten]).message =
      readCloud (organisedCloud.write organisedAxes samplePoints).message := by
  have organised : organisedCloud.Fits organisedAxes samplePoints := by
    constructor <;> decide +kernel
  have flat : flatCloud.Fits flatAxes [samplePoints.flatten] := by
    constructor <;> decide +kernel
  obtain ⟨decoded, -, alike⟩ := readCloud_undoes_write organised (Cloud.sentAs_message _)
  refine ⟨decoded.trans (congrArg Except.ok ?_), alike _ _ flat _ (Cloud.sentAs_message _)⟩
  decide +kernel

end MapIngest.Sensor
