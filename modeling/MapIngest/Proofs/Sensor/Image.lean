import MapIngest.Proofs.Sensor.Decoding
import MapIngest.Sensor.Image

/-!
# What is decoded from an image

An image is what a message of a disparity image says: an encoding, the sizes, the order
of the bytes and the buffer.  It is decoded exactly if the encoding is the supported one,
the rows are whole numbers of elements and hold the width, the buffer holds the rows, and
the machine can address the table.  The last condition is implied by the others unless
the table is empty, and the sizes of messages are far too small to break it even then.

What is decoded are the bits of the numbers.  The bytes of each number are those at its
place in the buffer, and no other byte has an influence; in particular rows that are
written with any padding and with anything after them are read back.
-/

namespace MapIngest.Sensor

/-! ## Images and their messages -/

/-- An image whose sizes are not negative, in a buffer that a machine can hold. -/
structure Image where
  encoding : String
  height : Nat
  width : Nat
  step : Nat
  order : ByteOrder
  data : List UInt8
  held : data.length < 2 ^ 63

/-- A message is that of an image. -/
structure Image.SentAs (image : Image) (message : Value) : Prop where
  encoding : message.field "encoding" = .ok (.text image.encoding)
  height : integerField message "height" = .ok image.height
  width : integerField message "width" = .ok image.width
  step : integerField message "step" = .ok image.step
  order : ∃ flag, message.field "is_bigendian" = .ok flag ∧ orderOfFlag flag = image.order
  data : ∃ given, message.field "data" = .ok given ∧ given.toBytes = .ok image.data

namespace Image

/-- A message of an image. -/
def message (image : Image) : Value :=
  .mapping
    [ (.text "encoding", .text image.encoding), (.text "height", .int image.height),
      (.text "width", .int image.width), (.text "step", .int image.step),
      (.text "is_bigendian", .bool (decide (image.order = .big))),
      (.text "data", .bytes image.data) ]

theorem sentAs_message (image : Image) : image.SentAs image.message where
  encoding := by simp [message, Value.field, Mapping.named?_cons_text]
  height := integerField_of_field (by simp [message, Value.field, Mapping.named?_cons_text])
  width := integerField_of_field (by simp [message, Value.field, Mapping.named?_cons_text])
  step := integerField_of_field (by simp [message, Value.field, Mapping.named?_cons_text])
  order := by
    refine ⟨.bool (decide (image.order = .big)), ?_, ?_⟩
    · simp [message, Value.field, Mapping.named?_cons_text]
    · cases image.order <;> rfl
  data := by
    refine ⟨.bytes image.data, ?_, rfl⟩
    simp [message, Value.field, Mapping.named?_cons_text]

/-- The encoding is supported, the rows hold the width, and the buffer holds the rows. -/
structure Holds (image : Image) : Prop where
  encoding : image.encoding = disparityEncoding
  whole : pixelWidth ∣ image.step
  wide : pixelWidth * image.width ≤ image.step
  buffer : image.step * image.height ≤ image.data.length

/-- The number of elements in a row with its padding. -/
def stride (image : Image) : Nat :=
  image.step / pixelWidth

/-- The machine can address the table of all elements, an empty side counted as one. -/
def Addressable (image : Image) : Prop :=
  pixelWidth * max image.height 1 * max image.stride 1 < 2 ^ 63

/-- The bytes of an element. -/
def pixel (image : Image) (row column : Nat) : List UInt8 :=
  window image.data (row * image.step + column * pixelWidth) pixelWidth

def bits (image : Image) (row column : Nat) : UInt32 :=
  UInt32.ofNat (image.order.number (image.pixel row column))

/-- The bits of the elements inside the width, row by row. -/
def table (image : Image) : SingleTable where
  width := image.width
  rows := (List.range image.height).map fun row =>
    (List.range image.width).map (image.bits row)

/-- The layout of an image, as a message gives it. -/
def layout (image : Image) : ImageLayout :=
  ⟨image.height, image.width, image.step, image.order⟩

/-! ## The checks -/

variable {image : Image}

theorem readPixels_eq {message : Value} (sent : image.SentAs message) :
    readPixels message = (do
      checkEncoding (.text image.encoding)
      image.layout.checkStep
      image.layout.read image.data) := by
  rcases sent.order with ⟨flag, given, order⟩
  rcases sent.data with ⟨buffer, field, data⟩
  rw [readPixels, sent.encoding, ok_bind, sent.height, sent.width, sent.step, given]
  simp only [ok_bind, order, field, data]
  rfl

theorem checkEncoding_text (name : String) :
    checkEncoding (.text name) =
      if name = disparityEncoding then .ok ()
      else .error (.imageEncoding (Value.text name).quoted) := rfl

theorem layout_stride (image : Image) : image.layout.stride = (image.stride : Nat) :=
  (Int.ofNat_fdiv image.step pixelWidth).symm

theorem checkStep_eq (image : Image) :
    image.layout.checkStep =
      if pixelWidth ∣ image.step ∧ image.width ≤ image.stride then .ok ()
      else .error (.imageStep image.step image.width) := by
  have whole : (image.step : Int) % (pixelWidth : Int) = 0 ↔ pixelWidth ∣ image.step := by
    rw [Nat.dvd_iff_mod_eq_zero]
    norm_cast
  rw [ImageLayout.checkStep, layout_stride]
  by_cases fits : pixelWidth ∣ image.step ∧ image.width ≤ image.stride
  · rw [if_pos fits, if_neg]
    rintro (partly | narrow)
    · exact partly (whole.mpr fits.1)
    · exact absurd fits.2 (Nat.not_le.mpr (Int.ofNat_lt.mp narrow))
  · rw [if_neg fits, if_pos]
    · rfl
    · by_contra neither
      rw [not_or, not_not] at neither
      exact fits ⟨whole.mp neither.1, Int.ofNat_le.mp (Int.not_lt.mp neither.2)⟩

theorem checkBuffer_eq (image : Image) :
    image.layout.checkBuffer image.data =
      if image.step * image.height ≤ image.data.length then .ok ()
      else .error (.imageBuffer image.data.length (image.step * image.height)) := by
  simp only [ImageLayout.checkBuffer, layout]
  norm_cast
  by_cases held : image.step * image.height ≤ image.data.length
  · rw [if_pos held, if_neg (Nat.not_lt.mpr held)]
  · rw [if_neg held, if_pos (Nat.lt_of_not_le held)]

theorem stride_mul (whole : pixelWidth ∣ image.step) : image.stride * pixelWidth = image.step :=
  Nat.div_mul_cancel whole

theorem width_le_stride_iff (whole : pixelWidth ∣ image.step) :
    image.width ≤ image.stride ↔ pixelWidth * image.width ≤ image.step := by
  rw [← stride_mul whole, Nat.mul_comm image.stride]
  exact (Nat.mul_le_mul_left_iff (by decide)).symm

/-- The table is addressable as soon as it has elements, and for all sizes of messages. -/
theorem addressable_of_holds (holds : image.Holds)
    (few : image.height = 0 ∨ image.step = 0 → image.height < 2 ^ 61 ∧ image.step < 2 ^ 63) :
    image.Addressable := by
  have held := image.held
  rw [Addressable, stride]
  by_cases empty : image.height = 0 ∨ image.step = 0
  · rcases few empty with ⟨low, narrow⟩
    rcases empty with none | none
    · rw [none, pixelWidth, Nat.max_eq_right (Nat.zero_le 1)]
      omega
    · rw [none, pixelWidth, Nat.zero_div, Nat.max_eq_right (Nat.zero_le 1)]
      omega
  · rw [not_or] at empty
    have least : pixelWidth ≤ image.step :=
      Nat.le_of_dvd (Nat.pos_of_ne_zero empty.2) holds.whole
    have some : 0 < image.step / pixelWidth := Nat.div_pos least (by decide)
    rw [Nat.max_eq_left (Nat.pos_of_ne_zero empty.1), Nat.max_eq_left some]
    calc
      pixelWidth * image.height * (image.step / pixelWidth)
          = image.step / pixelWidth * pixelWidth * image.height := by
        rw [Nat.mul_comm, Nat.mul_assoc]
      _ = image.step * image.height := by rw [Nat.div_mul_cancel holds.whole]
      _ ≤ image.data.length := holds.buffer
      _ < 2 ^ 63 := held

/-! ## Reading the buffer -/

theorem stride_mul_height (whole : pixelWidth ∣ image.step) :
    image.stride * image.height * pixelWidth = image.step * image.height := by
  rw [Nat.mul_right_comm, stride_mul whole]

/-- The elements of a buffer are cut into rows, and the rows to the width. -/
theorem rows_eq (whole : pixelWidth ∣ image.step) (wide : image.width ≤ image.stride) :
    (Tensor.pieces image.height image.stride
        (image.layout.elements (image.stride * image.height) image.data)).map
      (·.take image.width) = image.table.rows := by
  rw [pieces_eq_map, List.map_map, table]
  apply List.map_congr_left
  intro row low
  have inside : row * image.stride + image.width ≤ image.stride * image.height := by
    calc
      row * image.stride + image.width ≤ row * image.stride + image.stride :=
        Nat.add_le_add_left wide _
      _ = (row + 1) * image.stride := (Nat.succ_mul ..).symm
      _ ≤ image.height * image.stride := Nat.mul_le_mul_right _ (List.mem_range.mp low)
      _ = image.stride * image.height := Nat.mul_comm ..
  rw [Function.comp_apply, take_window _ _ wide, ImageLayout.elements, pieces_eq_map,
    List.map_map, window_map_range inside]
  apply List.map_congr_left
  intro column _
  rw [Function.comp_apply, Nat.add_mul, Nat.mul_assoc, stride_mul whole]
  rfl

theorem tableExtent_refused (size : Nat) {rows columns : Nat}
    (large : ¬ (rows < 2 ^ 63 ∧ columns < 2 ^ 63)) : Refused (tableExtent size rows columns) := by
  refine ⟨.conversion .shapeRange, ?_, rfl⟩
  rw [tableExtent, if_pos]
  · rfl
  · by_contra fits
    rw [Bool.not_eq_true, Bool.or_eq_false_iff, Bool.not_eq_false', Bool.not_eq_false'] at fits
    exact large ⟨lt_of_fitsWord fits.1, lt_of_fitsWord fits.2⟩

theorem checkTable_of_addressable (fits : image.Addressable) :
    checkTable pixelWidth image.height image.stride = .ok () :=
  if_pos (fitsWord_of_lt fits)

theorem checkTable_refused (beyond : ¬ image.Addressable) :
    Refused (checkTable pixelWidth image.height image.stride) :=
  ⟨.conversion .arraySize, if_neg (mt lt_of_fitsWord beyond), rfl⟩

theorem sides_lt (fits : image.Addressable) : image.height < 2 ^ 63 ∧ image.stride < 2 ^ 63 := by
  have positive : 0 < pixelWidth * max image.height 1 :=
    Nat.mul_pos (by decide) (Nat.lt_of_lt_of_le Nat.one_pos (Nat.le_max_right ..))
  rw [Addressable] at fits
  constructor
  · calc
      image.height ≤ max image.height 1 := Nat.le_max_left ..
      _ ≤ pixelWidth * max image.height 1 := Nat.le_mul_of_pos_left _ (by decide)
      _ ≤ pixelWidth * max image.height 1 * max image.stride 1 :=
        Nat.le_mul_of_pos_right _ (Nat.lt_of_lt_of_le Nat.one_pos (Nat.le_max_right ..))
      _ < 2 ^ 63 := fits
  · calc
      image.stride ≤ max image.stride 1 := Nat.le_max_left ..
      _ ≤ pixelWidth * max image.height 1 * max image.stride 1 :=
        Nat.le_mul_of_pos_left _ positive
      _ < 2 ^ 63 := fits

/-- The count of elements is a machine word, since the buffer holds them. -/
theorem elementCount_of_holds (holds : image.Holds) :
    elementCount pixelWidth image.data.length (image.layout.stride * image.layout.height) =
      .ok (image.stride * image.height) := by
  have enough : image.stride * image.height * pixelWidth ≤ image.data.length := by
    rw [stride_mul_height holds.whole]
    exact holds.buffer
  have few : image.stride * image.height < 2 ^ 63 :=
    Nat.lt_of_le_of_lt (Nat.le_mul_of_pos_right _ (by decide : 0 < pixelWidth))
      (Nat.lt_of_le_of_lt enough image.held)
  rw [layout_stride]
  exact elementCount_natCast few enough

theorem read_of_addressable (holds : image.Holds) (fits : image.Addressable) :
    image.layout.read image.data = .ok image.table := by
  have wide := (width_le_stride_iff holds.whole).mpr holds.wide
  rcases sides_lt fits with ⟨low, narrow⟩
  have extent : tableExtent (image.stride * image.height) image.layout.height
      image.layout.stride = .ok (image.height, image.stride) := by
    rw [layout_stride, Nat.mul_comm]
    exact tableExtent_natCast low narrow
  have width : leadingCount image.layout.width image.stride = image.width :=
    (leadingCount_natCast image.width _).trans (Nat.min_eq_left wide)
  rw [ImageLayout.read, checkBuffer_eq, if_pos holds.buffer, ok_bind,
    elementCount_of_holds holds, ok_bind, extent, ok_bind]
  dsimp only
  rw [checkTable_of_addressable fits, ok_bind, width, rows_eq holds.whole wide]
  rfl

theorem read_refused (holds : image.Holds) (beyond : ¬ image.Addressable) :
    Refused (image.layout.read image.data) := by
  rw [ImageLayout.read, checkBuffer_eq, if_pos holds.buffer, ok_bind,
    elementCount_of_holds holds, ok_bind, layout_stride]
  by_cases sides : image.height < 2 ^ 63 ∧ image.stride < 2 ^ 63
  · have extent : tableExtent (image.stride * image.height) image.layout.height image.stride =
        .ok (image.height, image.stride) := by
      rw [Nat.mul_comm]
      exact tableExtent_natCast sides.1 sides.2
    rw [extent, ok_bind]
    exact (checkTable_refused beyond).bind _
  · exact (tableExtent_refused _ sides).bind _

/-! ## Messages -/

section Messages

variable {message : Value}

theorem readPixels_of_holds (sent : image.SentAs message) (holds : image.Holds)
    (fits : image.Addressable) : readPixels message = .ok image.table := by
  have wide := (width_le_stride_iff holds.whole).mpr holds.wide
  rw [readPixels_eq sent, checkEncoding_text, if_pos holds.encoding, ok_bind, checkStep_eq,
    if_pos ⟨holds.whole, wide⟩, ok_bind, read_of_addressable holds fits]

/-- No other message is decoded, and all others have a wrong value. -/
theorem readPixels_refused (sent : image.SentAs message)
    (lacks : ¬ (image.Holds ∧ image.Addressable)) : Refused (readPixels message) := by
  rw [readPixels_eq sent, checkEncoding_text]
  by_cases encoding : image.encoding = disparityEncoding
  case neg =>
    rw [if_neg encoding]
    exact Refused.bind ⟨_, rfl, rfl⟩ _
  rw [if_pos encoding, ok_bind, checkStep_eq]
  by_cases step : pixelWidth ∣ image.step ∧ image.width ≤ image.stride
  case neg =>
    rw [if_neg step]
    exact Refused.bind ⟨_, rfl, rfl⟩ _
  rw [if_pos step, ok_bind]
  by_cases buffer : image.step * image.height ≤ image.data.length
  case neg =>
    rw [ImageLayout.read, checkBuffer_eq, if_neg buffer]
    exact Refused.bind ⟨_, rfl, rfl⟩ _
  have holds : image.Holds := ⟨encoding, step.1, (width_le_stride_iff step.1).mp step.2, buffer⟩
  exact read_refused holds fun fits => lacks ⟨holds, fits⟩

theorem readPixels_eq_ok_iff (sent : image.SentAs message) {table : SingleTable} :
    readPixels message = .ok table ↔
      image.Holds ∧ image.Addressable ∧ table = image.table := by
  constructor
  · intro returned
    by_cases reads : image.Holds ∧ image.Addressable
    · rw [readPixels_of_holds sent reads.1 reads.2, Except.ok.injEq] at returned
      exact ⟨reads.1, reads.2, returned.symm⟩
    · obtain ⟨fault, failed, -⟩ := readPixels_refused sent reads
      rw [failed] at returned
      cases returned
  · rintro ⟨holds, fits, rfl⟩
    exact readPixels_of_holds sent holds fits

end Messages

/-! ## Elements and their bytes -/

theorem pixel_stop_le (holds : image.Holds) {row column : Nat} (low : row < image.height)
    (narrow : column < image.width) :
    row * image.step + column * pixelWidth + pixelWidth ≤ image.data.length := by
  calc
    row * image.step + column * pixelWidth + pixelWidth
        = row * image.step + pixelWidth * (column + 1) := by
      rw [Nat.add_assoc, ← Nat.succ_mul, Nat.mul_comm pixelWidth]
    _ ≤ row * image.step + image.step :=
      Nat.add_le_add_left (Nat.le_trans (Nat.mul_le_mul_left _ narrow) holds.wide) _
    _ = (row + 1) * image.step := (Nat.succ_mul ..).symm
    _ ≤ image.height * image.step := Nat.mul_le_mul_right _ low
    _ = image.step * image.height := Nat.mul_comm ..
    _ ≤ image.data.length := holds.buffer

/-- The bits of an element are its bytes in the order of the image. -/
theorem bytes_bits (holds : image.Holds) {row column : Nat} (low : row < image.height)
    (narrow : column < image.width) :
    image.order.bytes pixelWidth (image.bits row column).toNat = image.pixel row column := by
  have length : (image.pixel row column).length = pixelWidth :=
    length_window (pixel_stop_le holds low narrow)
  have small := image.order.number_lt (image.pixel row column)
  have fits : image.order.number (image.pixel row column) < 2 ^ 32 := by
    rwa [length] at small
  rw [bits, UInt32.toNat_ofNat', Nat.mod_eq_of_lt fits]
  calc
    image.order.bytes pixelWidth (image.order.number (image.pixel row column))
        = image.order.bytes (image.pixel row column).length
            (image.order.number (image.pixel row column)) := by rw [length]
    _ = image.pixel row column := image.order.bytes_number _

theorem getElem?_table {row column : Nat} (low : row < image.height)
    (narrow : column < image.width) :
    ∃ numbers, image.table.rows[row]? = some numbers ∧
      numbers[column]? = some (image.bits row column) := by
  refine ⟨(List.range image.width).map (image.bits row), ?_, ?_⟩
  · rw [table, List.getElem?_map, List.getElem?_range low]
    rfl
  · rw [List.getElem?_map, List.getElem?_range narrow]
    rfl

theorem length_of_mem_rows_table {numbers : List UInt32} (member : numbers ∈ image.table.rows) :
    numbers.length = image.width := by
  rcases List.mem_map.mp member with ⟨row, -, rfl⟩
  rw [List.length_map, List.length_range]

theorem length_rows_table (image : Image) : image.table.rows.length = image.height := by
  rw [table, List.length_map, List.length_range]

/-- A byte of the buffer is one of an element inside the width. -/
def Reads (image : Image) (index : Nat) : Prop :=
  ∃ row < image.height, ∃ column < image.width,
    row * image.step + column * pixelWidth ≤ index ∧
      index < row * image.step + column * pixelWidth + pixelWidth

/-- The same image in another buffer. -/
def withData (image : Image) (data : List UInt8) (held : data.length < 2 ^ 63) : Image :=
  { image with data := data, held := held }

theorem table_withData {data : List UInt8} (held : data.length < 2 ^ 63)
    (agree : ∀ index, image.Reads index → data[index]? = image.data[index]?) :
    (image.withData data held).table = image.table := by
  rw [table, table, SingleTable.mk.injEq]
  refine ⟨rfl, ?_⟩
  apply List.map_congr_left
  intro row low
  apply List.map_congr_left
  intro column narrow
  have same : (image.withData data held).pixel row column = image.pixel row column := by
    apply window_congr
    intro index above below
    exact agree index
      ⟨row, List.mem_range.mp low, column, List.mem_range.mp narrow, above, below⟩
  exact congrArg (fun bytes => UInt32.ofNat (image.order.number bytes)) same

/-! ## Writing images -/

/-- A row of an image: the bits of its numbers and the padding after them. -/
structure PaddedRow where
  numbers : List UInt32
  padding : List UInt8

def PaddedRow.bytes (order : ByteOrder) (row : PaddedRow) : List UInt8 :=
  (row.numbers.map fun bits => order.bytes pixelWidth bits.toNat).flatten ++ row.padding

/-- The buffer of an image holds rows of its sizes, and anything after them. -/
structure Written (image : Image) (rows : List PaddedRow) (rest : List UInt8) : Prop where
  encoding : image.encoding = disparityEncoding
  height : rows.length = image.height
  width : ∀ row ∈ rows, row.numbers.length = image.width
  whole : pixelWidth ∣ image.step
  wide : pixelWidth * image.width ≤ image.step
  padding : ∀ row ∈ rows, pixelWidth * image.width + row.padding.length = image.step
  data : image.data = (rows.map (PaddedRow.bytes image.order)).flatten ++ rest

namespace Written

variable {rows : List PaddedRow} {rest : List UInt8}

theorem length_numbers (order : ByteOrder) (numbers : List UInt32) :
    ((numbers.map fun bits => order.bytes pixelWidth bits.toNat).flatten).length =
      numbers.length * pixelWidth := by
  induction numbers with
  | nil => rw [List.length_nil, Nat.zero_mul]; rfl
  | cons bits others ih =>
      rw [List.map_cons, List.flatten_cons, List.length_append, ByteOrder.length_bytes, ih,
        List.length_cons, Nat.succ_mul, Nat.add_comm]

theorem length_row (written : image.Written rows rest) :
    ∀ bytes ∈ rows.map (PaddedRow.bytes image.order), bytes.length = image.step := by
  intro bytes member
  rcases List.mem_map.mp member with ⟨row, inside, rfl⟩
  rw [PaddedRow.bytes, List.length_append, length_numbers, written.width row inside,
    Nat.mul_comm, written.padding row inside]

theorem holds (written : image.Written rows rest) : image.Holds where
  encoding := written.encoding
  whole := written.whole
  wide := written.wide
  buffer := by
    rw [written.data, List.length_append, List.length_flatten,
      List.map_congr_left written.length_row, List.map_const', List.sum_replicate_nat,
      List.length_map, written.height, Nat.mul_comm]
    exact Nat.le_add_right ..

/-- The bytes of a number stand at its place. -/
theorem pixel_eq (written : image.Written rows rest) {row column : Nat} {given : PaddedRow}
    {bits : UInt32} (low : rows[row]? = some given)
    (narrow : given.numbers[column]? = some bits) :
    image.pixel row column = image.order.bytes pixelWidth bits.toNat := by
  have member := List.mem_of_getElem? low
  have inside : column < image.width := by
    rw [← written.width given member]
    exact (List.getElem?_eq_some_iff.mp narrow).1
  have stop : column * pixelWidth + pixelWidth ≤ image.step := by
    rw [← Nat.succ_mul, Nat.mul_comm]
    exact Nat.le_trans (Nat.mul_le_mul_left _ inside) written.wide
  have bytes : (rows.map (PaddedRow.bytes image.order))[row]? =
      some (given.bytes image.order) := by
    rw [List.getElem?_map, low]
    rfl
  have single : ∀ piece ∈ given.numbers.map fun bits =>
      image.order.bytes pixelWidth bits.toNat, piece.length = pixelWidth := by
    intro piece there
    rcases List.mem_map.mp there with ⟨bits, -, rfl⟩
    exact ByteOrder.length_bytes ..
  calc
    image.pixel row column
        = window (window image.data (row * image.step) image.step)
            (column * pixelWidth) pixelWidth := (window_window _ _ _ stop).symm
    _ = window (given.bytes image.order) (column * pixelWidth) pixelWidth := by
      rw [written.data, window_flatten written.length_row rest bytes]
    _ = image.order.bytes pixelWidth bits.toNat := by
      apply window_flatten single
      rw [List.getElem?_map, narrow]
      rfl

theorem bits_eq (written : image.Written rows rest) {row column : Nat} {given : PaddedRow}
    {bits : UInt32} (low : rows[row]? = some given)
    (narrow : given.numbers[column]? = some bits) : image.bits row column = bits := by
  rw [Image.bits, written.pixel_eq low narrow, ByteOrder.number_bytes _ bits.toNat_lt,
    UInt32.ofNat_toNat]

theorem table_eq (written : image.Written rows rest) :
    image.table = ⟨image.width, rows.map PaddedRow.numbers⟩ := by
  rw [table, SingleTable.mk.injEq]
  refine ⟨rfl, ?_⟩
  apply List.ext_getElem
  · rw [List.length_map, List.length_map, List.length_range, written.height]
  intro row low low'
  have inside : row < rows.length := by rwa [List.length_map] at low'
  have found : rows[row]? = some rows[row] := List.getElem?_eq_getElem inside
  rw [List.getElem_map, List.getElem_map, List.getElem_range]
  apply List.ext_getElem
  · rw [List.length_map, List.length_range, written.width _ (List.getElem_mem _)]
  intro column narrow narrow'
  rw [List.getElem_map, List.getElem_range]
  exact written.bits_eq found (List.getElem?_eq_getElem narrow')

end Written

/-! ## Decoding -/

/--
A message of an image is decoded exactly if the image holds its rows and the machine can
address them, which it always can unless the table is empty and a size beyond those of
messages; any other message is refused as a wrong value.  The table has the sizes of the
image.  The bytes of each number are those at its place in the buffer, and every buffer
with the same bytes there gives the same table.  Rows that are written into the buffer,
with any padding and with anything after them, are read back.
-/
theorem readPixels_decodes {message : Value} (sent : image.SentAs message) :
    readImage message = (readPixels message).map SingleTable.toTensor ∧
    (∀ fault, readPixels message = .error fault → fault.kind = .value) ∧
    ((∃ table, readPixels message = .ok table) ↔ image.Holds ∧ image.Addressable) ∧
    (image.Holds →
      (image.height = 0 ∨ image.step = 0 → image.height < 2 ^ 32 ∧ image.step < 2 ^ 32) →
        image.Addressable) ∧
    (∀ table, readPixels message = .ok table →
      table.toTensor.shape = [image.height, image.width] ∧ table.width = image.width ∧
      table.rows.length = image.height ∧
      (∀ numbers ∈ table.rows, numbers.length = image.width) ∧
      (∀ row < image.height, ∀ column < image.width, ∃ numbers bits,
        table.rows[row]? = some numbers ∧ numbers[column]? = some bits ∧
          image.order.bytes 4 bits.toNat =
            window image.data (row * image.step + column * 4) 4) ∧
      ∀ data held other, (image.withData data held).SentAs other →
        image.step * image.height ≤ data.length →
        (∀ index, image.Reads index → data[index]? = image.data[index]?) →
          readPixels other = .ok table) ∧
    ∀ rows rest, image.Written rows rest → image.Addressable →
      readPixels message = .ok ⟨image.width, rows.map PaddedRow.numbers⟩ := by
  refine ⟨rfl, ?_, ⟨?_, ?_⟩, ?_, ?_, ?_⟩
  · intro fault failed
    by_cases reads : image.Holds ∧ image.Addressable
    · rw [readPixels_of_holds sent reads.1 reads.2] at failed
      cases failed
    · obtain ⟨other, same, kind⟩ := readPixels_refused sent reads
      rw [failed, Except.error.injEq] at same
      rwa [same]
  · rintro ⟨table, returned⟩
    obtain ⟨holds, fits, -⟩ := (readPixels_eq_ok_iff sent).mp returned
    exact ⟨holds, fits⟩
  · rintro ⟨holds, fits⟩
    exact ⟨_, readPixels_of_holds sent holds fits⟩
  · intro holds few
    exact addressable_of_holds holds fun empty =>
      (few empty).imp (Nat.lt_trans · (by decide)) (Nat.lt_trans · (by decide))
  · intro table returned
    obtain ⟨holds, fits, rfl⟩ := (readPixels_eq_ok_iff sent).mp returned
    have height := length_rows_table image
    refine ⟨?_, rfl, height, fun _ => length_of_mem_rows_table, ?_, ?_⟩
    · rw [SingleTable.toTensor, Tensor.ofRows, List.length_map, height]
      rfl
    · intro row low column narrow
      obtain ⟨numbers, there, found⟩ := getElem?_table low narrow
      exact ⟨numbers, _, there, found, bytes_bits holds low narrow⟩
    · intro data held other sentOther buffer agree
      rw [← table_withData held agree]
      exact readPixels_of_holds sentOther
        ⟨holds.encoding, holds.whole, holds.wide, buffer⟩ fits
  · intro rows rest written fits
    rw [readPixels_of_holds sent written.holds fits, written.table_eq]

end Image

/-- Two rows of two numbers, one of which is not a number, with padding and a rest. -/
def paddedRows : List Image.PaddedRow :=
  [⟨[0x3F800000, 0x7FA00001], [0xAB, 0xAB, 0xAB, 0xAB]⟩,
    ⟨[0x80000000, 0xC0490FDB], [0xFF, 0x80, 0, 0]⟩]

def paddedImage : Image where
  encoding := "32FC1"
  height := 2
  width := 2
  step := 12
  order := .big
  data :=
    [0x3F, 0x80, 0, 0, 0x7F, 0xA0, 0, 1, 0xAB, 0xAB, 0xAB, 0xAB,
      0x80, 0, 0, 0, 0xC0, 0x49, 0x0F, 0xDB, 0xFF, 0x80, 0, 0, 1, 2, 3]
  held := by decide

theorem padded_image_decoded :
    readPixels paddedImage.message =
      .ok ⟨2, [[0x3F800000, 0x7FA00001], [0x80000000, 0xC0490FDB]]⟩ := by
  obtain ⟨-, -, -, small, -, written⟩ := paddedImage.readPixels_decodes paddedImage.sentAs_message
  have rows : paddedImage.Written paddedRows [1, 2, 3] := by
    constructor <;> decide
  exact written paddedRows [1, 2, 3] rows (small rows.holds fun _ => by decide)

/-- An image without rows, whose step is beyond what a machine can count. -/
def endlessImage : Image where
  encoding := "32FC1"
  height := 0
  width := 3
  step := 2 ^ 65
  order := .little
  data := []
  held := by decide

theorem endless_image_refused :
    ¬ ∀ (image : Image) (message : Value), image.SentAs message →
      (image.Holds ↔ ∃ table, readPixels message = .ok table) := by
  intro decoded
  have holds : endlessImage.Holds := by
    constructor <;> decide
  have failed : readPixels endlessImage.message = .error (.conversion .shapeRange) := by
    decide +kernel
  obtain ⟨table, returned⟩ :=
    (decoded endlessImage _ endlessImage.sentAs_message).mp holds
  rw [failed] at returned
  cases returned

end MapIngest.Sensor
