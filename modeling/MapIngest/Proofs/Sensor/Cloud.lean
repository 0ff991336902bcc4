import Mathlib.Data.List.Forall2
import MapIngest.Proofs.Fallible
import MapIngest.Proofs.Value.Mapping
import MapIngest.Sensor.PointCloud

/-!
# Clouds and their messages

A cloud is what a message of a point cloud says: the fields of a record, the order of
its bytes, the sizes of the grid and the buffer.  The last field of the name of an axis
says where the number of the axis stands, if its format is known.  With the three axes
known, decoding a message comes down to reading the buffer of its cloud; without them
it is refused.
-/

namespace MapIngest.Sensor

open MapIngest.Geometry

/-! ## Clouds and their messages -/

/-- A field of a cloud: where it stands in a record, and the code of its format. -/
structure CloudField where
  name : String
  offset : Nat
  code : Scalar

/-- A cloud whose sizes are not negative, in a buffer that a machine can hold. -/
structure Cloud where
  fields : List CloudField
  order : ByteOrder
  width : Nat
  height : Nat
  pointStep : Nat
  rowStep : Nat
  data : List UInt8
  held : data.length < 2 ^ 63

/-- An item of a message is a field. -/
structure CloudField.SentAs (field : CloudField) (item : Value) : Prop where
  name : item.field "name" = .ok (.text field.name)
  offset : item.field "offset" = .ok (.int field.offset)
  code : item.field "datatype" = .ok (.scalar field.code)

/-- A message is that of a cloud. -/
structure Cloud.SentAs (cloud : Cloud) (message : Value) : Prop where
  fields : ∃ given items, message.field "fields" = .ok given ∧ given.items = .ok items ∧
    List.Forall₂ CloudField.SentAs cloud.fields items
  order : ∃ flag, message.field "is_bigendian" = .ok flag ∧ orderOfFlag flag = cloud.order
  width : integerField message "width" = .ok cloud.width
  height : integerField message "height" = .ok cloud.height
  pointStep : integerField message "point_step" = .ok cloud.pointStep
  rowStep : integerField message "row_step" = .ok cloud.rowStep
  data : ∃ given, message.field "data" = .ok given ∧ given.toBytes = .ok cloud.data

def CloudField.item (field : CloudField) : Value :=
  .mapping [(.text "name", .text field.name), (.text "offset", .int field.offset),
    (.text "datatype", .scalar field.code)]

/-- A message of a cloud. -/
def Cloud.message (cloud : Cloud) : Value :=
  .mapping
    [ (.text "fields", .list (cloud.fields.map CloudField.item)),
      (.text "is_bigendian", .bool (decide (cloud.order = .big))),
      (.text "width", .int cloud.width), (.text "height", .int cloud.height),
      (.text "point_step", .int cloud.pointStep), (.text "row_step", .int cloud.rowStep),
      (.text "data", .bytes cloud.data) ]

theorem CloudField.sentAs_item (field : CloudField) : field.SentAs field.item where
  name := by simp [item, Value.field, Mapping.named?_cons_text]
  offset := by simp [item, Value.field, Mapping.named?_cons_text]
  code := by simp [item, Value.field, Mapping.named?_cons_text]

theorem integerField_of_field {message : Value} {name : String} {number : Int}
    (given : message.field name = .ok (.int number)) :
    integerField message name = .ok number := by
  rw [integerField, given, ok_bind]
  rfl

theorem Cloud.sentAs_message (cloud : Cloud) : cloud.SentAs cloud.message where
  fields := by
    refine ⟨.list (cloud.fields.map CloudField.item), _, ?_, rfl, ?_⟩
    · simp [message, Value.field, Mapping.named?_cons_text]
    · rw [List.forall₂_map_right_iff, List.forall₂_same]
      exact fun field _ => field.sentAs_item
  order := by
    refine ⟨.bool (decide (cloud.order = .big)), ?_, ?_⟩
    · simp [message, Value.field, Mapping.named?_cons_text]
    · cases cloud.order <;> rfl
  width := integerField_of_field (by simp [message, Value.field, Mapping.named?_cons_text])
  height := integerField_of_field (by simp [message, Value.field, Mapping.named?_cons_text])
  pointStep := integerField_of_field (by simp [message, Value.field, Mapping.named?_cons_text])
  rowStep := integerField_of_field (by simp [message, Value.field, Mapping.named?_cons_text])
  data := by
    refine ⟨.bytes cloud.data, ?_, rfl⟩
    simp [message, Value.field, Mapping.named?_cons_text]

/-- The last field with a name. -/
def last? (fields : List CloudField) (name : String) : Option CloudField :=
  fields.reverse.find? (·.name == name)

/-- Where the number of a field stands, if its format is known. -/
def CloudField.slot? (field : CloudField) : Option Slot :=
  (NumberFormat.ofCode? field.code).map fun format => ⟨field.offset, format⟩

namespace Cloud

/-- Where the number of the last field with a name stands. -/
def slot? (cloud : Cloud) (name : String) : Option Slot :=
  (last? cloud.fields name).bind CloudField.slot?

def axes? (cloud : Cloud) : Option (Vec3 Slot) := do
  return ⟨← cloud.slot? "x", ← cloud.slot? "y", ← cloud.slot? "z"⟩

/-- The grid of a cloud, as a message gives it. -/
def extent (cloud : Cloud) : CloudExtent :=
  ⟨cloud.width, cloud.height, cloud.pointStep, cloud.rowStep⟩

end Cloud

/-! ## The fields of the axes -/

theorem last?_cons (field : CloudField) (rest : List CloudField) (name : String) :
    last? (field :: rest) name =
      (last? rest name).or (if field.name = name then some field else none) := by
  rw [last?, List.reverse_cons, List.find?_append, ← last?, List.find?_singleton]
  simp

/-- Storing fields by their names leaves the last one of each name. -/
theorem foldlM_sent {fields : List CloudField} {items : List Value}
    (sent : List.Forall₂ CloudField.SentAs fields items) (table : Mapping) :
    ∃ after, items.foldlM
        (fun table field => do
          let key ← (← field.field "name").toKey
          return Mapping.insert table key field)
        table = Except.ok after ∧
      ∀ name held?, Option.Rel CloudField.SentAs held? (table.named? name) →
        Option.Rel CloudField.SentAs ((last? fields name).or held?) (after.named? name) := by
  induction sent generalizing table with
  | nil => exact ⟨table, rfl, fun _ _ held => held⟩
  | @cons field item fields items first _ ih =>
      rcases ih (table.insert (.text field.name) item) with ⟨after, stored, found⟩
      refine ⟨after, ?_, ?_⟩
      · rw [List.foldlM_cons, first.name]
        exact stored
      · intro name held? held
        rw [last?_cons, Option.or_assoc]
        refine found name _ ?_
        rw [Mapping.named?_insert]
        by_cases same : field.name = name
        · rw [if_pos same, if_pos same]
          exact .some first
        · rw [if_neg same, if_neg same]
          exact held

theorem fieldTable_sent {cloud : Cloud} {message : Value} (sent : cloud.SentAs message) :
    ∃ table, fieldTable message = .ok table ∧
      ∀ name, Option.Rel CloudField.SentAs (last? cloud.fields name) (table.named? name) := by
  rcases sent.fields with ⟨given, items, field, listed, each⟩
  rcases foldlM_sent each [] with ⟨table, stored, found⟩
  refine ⟨table, ?_, ?_⟩
  · rw [fieldTable, field, ok_bind, listed, ok_bind]
    exact stored
  · intro name
    have last := found name none .none
    rwa [Option.or_none] at last

/-- The format of a field is looked up by its code. -/
theorem readFormat_eq {field : CloudField} {item : Value} (sent : field.SentAs item)
    (axis : String) :
    readFormat axis item = (NumberFormat.ofCode? field.code).elim
      (.error (.cloudFormat (Value.scalar field.code).display axis)) .ok := by
  have key : (Value.scalar field.code).toKey = .ok field.code := rfl
  rw [readFormat, sent.code, ok_bind, key, ok_bind]
  cases NumberFormat.ofCode? field.code <;> rfl

theorem readFormat_sent {field : CloudField} {item : Value} (sent : field.SentAs item)
    {slot : Slot} (found : field.slot? = some slot) (axis : String) :
    readFormat axis item = .ok slot.format ∧ slot.offset = field.offset := by
  rcases Option.map_eq_some_iff.mp found with ⟨format, known, rfl⟩
  refine ⟨?_, rfl⟩
  rw [readFormat_eq sent, known]
  rfl

theorem readFormat_refused {field : CloudField} {item : Value} (sent : field.SentAs item)
    (absent : field.slot? = none) (axis : String) : Refused (readFormat axis item) := by
  refine ⟨.cloudFormat (Value.scalar field.code).display axis, ?_, rfl⟩
  rw [readFormat_eq sent, Option.map_eq_none_iff.mp absent]
  rfl

section Reading

variable {cloud : Cloud} {message : Value} {table : Mapping}

/-- The name of an axis leads to no field, or to one whose format is known or refused. -/
theorem axis_cases
    (found : ∀ name, Option.Rel CloudField.SentAs (last? cloud.fields name) (table.named? name))
    (name : String) :
    (table.named? name = none ∧ cloud.slot? name = none) ∨
      ∃ item, table.named? name = some item ∧
        ((∃ slot, cloud.slot? name = some slot ∧ readFormat name item = .ok slot.format ∧
            item.field "offset" = .ok (.int slot.offset)) ∨
          cloud.slot? name = none ∧ Refused (readFormat name item)) := by
  have last := found name
  rw [Cloud.slot?]
  generalize last? cloud.fields name = field? at last
  generalize table.named? name = item? at last
  cases last with
  | none => exact Or.inl ⟨rfl, rfl⟩
  | @some field item sent =>
      refine Or.inr ⟨item, rfl, ?_⟩
      rw [Option.bind_some]
      cases slot? : field.slot? with
      | none => exact Or.inr ⟨rfl, readFormat_refused sent slot? name⟩
      | some slot =>
          rcases readFormat_sent sent slot? name with ⟨read, offset⟩
          refine Or.inl ⟨slot, rfl, read, ?_⟩
          rw [offset]
          exact sent.offset

theorem axes?_eq_some_iff {axes : Vec3 Slot} :
    cloud.axes? = some axes ↔
      cloud.slot? "x" = some axes.x ∧ cloud.slot? "y" = some axes.y ∧
        cloud.slot? "z" = some axes.z := by
  rcases axes with ⟨x, y, z⟩
  rw [Cloud.axes?]
  cases cloud.slot? "x" with
  | none => simp
  | some x =>
      cases cloud.slot? "y" with
      | none => simp
      | some y => cases cloud.slot? "z" <;> simp

/-- Reading a cloud once its axes are known. -/
def readAxes (cloud : Cloud) (axes : Vec3 Slot) : Except Fault (List (Vec3 Float)) :=
  if cloud.extent.count = 0 then
    .ok []
  else do
    cloud.extent.checkRow
    cloud.extent.checkBuffer cloud.data
    let x ← readOffset (.int axes.x.offset)
    let y ← readOffset (.int axes.y.offset)
    let z ← readOffset (.int axes.z.offset)
    readRecords cloud.extent cloud.order
      ⟨⟨x, axes.x.format⟩, ⟨y, axes.y.format⟩, ⟨z, axes.z.format⟩⟩ cloud.data

theorem fitsWord_of_lt {number : Nat} (small : number < 2 ^ 63) : fitsWord number = true := by
  rw [fitsWord, decide_eq_true_eq]
  constructor <;> omega

theorem lt_of_fitsWord {number : Nat} (fits : fitsWord number = true) : number < 2 ^ 63 := by
  rw [fitsWord, decide_eq_true_eq] at fits
  omega

/-- An offset that is not negative is read if it fits into a machine word. -/
theorem readOffset_natCast (offset : Nat) :
    readOffset (.int offset) =
      if fitsWord offset then .ok offset else Value.refuse .layoutOverflow := by
  have positive : ¬ (offset : Int) < 0 := by omega
  cases fits : fitsWord offset with
  | true =>
      simp only [readOffset, fits, positive]
      rfl
  | false =>
      simp only [readOffset, fits]
      rfl

theorem readOffset_of_lt {offset : Nat} (small : offset < 2 ^ 63) :
    readOffset (.int offset) = .ok offset := by
  rw [readOffset_natCast, if_pos (fitsWord_of_lt small)]

theorem lt_of_readOffset {offset other : Nat} (returned : readOffset (.int offset) = .ok other) :
    offset < 2 ^ 63 := by
  rw [readOffset_natCast] at returned
  by_cases fits : fitsWord offset = true
  · exact lt_of_fitsWord fits
  · rw [if_neg fits] at returned
    cases returned

theorem readCloud_of_axes (sent : cloud.SentAs message) {axes : Vec3 Slot}
    (known : cloud.axes? = some axes) : readCloud message = readAxes cloud axes := by
  rcases fieldTable_sent sent with ⟨table, stored, found⟩
  rcases sent.order with ⟨flag, given, order⟩
  rcases sent.data with ⟨buffer, field, data⟩
  rcases axes?_eq_some_iff.mp known with ⟨x, y, z⟩
  have axis : ∀ {name slot}, cloud.slot? name = some slot →
      ∃ item, table.named? name = some item ∧ readFormat name item = .ok slot.format ∧
        item.field "offset" = .ok (.int slot.offset) := by
    intro name slot known
    rcases axis_cases found name with ⟨-, none⟩ | ⟨item, there, ⟨other, same, read⟩ | ⟨none, -⟩⟩
    · rw [none] at known
      cases known
    · rw [known, Option.some.injEq] at same
      subst same
      exact ⟨item, there, read⟩
    · rw [none] at known
      cases known
  rcases axis x with ⟨itemX, storedX, formatX, offsetX⟩
  rcases axis y with ⟨itemY, storedY, formatY, offsetY⟩
  rcases axis z with ⟨itemZ, storedZ, formatZ, offsetZ⟩
  have fields : axisFields table = .ok ⟨itemX, itemY, itemZ⟩ := by
    rw [axisFields, storedX, storedY, storedZ]
  have extent : (⟨cloud.width, cloud.height, cloud.pointStep, cloud.rowStep⟩ : CloudExtent) =
      cloud.extent := rfl
  rw [readCloud, stored, ok_bind, fields, ok_bind, given, ok_bind, order, formatX, ok_bind,
    formatY, ok_bind, formatZ, ok_bind, sent.width, ok_bind, sent.height, ok_bind,
    sent.pointStep, ok_bind, sent.rowStep, ok_bind, extent]
  by_cases empty : cloud.extent.count = 0
  · rw [readAxes, if_pos empty, if_pos empty]
    rfl
  · rw [readAxes, if_neg empty, if_neg empty]
    rw [field, ok_bind, data, ok_bind, offsetX, ok_bind, offsetY, ok_bind, offsetZ, ok_bind]

theorem readCloud_refused (sent : cloud.SentAs message) (unknown : cloud.axes? = none) :
    Refused (readCloud message) := by
  rcases fieldTable_sent sent with ⟨table, stored, found⟩
  rcases sent.order with ⟨flag, given, -⟩
  rw [readCloud, stored, ok_bind]
  rcases axis_cases found "x" with ⟨x, -⟩ | ⟨itemX, storedX, readX⟩
  · refine Refused.bind ⟨.cloudAxes, ?_, rfl⟩ _
    rw [axisFields, x]
  rcases axis_cases found "y" with ⟨y, -⟩ | ⟨itemY, storedY, readY⟩
  · refine Refused.bind ⟨.cloudAxes, ?_, rfl⟩ _
    rw [axisFields, y]
    simp
  rcases axis_cases found "z" with ⟨z, -⟩ | ⟨itemZ, storedZ, readZ⟩
  · refine Refused.bind ⟨.cloudAxes, ?_, rfl⟩ _
    rw [axisFields, z]
    simp
  have fields : axisFields table = .ok ⟨itemX, itemY, itemZ⟩ := by
    rw [axisFields, storedX, storedY, storedZ]
  rw [fields, ok_bind, given, ok_bind]
  rcases readX with ⟨slotX, x, formatX, -⟩ | ⟨-, refused⟩
  case inr => exact refused.bind _
  rw [formatX, ok_bind]
  rcases readY with ⟨slotY, y, formatY, -⟩ | ⟨-, refused⟩
  case inr => exact refused.bind _
  rw [formatY, ok_bind]
  rcases readZ with ⟨slotZ, z, -⟩ | ⟨-, refused⟩
  case inr => exact refused.bind _
  have known : cloud.axes? = some ⟨slotX, slotY, slotZ⟩ := axes?_eq_some_iff.mpr ⟨x, y, z⟩
  rw [unknown] at known
  cases known

end Reading

end MapIngest.Sensor
