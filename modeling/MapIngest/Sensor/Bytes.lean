/-!
# Numbers as bytes

A number takes a fixed count of bytes in one of two orders.  The order with
the least significant byte first is the basic one; the other is its reverse.
Reading undoes writing for every number that fits, and writing undoes reading.
-/

namespace MapIngest.Sensor

/-- The order of the bytes of a number. -/
inductive ByteOrder where
  /-- The least significant byte comes first. -/
  | little
  /-- The most significant byte comes first. -/
  | big
deriving DecidableEq, Repr

/-- The number of some bytes, the least significant first. -/
def ofLittle : List UInt8 → Nat
  | [] => 0
  | byte :: rest => byte.toNat + 256 * ofLittle rest

/-- The last `width` bytes of a number, the least significant first. -/
def toLittle : (width : Nat) → (number : Nat) → List UInt8
  | 0, _ => []
  | width + 1, number => UInt8.ofNat (number % 256) :: toLittle width (number / 256)

namespace ByteOrder

/-- Turn bytes of an order into bytes with the least significant first, or back. -/
def arrange (order : ByteOrder) (bytes : List UInt8) : List UInt8 :=
  match order with
  | .little => bytes
  | .big => bytes.reverse

/-- The number of some bytes. -/
def number (order : ByteOrder) (bytes : List UInt8) : Nat :=
  ofLittle (order.arrange bytes)

/-- The bytes of a number. -/
def bytes (order : ByteOrder) (width number : Nat) : List UInt8 :=
  order.arrange (toLittle width number)

@[simp]
theorem arrange_arrange (order : ByteOrder) (bytes : List UInt8) :
    order.arrange (order.arrange bytes) = bytes := by
  cases order <;> simp [arrange]

@[simp]
theorem length_arrange (order : ByteOrder) (bytes : List UInt8) :
    (order.arrange bytes).length = bytes.length := by
  cases order <;> simp [arrange]

end ByteOrder

@[simp]
theorem length_toLittle (width number : Nat) : (toLittle width number).length = width := by
  induction width generalizing number with
  | zero => rfl
  | succ width ih => simp [toLittle, ih]

theorem toLittle_ofLittle (bytes : List UInt8) :
    toLittle bytes.length (ofLittle bytes) = bytes := by
  induction bytes with
  | nil => rfl
  | cons byte rest ih =>
    have small := byte.toNat_lt
    have last : (byte.toNat + 256 * ofLittle rest) % 256 = byte.toNat := by omega
    have others : (byte.toNat + 256 * ofLittle rest) / 256 = ofLittle rest := by omega
    rw [ofLittle, List.length_cons, toLittle, last, others, ih, UInt8.ofNat_toNat]

theorem ofLittle_toLittle (width number : Nat) :
    ofLittle (toLittle width number) = number % 256 ^ width := by
  induction width generalizing number with
  | zero => simp [toLittle, ofLittle, Nat.mod_one]
  | succ width ih =>
    have small : number % 256 % 2 ^ 8 = number % 256 := by omega
    rw [toLittle, ofLittle, ih, UInt8.toNat_ofNat', small, Nat.pow_succ', Nat.mod_mul]

namespace ByteOrder

@[simp]
theorem length_bytes (order : ByteOrder) (width number : Nat) :
    (order.bytes width number).length = width := by
  rw [bytes, length_arrange, length_toLittle]

/-- Reading undoes writing for a number that fits. -/
theorem number_bytes (order : ByteOrder) {width number : Nat} (fits : number < 256 ^ width) :
    order.number (order.bytes width number) = number := by
  rw [ByteOrder.number, ByteOrder.bytes, arrange_arrange, ofLittle_toLittle,
    Nat.mod_eq_of_lt fits]

/-- Writing the number of some bytes gives the bytes back. -/
theorem bytes_number (order : ByteOrder) (bytes : List UInt8) :
    order.bytes bytes.length (order.number bytes) = bytes := by
  rw [ByteOrder.bytes, number, ← length_arrange order bytes, toLittle_ofLittle, arrange_arrange]

end ByteOrder

end MapIngest.Sensor
