import MapIngest.Engine.Snapshot
import MapIngest.Proofs.Fallible

/-!
# Maps survive in their messages

The message of a snapshot spells out its bytes as signed numbers, whose residues are the
bytes again.  So a snapshot whose flag and resolution have their declared types can be
read back from its message, and two of them with one message are the same.
-/

namespace MapIngest

/-! ## Signed bytes -/

theorem signedByte_bounds (byte : UInt8) : -128 ≤ signedByte byte ∧ signedByte byte < 128 := by
  have small := byte.toNat_lt
  rw [signedByte]
  split
  · omega
  · omega

theorem signedByte_emod (byte : UInt8) : signedByte byte % 256 = byte.toNat := by
  have small := byte.toNat_lt
  rw [signedByte]
  split
  · omega
  · omega

theorem ofInt_signedByte (byte : UInt8) : UInt8.ofInt (signedByte byte) = byte := by
  have residue : (signedByte byte % 2 ^ 8).toNat = byte.toNat := by
    rw [show (2 : Int) ^ 8 = 256 from rfl, signedByte_emod, Int.toNat_natCast]
  rw [UInt8.ofInt, residue, UInt8.ofNat_toNat]

/-! ## Snapshots and their messages -/

/-- Another snapshot is the same map, expressed in a frame. -/
structure Snapshot.InFrame (given : Snapshot) (frame : String) (sent : Snapshot) : Prop where
  identifier : sent.identifier = given.identifier
  binary : sent.binary = given.binary
  resolution : sent.resolution = given.resolution
  data : sent.data = given.data
  frame : sent.frame = frame

theorem Snapshot.inFrame_iff {given sent : Snapshot} {frame : String} :
    given.InFrame frame sent ↔ sent = given.stamped frame := by
  constructor
  · intro same
    rcases sent with ⟨identifier, binary, resolution, data, other⟩
    obtain ⟨rfl, rfl, rfl, rfl, rfl⟩ := same
    rfl
  · rintro rfl
    exact ⟨rfl, rfl, rfl, rfl, rfl⟩

/-- The flag and the resolution of a snapshot have their declared types. -/
structure Snapshot.Typed (snapshot : Snapshot) : Prop where
  binary : ∃ flag, snapshot.binary = .bool flag
  resolution : ∃ number, snapshot.resolution = .float number

/-- A message says what a snapshot says, with its bytes as signed numbers. -/
structure MapMessage.Conveys (message : MapMessage) (snapshot : Snapshot) (stamp : Value) :
    Prop where
  frame : message.frame = snapshot.frame
  stamp : message.stamp = stamp
  binary : message.binary = snapshot.binary.isTruthy
  identifier : message.identifier = snapshot.identifier
  resolution : snapshot.resolution.toFloat = .ok message.resolution
  length : message.data.length = snapshot.data.length
  signed : ∀ number ∈ message.data, -128 ≤ number ∧ number < 128
  residues : message.data.map (· % 256) = snapshot.data.map fun byte => (byte.toNat : Int)

/-- The snapshot that a message is read as. -/
def MapMessage.snapshot (message : MapMessage) : Snapshot where
  identifier := message.identifier
  binary := .bool message.binary
  resolution := .float message.resolution
  data := message.data.map UInt8.ofInt
  frame := message.frame

namespace Snapshot

variable {snapshot : Snapshot} {stamp : Value} {message : MapMessage}

theorem toMessage_eq_ok_iff :
    snapshot.toMessage stamp = .ok message ↔
      ∃ resolution, snapshot.resolution.toFloat = .ok resolution ∧
        message = ⟨snapshot.frame, stamp, snapshot.binary.isTruthy, snapshot.identifier,
          resolution, snapshot.data.map signedByte⟩ := by
  rw [toMessage, bind_eq_ok]
  constructor
  · rintro ⟨resolution, read, built⟩
    exact ⟨resolution, read, (Except.ok.inj built).symm⟩
  · rintro ⟨resolution, read, rfl⟩
    exact ⟨resolution, read, rfl⟩

theorem Typed.toMessage_returns (typed : snapshot.Typed) (stamp : Value) :
    ∃ message, snapshot.toMessage stamp = .ok message := by
  rcases typed.resolution with ⟨number, declared⟩
  refine ⟨_, toMessage_eq_ok_iff.mpr ⟨number, ?_, rfl⟩⟩
  rw [declared]
  rfl

theorem conveys_toMessage (returned : snapshot.toMessage stamp = .ok message) :
    message.Conveys snapshot stamp := by
  obtain ⟨resolution, read, rfl⟩ := toMessage_eq_ok_iff.mp returned
  refine ⟨rfl, rfl, rfl, rfl, read, List.length_map _, ?_, ?_⟩
  · intro number member
    rcases List.mem_map.mp member with ⟨byte, -, rfl⟩
    exact signedByte_bounds byte
  · rw [List.map_map]
    apply List.map_congr_left
    intro byte _
    exact signedByte_emod byte

/-- A message is read as the snapshot that it was made of. -/
theorem Typed.snapshot_toMessage (typed : snapshot.Typed)
    (returned : snapshot.toMessage stamp = .ok message) : message.snapshot = snapshot := by
  rcases snapshot with ⟨identifier, binary, resolution, data, frame⟩
  obtain ⟨⟨flag, rfl⟩, ⟨number, rfl⟩⟩ := typed
  obtain ⟨_, read, rfl⟩ := toMessage_eq_ok_iff.mp returned
  obtain rfl := Except.ok.inj read
  have bytes : (data.map signedByte).map UInt8.ofInt = data := by
    rw [List.map_map]
    exact List.map_id'' ofInt_signedByte data
  rw [MapMessage.snapshot, bytes]
  rfl

end Snapshot

end MapIngest
