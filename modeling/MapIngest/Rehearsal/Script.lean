import MapIngest.Engine.Snapshot

/-!
# Scripts

In a rehearsal the outside components are played by stand-ins that follow a
script.  A script says with which faults and values the calls of an engine are
answered.  It is read from a mapping whose entries are all optional: maps are
not serialized, files are written and read successfully, and nothing fails,
unless the script says so.
-/

namespace MapIngest.Rehearsal

/-- Read a fault that a script asks for: its kind and its text. -/
def readFault (fault : Value) : Fault :=
  match fault.field? "type", fault.field? "msg" with
  | some (.text kind), some (.text content) => .raised (Kind.named kind) content
  | some (.text kind), _ => .raised (Kind.named kind) ""
  | _, _ => .raised .runtime ""

/-- Read a fault, if there is one. -/
def readFault? : Option Value → Option Fault
  | some (.mapping entries) => some (readFault (.mapping entries))
  | _ => none

/-- The text of a field, or a text in its place. -/
def textField (fields : Value) (name : String) (otherwise : String) : String :=
  match fields.field? name with
  | some (.text content) => content
  | _ => otherwise

/-- Read a map that an engine is to hand out, if there is one. -/
def readSnapshot? (binary : Bool) : Option Value → Except Fault (Option Snapshot)
  | some (.mapping entries) => do
    let fields : Value := .mapping entries
    let data ← (← fields.field "data").toBytes
    return some {
      identifier := textField fields "map_id" mapIdentifier
      binary := (fields.field? "binary").getD (.bool binary)
      resolution := ← fields.field "resolution"
      data := data
      frame := textField fields "frame_id" "" }
  | _ => .ok none

/-- How the calls of an engine are answered. -/
structure Script where
  /-- The calls that fail, by name. -/
  faults : Value := .mapping []
  saved : Value := .bool true
  loaded : Value := .bool true
  binaryMap : Option Value := none
  fullMap : Option Value := none

namespace Script

/-- Read a script. -/
def ofValue (script : Value) : Script where
  faults := (script.field? "raise").getD (.mapping [])
  saved := (script.field? "write_octomap_to_file").getD (.bool true)
  loaded := (script.field? "load_octomap_from_file").getD (.bool true)
  binaryMap := script.field? "get_octomap_binary_msg"
  fullMap := script.field? "get_octomap_full_msg"

/-- The fault with which a call fails, if it does. -/
def fault? (script : Script) (call : String) : Option Fault :=
  readFault? (script.faults.field? call)

end Script

end MapIngest.Rehearsal
