import MapIngest.Rehearsal.Script
import MapIngest.Transform.Buffer

/-!
# A table of transform messages

The transform buffer of a rehearsal is a table of messages, each between two
frames and at a time in nanoseconds.  A change adds entries behind those that
are there, and says with which fault each of the two questions fails, if it
does.  The first entry that matches is the answer.

Look-ups are written down with the time that they may take.
-/

namespace MapIngest.Rehearsal

/-- An entry: the frame to go to, the frame to come from, the time, and the message. -/
structure TransformEntry where
  target : String
  source : String
  nanoseconds : Int
  message : Value

/-- A look-up that was made. -/
structure TransformLookup where
  target : String
  source : String
  nanoseconds : Int
  timeout : Float

/-- The state of the buffer. -/
structure TransformTable where
  entries : List TransformEntry := []
  canFault? : Option Fault := none
  lookupFault? : Option Fault := none
  lookups : List TransformLookup := []

namespace TransformTable

/-- Find the first entry between two frames at a time. -/
def find? (table : TransformTable) (target source : String) (nanoseconds : Int) :
    Option TransformEntry :=
  table.entries.find? fun entry =>
    entry.target == target && entry.source == source && entry.nanoseconds == nanoseconds

/-- Read an entry that a change adds. -/
def readEntry? : Value → Option TransformEntry
  | .list [.text target, .text source, .int nanoseconds, message] =>
    some ⟨target, source, nanoseconds, .mapping [(.text "transform", message)]⟩
  | _ => none

/-- The entries that a change adds. -/
def added (changes : Value) : List TransformEntry :=
  match changes.field? "add" with
  | some (.list entries) => entries.filterMap readEntry?
  | _ => []

/-- Change the table. -/
def update (table : TransformTable) (changes : Value) : TransformTable :=
  { table with
    entries := table.entries ++ added changes
    canFault? := readFault? (changes.field? "can_raise")
    lookupFault? := readFault? (changes.field? "lookup_raise") }

/-- The fault of a look-up between frames that are not connected. -/
def unknown (source : String) : Fault :=
  .raised .transform ("\"" ++ source ++ "\" passed to lookupTransform does not exist")

/-- The answer to a look-up. -/
def answer (table : TransformTable) (target source : String) (nanoseconds : Int) :
    Except Fault Value :=
  match table.lookupFault?, table.find? target source nanoseconds with
  | some fault, _ => .error fault
  | none, some entry => .ok entry.message
  | none, none => .error (unknown source)

/-- Whether there is an entry. -/
def canAnswer (table : TransformTable) (target source : String) (nanoseconds : Int) :
    Except Fault Bool :=
  match table.canFault? with
  | some fault => .error fault
  | none => .ok (table.find? target source nanoseconds).isSome

/-- The table as a transform buffer. -/
def buffer : Transform.Buffer TransformTable where
  canTransform target source nanoseconds := fun table =>
    (table.canAnswer target source nanoseconds, table)
  lookup target source nanoseconds timeout := fun table =>
    (table.answer target source nanoseconds,
      { table with lookups := table.lookups ++ [⟨target, source, nanoseconds, timeout⟩] })

end TransformTable

end MapIngest.Rehearsal
