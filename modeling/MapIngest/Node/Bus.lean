import MapIngest.Coordinator.Basic
import MapIngest.Node.Endpoint
import MapIngest.Transform.Stamp

/-!
# Publishing on topics

A node publishes messages on its topics over a bus, which is known by one
call.  Maps are stamped with the time of the node's clock when they are turned
into messages; markers are passed on as they are.

The clock and the bus together are a board for the publications of the
coordinator.
-/

namespace MapIngest.Node

open Ingest

/-- A message on one of the topics. -/
inductive Message where
  | markers (markers : Value)
  | map (map : MapMessage)
  /-- A status report, as one record of named entries. -/
  | status (report : Mapping)

/-- The calls of a bus with state of type `ω`. -/
structure Bus (ω : Type) where
  send : Output → Message → Call ω Unit

/-- The time of the node: seconds and nanoseconds. -/
structure Clock where
  seconds : Int := 0
  nanoseconds : Int := 0
deriving DecidableEq, Repr

namespace Clock

/-- The time as the stamp of a message. -/
def stamp (clock : Clock) : Value :=
  .mapping [(.text "sec", .int clock.seconds), (.text "nanosec", .int clock.nanoseconds)]

/-- The time in seconds. -/
def reading (clock : Clock) : Except Fault ClockReading := do
  let seconds ← (Value.int clock.seconds).toFloat
  let nanoseconds ← (Value.int clock.nanoseconds).toFloat
  return .real (seconds + nanoseconds / 1e9)

end Clock

/-- A clock and a bus. -/
structure Outbox (ω : Type) where
  clock : Clock := {}
  bus : ω

namespace Outbox

variable {ω : Type}

/-- Send a message. -/
def send (bus : Bus ω) (output : Output) (message : Message) : Call (Outbox ω) Unit :=
  fun outbox =>
    let (outcome, after) := bus.send output message outbox.bus
    (outcome, { outbox with bus := after })

/-- Turn a map into a message and send it. -/
def sendMap (bus : Bus ω) (output : Output) (snapshot : Snapshot) : Call (Outbox ω) Unit :=
  fun outbox =>
    match snapshot.toMessage outbox.clock.stamp with
    | .ok message => send bus output (.map message) outbox
    | .error fault => (.error fault, outbox)

/-- Send a publication on its topic. -/
def publish (bus : Bus ω) : Publication → Call (Outbox ω) Unit
  | .occupiedMarkers markers => send bus .occupiedMarkers (.markers markers)
  | .freeMarkers markers => send bus .freeMarkers (.markers markers)
  | .binaryMap snapshot => sendMap bus .binaryMap snapshot
  | .fullMap snapshot => sendMap bus .fullMap snapshot

/-- The clock and the bus as a board. -/
def board (bus : Bus ω) : PublicationBoard (Outbox ω) where
  publish := publish bus

end Outbox

end MapIngest.Node
