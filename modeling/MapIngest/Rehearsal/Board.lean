import MapIngest.Node.Bus

/-!
# Keeping what is published

The board of a rehearsal keeps everything that is published on it, in order,
and so does its bus.
-/

namespace MapIngest.Rehearsal

/-- The state of the board: what was published so far. -/
structure Board where
  published : List Publication := []

/-- The board takes every publication. -/
def Board.publications : PublicationBoard Board where
  publish publication := fun board =>
    (.ok (), { published := board.published ++ [publication] })

/-- The state of the bus: the messages so far with their topics. -/
structure Traffic where
  sent : List (Node.Output × Node.Message) := []

/-- The bus takes every message. -/
def Traffic.bus : Node.Bus Traffic where
  send output message := fun traffic =>
    (.ok (), { sent := traffic.sent ++ [(output, message)] })

end MapIngest.Rehearsal
