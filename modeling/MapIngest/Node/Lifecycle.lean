import MapIngest.Fault.Basic

/-!
# The life of the program

The program joins the message graph, makes the node, and serves until it is
told to stop.  Whatever happens, a node that was made is taken down and the
graph is left.  An interruption by the user is a regular end.
-/

namespace MapIngest.Node

/-- The stages of the life of the program. -/
inductive Stage where
  | joining
  | serving
  | takingDown
  | leaving
deriving DecidableEq, Repr

/-- The name of a stage. -/
def Stage.label : Stage → String
  | .joining => "init"
  | .serving => "spin"
  | .takingDown => "destroy_node"
  | .leaving => "shutdown"

/-- An interruption by the user is no failure. -/
def orInterrupted : Except Fault Unit → Except Fault Unit
  | .ok () => .ok ()
  | .error fault => if fault.kind = .interrupt then .ok () else .error fault

/-- The end of the program and the stages passed, given how making and serving ended. -/
def life {α : Type} (made : Except Fault α) (served : Except Fault Unit) :
    Except Fault Unit × List Stage :=
  match made with
  | .ok _ => (orInterrupted served, [.joining, .serving, .takingDown, .leaving])
  | .error fault => (orInterrupted (.error fault), [.joining, .leaving])

end MapIngest.Node
