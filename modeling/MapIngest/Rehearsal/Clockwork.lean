import MapIngest.Node.Startup

/-!
# Making timers

The clockwork of a rehearsal makes every timer it is asked for.  One that
counts the nanoseconds of a period refuses what is no number, and what is not
finite.
-/

namespace MapIngest.Rehearsal

/-- A clockwork that makes every timer. -/
def patientClockwork : Node.Clockwork where
  install _ := .ok ()

/-- A clockwork that turns periods into whole nanoseconds. -/
def countingClockwork : Node.Clockwork where
  install timer := (Value.float (timer.period * 1e9)).toInteger.map fun _ => ()

end MapIngest.Rehearsal
