import MapIngest.Value.Conversion

/-!
# Stamps

A transform buffer is asked for the pose at a number of nanoseconds, where
zero asks for the latest pose.  An observation may carry no stamp, a number of
nanoseconds, or a message with seconds and nanoseconds.
-/

namespace MapIngest.Transform

/-- The nanoseconds in a second. -/
def nanosecondsPerSecond : Int := 10 ^ 9

/-- The nanoseconds of a point in time given in seconds and nanoseconds. -/
def instant (seconds nanoseconds : Int) : Int :=
  seconds * nanosecondsPerSecond + nanoseconds

/-- The number of nanoseconds that asks for the latest pose. -/
def latest : Int := 0

/-- Whether a stamp is a number of nanoseconds already. -/
def isInstant : Value → Bool
  | .int _ => true
  | _ => false

/-- The nanoseconds of a stamp. -/
def nanosecondsOf : Value → Except Fault Int
  | .null => .ok latest
  | .int nanoseconds => .ok nanoseconds
  | message => do
    let seconds ← message.field "sec"
    let nanoseconds ← message.field "nanosec"
    return instant (← seconds.toInteger) (← nanoseconds.toInteger)

@[simp]
theorem nanosecondsOf_null : nanosecondsOf .null = .ok latest := rfl

@[simp]
theorem nanosecondsOf_int (nanoseconds : Int) :
    nanosecondsOf (.int nanoseconds) = .ok nanoseconds := rfl

end MapIngest.Transform
