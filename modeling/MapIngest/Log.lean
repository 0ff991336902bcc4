/-!
# Log records

What happens to an observation or an operation is reported as a sequence of
log records.  A record has a level and a text.  A record that may recur often
also carries the least time between two appearances; spacing records out by
that time is left to whoever receives them.
-/

namespace MapIngest

/-- The severity of a log record. -/
inductive Level where
  | info
  | warn
  | error
deriving DecidableEq

/-- The name of a level. -/
def Level.label : Level → String
  | .info => "info"
  | .warn => "warn"
  | .error => "error"

/-- One record of the log. -/
structure LogRecord where
  level : Level
  text : String
  /-- The least time between two appearances, in seconds. -/
  spacing : Option Float := none
deriving DecidableEq

namespace LogRecord

/-- A record of something that went as intended. -/
def info (text : String) : LogRecord :=
  { level := .info, text := text }

/-- A record of something that was worked around. -/
def warn (text : String) : LogRecord :=
  { level := .warn, text := text }

/-- A record of something that failed. -/
def error (text : String) : LogRecord :=
  { level := .error, text := text }

/-- The same record, to appear at most once in a span of time. -/
def every (record : LogRecord) (seconds : Float) : LogRecord :=
  { record with spacing := some seconds }

end LogRecord

end MapIngest
