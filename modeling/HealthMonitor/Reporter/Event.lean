import HealthMonitor.Reporter

/-!
# Log events

What a reporter writes to the log: a level, a message and named fields.
-/

namespace HealthMonitor

inductive LogLevel where
  | debug
  | info
  | warn
  | error
  deriving DecidableEq, Repr

def LogLevel.text : LogLevel → String
  | debug => "DEBUG"
  | info => "INFO"
  | warn => "WARN"
  | error => "ERROR"

structure LogEvent where
  level : LogLevel
  message : String
  fields : List (String × String) := []
  deriving DecidableEq, Repr

end HealthMonitor
