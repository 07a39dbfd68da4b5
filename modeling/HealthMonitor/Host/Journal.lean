import HealthMonitor.Reporter.Event
import Std.Time

/-!
# The log on standard output

One line for each event: the time, the level, the message and the fields.
-/

namespace HealthMonitor.Host

/-- The line that is written for an event. -/
def lineOf (time : String) (event : LogEvent) : String :=
  let fields := event.fields.map fun (name, value) => name ++ "=" ++ value
  " ".intercalate (time :: event.level.text :: event.message :: fields)

/-- Writes an event to standard output. -/
def write (event : LogEvent) : IO Unit := do
  let zone := Std.Time.TimeZone.ZoneRules.UTC
  let time := Std.Time.DateTime.ofTimestamp (← Std.Time.Timestamp.now) zone
  let out ← IO.getStdout
  out.putStrLn (lineOf (time.format "uuuu-MM-dd'T'HH:mm:ss.SSSSSS'Z'") event)
  out.flush

end HealthMonitor.Host
