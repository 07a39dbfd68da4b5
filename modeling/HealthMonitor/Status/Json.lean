import HealthMonitor.Json.Reader
import HealthMonitor.Json.Writer
import HealthMonitor.Status

/-!
# Statuses as JSON

A status is written as an object with its fields in a fixed order; a cause or
a phase that is absent is left out.
-/

namespace HealthMonitor.Status

def toJson (status : Status) : Json :=
  let thrown := match status.thrown with
    | some cause => [("thrown", .string cause)]
    | none => []
  let phase := match status.phase with
    | some phase => [("phase", .string phase.text)]
    | none => []
  .object
    ([("probe", .string status.probe), ("success", .bool status.success),
        ("message", .string status.message)] ++
      thrown ++ [("timestamp", .number (.whole status.timestamp))] ++ phase)

def jsonText (status : Status) : String :=
  status.toJson.text

/-- The text of a member that must be a text if it is there at all. -/
def optionalText? (value : Json) (name : String) : Option (Option String) :=
  match value.child? name with
  | none => some none
  | some (.string text) => some (some text)
  | some _ => none

/-- The status that an object stands for. -/
def ofJson? (value : Json) : Option Status := do
  let .string probe ← value.child? "probe" | none
  let .bool success ← value.child? "success" | none
  let .string message ← value.child? "message" | none
  let thrown ← optionalText? value "thrown"
  let .number (.whole timestamp) ← value.child? "timestamp" | none
  let phase ← match ← optionalText? value "phase" with
    | none => some none
    | some name => (Phase.ofText? name).map some
  if timestamp < 0 then none
  else return { probe, success, message, thrown, timestamp := timestamp.toNat, phase }

def ofJsonText? (text : String) : Option Status :=
  (Json.ofText? text).bind ofJson?

end HealthMonitor.Status
