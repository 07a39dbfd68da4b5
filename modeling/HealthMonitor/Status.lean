import HealthMonitor.Age
import HealthMonitor.Phase

/-!
# Statuses

A status is what one call of a probe found out: whether its target is up,
with a message, the text of a cause if there was one, the time and the phase
it was made in.
-/

namespace HealthMonitor

structure Status where
  probe : String
  success : Bool
  message : String
  thrown : Option String := none
  timestamp : Nat := 0
  phase : Option Phase := none
  deriving DecidableEq, Repr, Inhabited

namespace Status

def up (probe message : String) : Status :=
  { probe, success := true, message }

def down (probe message : String) : Status :=
  { probe, success := false, message }

/-- The texts of an error and of the errors behind it, outermost first. -/
def causes (chain : List String) : String :=
  ": ".intercalate chain

/-- A failure with an error behind it. -/
def downBecause (probe message : String) (chain : List String) : Status :=
  { probe, success := false, message, thrown := some (causes chain) }

/-- The status marked with the phase it belongs to. -/
def inPhase (status : Status) (phase : Phase) : Status :=
  { status with phase := some phase }

def text (status : Status) : String :=
  let verb := if status.success then "succeeded" else "failed"
  let phase := match status.phase with
    | some phase => " [" ++ phase.text ++ "]"
    | none => ""
  let thrown := match status.thrown with
    | some cause => " (" ++ cause ++ ")"
    | none => ""
  status.probe ++ " " ++ verb ++ ": " ++ status.message ++ phase ++ thrown

/-- How a failed status is named where it ends a run or is logged. -/
def failureText (status : Status) : String :=
  "probe failure: " ++ status.text

/-- How long before `now` the status was made; nothing for a later one. -/
def ageAt (status : Status) (now : Nat) : Nat :=
  now - status.timestamp

@[simp]
theorem success_inPhase (status : Status) (phase : Phase) :
    (status.inPhase phase).success = status.success :=
  rfl

end Status

/-- What a reporter says about a probe that timed out. -/
def timeoutText (probe : String) (last : Option Status) (now : Nat) : String :=
  match last with
  | some status =>
      "probe " ++ probe ++ " timed out; last event seen " ++ Age.textOfWord64 (status.ageAt now) ++
        " ago: " ++ status.text
  | none => "probe " ++ probe ++ " timed out; no event ever seen"

end HealthMonitor
