import HealthMonitor.Error
import HealthMonitor.Status

/-!
# How a run ends

Every finished run ends in one of six ways.  Each has a text and two exit
codes: one for a monitor and one for a one-shot status check.
-/

namespace HealthMonitor

inductive RunExit where
  | cycleCompleted
  | probeFailed (status : Status)
  | probeTimedOut (phase : Phase) (probe : String) (last : Option Status)
  | bootstrapTimedOut (phase : Phase) (probe : String) (elapsed : Nat)
      (last : Option Status)
  | shutdown
  | aborted (abort : Abort)
  deriving DecidableEq, Repr

namespace RunExit

/-- The exit code of a monitor: 0 for an end that was wanted, -2 for a service
that is not live, -1 for a run that could not go on. -/
def code : RunExit → Int
  | cycleCompleted | shutdown => 0
  | probeFailed _ | probeTimedOut .. | bootstrapTimedOut .. => -2
  | aborted _ => -1

/-- The exit code of a status check, for which a probe that does not answer
leaves the question open. -/
def statusCheckCode : RunExit → Int
  | probeTimedOut .. | bootstrapTimedOut .. => -1
  | exit => exit.code

def isFailure (exit : RunExit) : Bool :=
  exit.code != 0

def text : RunExit → String
  | cycleCompleted => "all probes live"
  | probeFailed status => status.failureText
  | probeTimedOut phase probe _ => "timeout of probe " ++ probe ++ " in phase " ++ phase.text
  | bootstrapTimedOut phase probe elapsed _ =>
      phase.text ++ " did not complete after " ++ toString elapsed ++ "ms; waiting on " ++ probe
  | shutdown => "shutdown requested"
  | aborted abort => abort.text

end RunExit

end HealthMonitor
