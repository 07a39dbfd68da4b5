import HealthMonitor.Reporter.Event

/-!
# The reporter of a status check

Stops at the first failure, at the first timeout, and as soon as all probes
are live: whatever comes first answers the question.
-/

namespace HealthMonitor

structure OneShotReporter where
  /-- The events written so far, the newest first. -/
  events : List LogEvent := []
  deriving DecidableEq, Repr, Inhabited

namespace OneShotReporter

def event? : Callback → Option LogEvent
  | .failure status => some ⟨.warn, "status check failed", [("failure", status.failureText)]⟩
  | .timedOut phase probe _ _ =>
      some ⟨.error, "timeout of probe", [("probe", probe), ("phase", phase.text)]⟩
  | .cycle => some ⟨.info, "probes are all live", []⟩
  | _ => none

def verdict : Callback → Verdict
  | .failure _ | .timedOut .. | .cycle => .stop
  | _ => .proceed

def reporter : Reporter OneShotReporter where
  react state callback :=
    (verdict callback, { state with events := (event? callback).toList ++ state.events })

/-- The events written so far, the oldest first, and the reporter without them. -/
def takeEvents (reporter : OneShotReporter) : List LogEvent × OneShotReporter :=
  (reporter.events.reverse, { reporter with events := [] })

end OneShotReporter

end HealthMonitor
