import HealthMonitor.Reporter

/-!
# A patient reporter

Puts up with a number of failures, timeouts and completed cycles before it
stops the run, and counts each kind by itself.
-/

namespace HealthMonitor

/-- From which failure, timeout and cycle on the run is stopped; 0 for never. -/
structure Patience where
  acceptStart : Bool := true
  haIntegrated : Bool := false
  failures : Nat := 0
  timeouts : Nat := 0
  cycles : Nat := 0
  deriving DecidableEq, Repr, Inhabited

/-- How many failures, timeouts and cycles there were. -/
structure PatientReporter where
  failures : Nat := 0
  timeouts : Nat := 0
  cycles : Nat := 0
  deriving DecidableEq, Repr, Inhabited

namespace PatientReporter

/-- Whether the `count`-th of something is one too many. -/
def exhausted (limit count : Nat) : Bool :=
  limit != 0 && decide (limit ≤ count)

def react (patience : Patience) (reporter : PatientReporter) :
    Callback → Verdict × PatientReporter
  | .start .. => (.ofStop !patience.acceptStart, reporter)
  | .failure _ =>
      (.ofStop (exhausted patience.failures (reporter.failures + 1)),
        { reporter with failures := reporter.failures + 1 })
  | .timedOut .. =>
      (.ofStop (exhausted patience.timeouts (reporter.timeouts + 1)),
        { reporter with timeouts := reporter.timeouts + 1 })
  | .cycle =>
      (.ofStop (exhausted patience.cycles (reporter.cycles + 1)),
        { reporter with cycles := reporter.cycles + 1 })
  | _ => (.proceed, reporter)

def reporter (patience : Patience) : Reporter PatientReporter where
  react := react patience
  haIntegrated := patience.haIntegrated

end PatientReporter

end HealthMonitor
