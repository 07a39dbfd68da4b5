import HealthMonitor.Reporter.Event

/-!
# The log reporter

Writes every callback but a completed cycle to the log, under the name of the
service it was started for.  A failure stops the run if the reporter is told
to exit on failures; nothing else does.
-/

namespace HealthMonitor

structure LogReporter where
  service : String := ""
  /-- The events written so far, the newest first. -/
  events : List LogEvent := []
  deriving DecidableEq, Repr, Inhabited

namespace LogReporter

/-- What is written for a callback, to the log of `service`. -/
def event? (service : String) : Callback → Option LogEvent
  | .start name description =>
      some ⟨.info, "started reporting", [("service", name), ("description", description)]⟩
  | .unregister => some ⟨.info, "stopped reporting", [("service", service)]⟩
  | .phase phase =>
      some ⟨.info, "probing process changed phase",
        [("service", service), ("phase", phase.text)]⟩
  | .booted status =>
      some ⟨.info, "probe booted", [("service", service), ("status", status.text)]⟩
  | .result phase status =>
      some ⟨.debug, "probe result",
        [("service", service), ("phase", phase.text), ("status", status.text)]⟩
  | .heartbeat status =>
      some ⟨.info, "heartbeat", [("service", service), ("status", status.text)]⟩
  | .failure status =>
      some ⟨.warn, "probe failure", [("service", service), ("failure", status.failureText)]⟩
  | .timedOut phase probe last now =>
      some ⟨.error, timeoutText probe last now, [("service", service), ("phase", phase.text)]⟩
  | .cycle => none

/-- A start names the service. -/
def rename (reporter : LogReporter) : Callback → LogReporter
  | .start name _ => { reporter with service := name }
  | _ => reporter

def write (reporter : LogReporter) (callback : Callback) : LogReporter :=
  { reporter.rename callback with
    events := (event? reporter.service callback).toList ++ reporter.events }

def verdict (exitOnFailure : Bool) : Callback → Verdict
  | .failure _ => .ofStop exitOnFailure
  | _ => .proceed

def reporter (exitOnFailure : Bool) : Reporter LogReporter where
  react state callback := (verdict exitOnFailure callback, state.write callback)

/-- The events written so far, the oldest first, and the reporter without them. -/
def takeEvents (reporter : LogReporter) : List LogEvent × LogReporter :=
  (reporter.events.reverse, { reporter with events := [] })

end LogReporter

end HealthMonitor
