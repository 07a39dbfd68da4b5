import HealthMonitor.Board
import HealthMonitor.Reporter.Event

/-!
# The status server reporter

Records every live result on a board and serves the board while it is
registered.  It refuses to start when it cannot listen on its address.  Only a
failure can stop the run, and only if the reporter is told to exit on
failures.
-/

namespace HealthMonitor

/-- How the reporter is set up. -/
structure RestSetup where
  bind : String
  /-- Where a server bound there listens, or why it cannot. -/
  listen : Except String String
  exitOnFailure : Bool := true

structure RestReporter where
  board : Board := {}
  /-- Where the server listens, while it does. -/
  server : Option String := none
  /-- The events written so far, the newest first. -/
  events : List LogEvent := []
  deriving DecidableEq, Repr, Inhabited

namespace RestReporter

def log (reporter : RestReporter) (event : LogEvent) : RestReporter :=
  { reporter with events := event :: reporter.events }

def start (setup : RestSetup) (reporter : RestReporter) (name : String) :
    Verdict × RestReporter :=
  match setup.listen with
  | .ok address =>
      (.proceed,
        { reporter with server := some address }.log
          ⟨.info, "status server listening", [("service", name), ("addr", address)]⟩)
  | .error cause =>
      (.stop,
        reporter.log
          ⟨.error, "failed to start status server",
            [("service", name), ("bind", setup.bind), ("error", cause)]⟩)

def stop (reporter : RestReporter) : RestReporter :=
  match reporter.server with
  | some address =>
      { reporter with server := none }.log
        ⟨.info, "status server stopped", [("addr", address)]⟩
  | none => reporter

def reporter (setup : RestSetup) : Reporter RestReporter where
  react state
    | .start name _ => state.start setup name
    | .unregister => (.proceed, state.stop)
    | .result _ status => (.proceed, { state with board := state.board.record status })
    | .failure _ => (.ofStop setup.exitOnFailure, state)
    | _ => (.proceed, state)

/-- The events written so far, the oldest first, and the reporter without them. -/
def takeEvents (reporter : RestReporter) : List LogEvent × RestReporter :=
  (reporter.events.reverse, { reporter with events := [] })

end RestReporter

end HealthMonitor
