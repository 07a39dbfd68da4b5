import HealthMonitor.Text.Quoted

/-!
# Errors

What can go wrong before a monitor runs: settings that cannot be read or used,
a probe whose target cannot be prepared, a reporter that refuses.  An error
has a message and may carry the errors behind it; the whole chain is shown
outermost first.
-/

namespace HealthMonitor

/-- Why settings were not accepted. -/
inductive SettingsError where
  | unreadable (path cause : String)
  | malformed
  | duration (key value : String)
  | invalid (reason : String)
  deriving DecidableEq, Repr

namespace SettingsError

/-- The messages of the error and of what is behind it. -/
def chain : SettingsError → List String
  | unreadable path cause => ["failed to read " ++ path, cause]
  | malformed => ["failed to parse config"]
  | duration key value => ["invalid duration for " ++ key ++ ": " ++ Text.quoted value]
  | invalid reason => ["invalid config: " ++ reason]

end SettingsError

/-- Why a probe cannot be set up. -/
inductive ProbeError where
  | unresolved (target reason : String)
  | io (target cause : String)
  | config (reason : String)
  deriving DecidableEq, Repr

namespace ProbeError

def chain : ProbeError → List String
  | unresolved target reason => ["cannot resolve " ++ target ++ ": " ++ reason]
  | io target cause => ["i/o error on " ++ target, cause]
  | config reason => ["invalid probe configuration: " ++ reason]

end ProbeError

/-- A probe's request to end the whole run. -/
structure Abort where
  probe : String
  reason : String
  deriving DecidableEq, Repr

def Abort.text (abort : Abort) : String :=
  "run aborted by " ++ abort.probe ++ ": " ++ abort.reason

/-- Why a monitor does not run. -/
inductive MonitorError where
  | settings (error : SettingsError)
  | probeInit (probe : String) (error : ProbeError)
  | reporterRefused (monitor : String)
  | notStarted (monitor : String)
  deriving DecidableEq, Repr

namespace MonitorError

/-- Rejected settings speak for themselves; a probe that cannot be set up is
named before its own error. -/
def chain : MonitorError → List String
  | settings error => error.chain
  | probeInit probe error => ("probe " ++ probe ++ " failed to initialise") :: error.chain
  | reporterRefused monitor => ["reporter refused to start monitoring " ++ monitor]
  | notStarted monitor => ["reporting has not been started for " ++ monitor]

end MonitorError

/-- Why a command of the program ends without a run. -/
inductive CommandError where
  /-- The settings file `path` was not accepted. -/
  | loading (path : String) (error : SettingsError)
  | settings (error : SettingsError)
  | probe (error : ProbeError)
  | monitor (error : MonitorError)
  | noProbes (path : String)
  | nothingToCheck
  deriving DecidableEq, Repr

namespace CommandError

def chain : CommandError → List String
  | loading path error => ("loading " ++ path) :: error.chain
  | settings error => error.chain
  | probe error => error.chain
  | monitor error => error.chain
  | noProbes path => [path ++ " defines no probes"]
  | nothingToCheck => ["no --pid, --url or --path supplied"]

/-- The whole chain in one line. -/
def text (error : CommandError) : String :=
  ": ".intercalate error.chain

end CommandError

end HealthMonitor
