import HealthMonitor.Assembly
import HealthMonitor.CommandLine
import HealthMonitor.Reporter.OneShot

/-!
# One-shot status checks

A status check is planned from its arguments alone.  Its monitor pings once a
second until every target is up and has been seen live, or the first fails.
-/

namespace HealthMonitor

namespace StatusCheckArgs

/-- An argument that is given: not left out, not empty and not `null`. -/
def supplied? (argument : Option String) : Option String :=
  argument.filter fun text => text != "" && text != "null"

/-- The monitor of every status check has the same name. -/
def monitorName : String := "HAStatusCheck"

/-- The pause between two passes, and between two heartbeats. -/
def interval : Nat := 1000

/-- The limit on coming up, if there is one. -/
def bootstrapLimit (args : StatusCheckArgs) : Option Nat :=
  if 0 < args.bootTimeout then some args.bootTimeout.toNat else none

def timing (args : StatusCheckArgs) : Timing where
  probeInterval := interval
  reportInterval := interval
  probeTimeout := args.timeout
  bootstrapLimit := args.bootstrapLimit
  policy := .ignoreReentry

def pidTarget (args : StatusCheckArgs) : List Target :=
  (supplied? args.pid).toList.map fun file => .pid { file }

def pathTarget (args : StatusCheckArgs) : List Target :=
  (supplied? args.path).toList.map fun path => .listDir { path }

def urlTarget (args : StatusCheckArgs) : Except CommandError (List Target) :=
  targetOf (supplied? args.url) fun url =>
    ((HttpProbe.ofUrl url {} args.timeout).mapError .probe).map .http

def primaries (args : StatusCheckArgs) : Except CommandError (List Target) :=
  args.urlTarget.map fun url => args.pidTarget ++ args.pathTarget ++ url

def dependencies (args : StatusCheckArgs) : Except CommandError (List Target) :=
  targetOf (supplied? args.waitSafeMode) fun url =>
    ((SafeModeProbe.ofUrl url args.timeout).mapError .probe).map .safeMode

/-- The plan of a check; none if all that could be checked is given as null.
One argument that could be checked has to be there at least. -/
def plan (args : StatusCheckArgs) : Except CommandError (Option Plan) := do
  if args.pid.isNone && args.path.isNone && args.url.isNone then .error .nothingToCheck
  let primaries ← args.primaries
  if primaries.isEmpty then return none
  let dependencies ← args.dependencies
  return some { name := monitorName, dependencies, primaries, timing := args.timing }

end StatusCheckArgs

/-- The reporter of every status check. -/
def statusCheckReporter : AnyReporter where
  reporter := OneShotReporter.reporter
  initial := {}
  takeEvents := OneShotReporter.takeEvents

end HealthMonitor
