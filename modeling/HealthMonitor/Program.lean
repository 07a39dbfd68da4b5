import HealthMonitor.StatusCheck

/-!
# The program

What the two commands do where they run, and the exit codes they end with.  A
check of nothing succeeds.
-/

namespace HealthMonitor

/-- Where a command runs: its files, what its probes see, what comes of
listening on an address, and when it is asked to end. -/
structure Environment where
  fileContent : String → Except FileError String
  site : Site
  listen : String → Except String String
  signal : ShutdownSignal := {}
  sigterm : Option Nat := none

/-- The settings that a file with this content holds. -/
def Settings.load (path : String) (content : Except FileError String) :
    Except CommandError Settings :=
  (Settings.ofFile path content).mapError (.loading path)

namespace Environment

/-- Monitors a service as the settings file `path` describes it.  The exit code
is missing if `fuel` steps are not enough. -/
def monitor (environment : Environment) (fuel : Nat) (path : String) (name : Option String) :
    Except CommandError (Option Int) := do
  let settings ← Settings.load path (environment.fileContent path)
  let plan ← settings.plan path name
  let exit ← plan.drive (settings.reporter.reporter environment.listen) environment.site
    environment.signal environment.sigterm fuel
  return exit.map RunExit.code

/-- Checks a service once. -/
def checkStatus (environment : Environment) (fuel : Nat) (args : StatusCheckArgs) :
    Except CommandError (Option Int) := do
  match ← args.plan with
  | none => return some 0
  | some plan =>
      let exit ← plan.drive statusCheckReporter environment.site environment.signal
        environment.sigterm fuel
      return exit.map RunExit.statusCheckCode

/-- Runs a command. -/
def run (environment : Environment) (fuel : Nat) :
    Command → Except CommandError (Option Int)
  | .monitor config name => environment.monitor fuel config name
  | .statusCheck args => environment.checkStatus fuel args

end Environment

/-- The exit code of a command that could not be carried out. -/
def failureCode : Int := -1

end HealthMonitor
