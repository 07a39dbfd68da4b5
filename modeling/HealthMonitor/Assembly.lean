import HealthMonitor.Lifecycle
import HealthMonitor.Reporter.Any
import HealthMonitor.Reporter.Log
import HealthMonitor.Reporter.Rest
import HealthMonitor.Settings
import HealthMonitor.Site

/-!
# From settings to a monitor

The targets and the reporter that settings describe, and the run of a monitor
made of them.  All settings are accepted before anything is prepared.
-/

namespace HealthMonitor

/-- A duration of a probe's section, or the timeout of the monitor. -/
def timeoutSetting (key : String) (value : Option String) (timing : Timing) :
    Except CommandError Nat :=
  (durationSetting key value timing.probeTimeout).mapError .settings

/-- The host that is meant where none is given. -/
def defaultHost : String := "localhost"

def PortSettings.target (settings : PortSettings) (timing : Timing) :
    Except CommandError Target := do
  let connectTimeout ←
    timeoutSetting "probes.port.connect_timeout" settings.connectTimeout timing
  return .port { host := settings.host.getD defaultHost, port := settings.port, connectTimeout }

def PidSettings.target (settings : PidSettings) : Target :=
  .pid { file := settings.file }

/-- The accepted range; each end has its own default. -/
def HttpSettings.accept (settings : HttpSettings) : StatusRange :=
  let defaults : StatusRange := {}
  { min := settings.minStatus.getD defaults.min, max := settings.maxStatus.getD defaults.max }

def HttpSettings.target (settings : HttpSettings) (timing : Timing) :
    Except CommandError Target := do
  let timeout ← timeoutSetting "probes.http.timeout" settings.timeout timing
  let probe ← (HttpProbe.ofUrl settings.url settings.accept timeout).mapError .probe
  return .http probe

def ListDirSettings.target (settings : ListDirSettings) : Target :=
  .listDir { path := settings.path }

def SafeModeSettings.target (settings : SafeModeSettings) (timing : Timing) :
    Except CommandError Target := do
  let timeout ← timeoutSetting "dependencies.safe_mode.timeout" settings.timeout timing
  let probe ← (SafeModeProbe.ofUrl settings.url timeout).mapError .probe
  return .safeMode probe

/-- The target of a section, if the section is there. -/
def targetOf {α : Type} (settings : Option α) (target : α → Except CommandError Target) :
    Except CommandError (List Target) :=
  match settings with
  | some settings => (target settings).map ([·])
  | none => .ok []

/-- The targets of a service, in the order in which they are pinged. -/
def ProbeSettings.targets (settings : ProbeSettings) (timing : Timing) :
    Except CommandError (List Target) := do
  let port ← targetOf settings.port fun port => port.target timing
  let pid ← targetOf settings.pid fun pid => .ok pid.target
  let http ← targetOf settings.http fun http => http.target timing
  let listDir ← targetOf settings.listDir fun listDir => .ok listDir.target
  return port ++ pid ++ http ++ listDir

/-- The targets that a service depends on. -/
def DependencySettings.targets (settings : DependencySettings) (timing : Timing) :
    Except CommandError (List Target) :=
  targetOf settings.safeMode fun safeMode => safeMode.target timing

namespace ReporterSettings

/-- Where the status server listens unless it is told otherwise. -/
def defaultBind : String := "0.0.0.0:50088"

/-- How many results the status server keeps unless it is told otherwise. -/
def defaultHistory : Nat := 512

/-- The reporter of these settings, in a network where `listen` says what comes
of listening on an address. -/
def reporter (settings : ReporterSettings) (listen : String → Except String String) :
    AnyReporter :=
  let exitOnFailure := settings.exitOnFailure.getD true
  match settings.kind with
  | .log =>
      { reporter := LogReporter.reporter exitOnFailure
        initial := {}
        takeEvents := LogReporter.takeEvents }
  | .rest =>
      let bind := settings.bind.getD defaultBind
      { reporter := RestReporter.reporter { bind, listen := listen bind, exitOnFailure }
        initial := { board := { capacity := settings.history.getD defaultHistory } }
        takeEvents := RestReporter.takeEvents
        board? := fun state => some state.board }

end ReporterSettings

/-- A monitor before it runs: its name, its targets and its timing. -/
structure Plan where
  name : String
  dependencies : List Target := []
  primaries : List Target
  timing : Timing
  deriving DecidableEq, Repr

namespace Plan

def monitor {σ : Type} (plan : Plan) (reporter : Reporter σ) : Monitor σ where
  name := plan.name
  dependencies := plan.dependencies.map Target.probe
  primaries := plan.primaries.map Target.probe
  timing := plan.timing
  reporter := reporter

def world (plan : Plan) (site : Site) : World :=
  site.world plan.timing.probeTimeout plan.dependencies plan.primaries

/-- The exit of a monitor that lives through its whole life at a site. -/
def drive (plan : Plan) (reporter : AnyReporter) (site : Site) (signal : ShutdownSignal)
    (sigterm : Option Nat) (fuel : Nat) : Except CommandError (Option RunExit) :=
  let monitor := plan.monitor reporter.reporter
  (monitor.drive (plan.world site) signal sigterm fuel reporter.initial).1.mapError .monitor

end Plan

namespace Settings

/-- The plan of the settings in the file `path`, under another name if one is
given.  The targets of the service are settled first, and there has to be at
least one. -/
def plan (settings : Settings) (path : String) (name : Option String) :
    Except CommandError Plan := do
  let timing ← settings.timing.mapError .settings
  let primaries ← settings.probes.targets timing
  if primaries.isEmpty then .error (.noProbes path)
  let dependencies ← settings.dependencies.targets timing
  return { name := name.getD settings.monitor.name, dependencies, primaries, timing }

end Settings

end HealthMonitor
