import HealthMonitor.Files
import HealthMonitor.Settings.Section
import HealthMonitor.Timing
import HealthMonitor.Toml.Reader

/-!
# Settings of a monitor

What a settings file says: about the monitor itself, its reporter, the probes
of its service and the dependencies of that.  Durations are kept as they are
written until they are needed; only the timing of the monitor is checked at
once, so settings that were read have a valid one.
-/

namespace HealthMonitor

inductive ReporterKind where
  | log
  | rest
  deriving DecidableEq, Repr, Inhabited

namespace ReporterKind

def text : ReporterKind → String
  | log => "log"
  | rest => "rest"

def ofText? : String → Option ReporterKind
  | "log" => some log
  | "rest" => some rest
  | _ => none

end ReporterKind

structure MonitorSettings where
  name : String
  description : Option String := none
  probeInterval : Option String := none
  reportInterval : Option String := none
  probeTimeout : Option String := none
  bootstrapLimit : Option String := none
  policy : Option SafeModePolicy := none
  deriving DecidableEq, Repr

structure ReporterSettings where
  kind : ReporterKind := .log
  exitOnFailure : Option Bool := none
  bind : Option String := none
  history : Option Nat := none
  deriving DecidableEq, Repr

structure PortSettings where
  host : Option String := none
  port : Nat
  connectTimeout : Option String := none
  deriving DecidableEq, Repr

structure PidSettings where
  file : String
  deriving DecidableEq, Repr

structure HttpSettings where
  url : String
  minStatus : Option Nat := none
  maxStatus : Option Nat := none
  timeout : Option String := none
  deriving DecidableEq, Repr

structure ListDirSettings where
  path : String
  deriving DecidableEq, Repr

structure SafeModeSettings where
  url : String
  timeout : Option String := none
  deriving DecidableEq, Repr

structure ProbeSettings where
  port : Option PortSettings := none
  pid : Option PidSettings := none
  http : Option HttpSettings := none
  listDir : Option ListDirSettings := none
  deriving DecidableEq, Repr

structure DependencySettings where
  safeMode : Option SafeModeSettings := none
  deriving DecidableEq, Repr

structure Settings where
  monitor : MonitorSettings
  reporter : ReporterSettings := {}
  probes : ProbeSettings := {}
  dependencies : DependencySettings := {}
  deriving DecidableEq, Repr

/-! ## Reading the sections -/

def MonitorSettings.ofToml? (value : Toml) : Option MonitorSettings := do
  let fields ← Section.ofToml? value
  return {
    name := ← fields.required 0 "name" Toml.string?
    description := ← fields.optional 1 "description" Toml.string?
    probeInterval := ← fields.optional 2 "probe_interval" Toml.string?
    reportInterval := ← fields.optional 3 "report_interval" Toml.string?
    probeTimeout := ← fields.optional 4 "probe_timeout" Toml.string?
    bootstrapLimit := ← fields.optional 5 "bootstrap_timeout" Toml.string?
    policy := ← fields.optional 6 "safe_mode_policy" (Toml.choice? SafeModePolicy.ofText?) }

def ReporterSettings.ofToml? (value : Toml) : Option ReporterSettings := do
  let fields ← Section.ofToml? value
  return {
    kind := ← fields.defaulted 0 "kind" (Toml.choice? ReporterKind.ofText?) .log
    exitOnFailure := ← fields.optional 1 "exit_on_probe_failure" Toml.boolean?
    bind := ← fields.optional 2 "bind" Toml.string?
    history := ← fields.optional 3 "history" Toml.word64? }

def PortSettings.ofToml? (value : Toml) : Option PortSettings := do
  let fields ← Section.ofToml? value
  return {
    host := ← fields.optional 0 "host" Toml.string?
    port := ← fields.required 1 "port" Toml.word16?
    connectTimeout := ← fields.optional 2 "connect_timeout" Toml.string? }

def PidSettings.ofToml? (value : Toml) : Option PidSettings := do
  let fields ← Section.ofToml? value
  return { file := ← fields.required 0 "pid_file" Toml.string? }

def HttpSettings.ofToml? (value : Toml) : Option HttpSettings := do
  let fields ← Section.ofToml? value
  return {
    url := ← fields.required 0 "url" Toml.string?
    minStatus := ← fields.optional 1 "min_status" Toml.word16?
    maxStatus := ← fields.optional 2 "max_status" Toml.word16?
    timeout := ← fields.optional 3 "timeout" Toml.string? }

def ListDirSettings.ofToml? (value : Toml) : Option ListDirSettings := do
  let fields ← Section.ofToml? value
  return { path := ← fields.required 0 "path" Toml.string? }

def SafeModeSettings.ofToml? (value : Toml) : Option SafeModeSettings := do
  let fields ← Section.ofToml? value
  return {
    url := ← fields.required 0 "url" Toml.string?
    timeout := ← fields.optional 1 "timeout" Toml.string? }

def ProbeSettings.ofToml? (value : Toml) : Option ProbeSettings := do
  let fields ← Section.ofToml? value
  return {
    port := ← fields.optional 0 "port" PortSettings.ofToml?
    pid := ← fields.optional 1 "pid" PidSettings.ofToml?
    http := ← fields.optional 2 "http" HttpSettings.ofToml?
    listDir := ← fields.optional 3 "list_dir" ListDirSettings.ofToml? }

def DependencySettings.ofToml? (value : Toml) : Option DependencySettings := do
  let fields ← Section.ofToml? value
  return { safeMode := ← fields.optional 0 "safe_mode" SafeModeSettings.ofToml? }

namespace Settings

/-- The settings in the table of a whole file. -/
def ofToml? (value : Toml) : Option Settings := do
  let fields ← Section.ofToml? value
  return {
    monitor := ← fields.required 0 "monitor" MonitorSettings.ofToml?
    reporter := ← fields.defaulted 1 "reporter" ReporterSettings.ofToml? {}
    probes := ← fields.defaulted 2 "probes" ProbeSettings.ofToml? {}
    dependencies := ← fields.defaulted 3 "dependencies" DependencySettings.ofToml? {} }

end Settings

/-- The timing that the settings ask for, with defaults for what is left out. -/
def MonitorSettings.timing (settings : MonitorSettings) : Except SettingsError Timing := do
  let defaults : Timing := {}
  let probeInterval ←
    durationSetting "probe_interval" settings.probeInterval defaults.probeInterval
  let reportInterval ←
    durationSetting "report_interval" settings.reportInterval defaults.reportInterval
  let probeTimeout ←
    durationSetting "probe_timeout" settings.probeTimeout defaults.probeTimeout
  let bootstrapLimit ← limitSetting "bootstrap_timeout" settings.bootstrapLimit
  let timing : Timing :=
    { probeInterval, reportInterval, probeTimeout, bootstrapLimit
      policy := settings.policy.getD defaults.policy }
  timing.validate
  return timing

namespace Settings

def timing (settings : Settings) : Except SettingsError Timing :=
  settings.monitor.timing

/-- The settings that a text writes, with a timing that a monitor runs with. -/
def ofText (text : String) : Except SettingsError Settings :=
  match (Toml.ofText? text).bind ofToml? with
  | none => .error .malformed
  | some settings => settings.timing.map fun _ => settings

/-- The settings in a file that was read, or why it could not be. -/
def ofFile (path : String) (content : Except FileError String) :
    Except SettingsError Settings :=
  match content with
  | .error error => .error (.unreadable path error.text)
  | .ok text => ofText text

end Settings

end HealthMonitor
