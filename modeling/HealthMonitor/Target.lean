import HealthMonitor.Probe.Http
import HealthMonitor.Probe.ListDir
import HealthMonitor.Probe.Pid
import HealthMonitor.Probe.Port
import HealthMonitor.Probe.SafeMode

/-!
# Targets

The five kinds of things that can be watched, each with its probe.  A monitor
treats them all alike; what differs is what a target's probe is called,
whether it can be cancelled, whether it knows safe mode, and what has to be
resolved before the first ping.
-/

namespace HealthMonitor

inductive Target where
  | port (probe : PortProbe)
  | pid (probe : PidProbe)
  | http (probe : HttpProbe)
  | listDir (probe : ListDirProbe)
  | safeMode (probe : SafeModeProbe)
  deriving DecidableEq, Repr

namespace Target

def name : Target → String
  | port probe => probe.name
  | pid probe => probe.name
  | http probe => probe.name
  | listDir probe => probe.name
  | safeMode probe => probe.name

/-- Whether a call that takes too long can be stopped. -/
def cancellable : Target → Bool
  | listDir _ => false
  | _ => true

/-- Whether the target can be in safe mode. -/
def hasSafeMode : Target → Bool
  | safeMode _ => true
  | _ => false

/-- The time that the probe itself gives the network. -/
def timeout? : Target → Option Nat
  | port probe => some probe.connectTimeout
  | http probe => some probe.timeout
  | safeMode probe => some probe.timeout
  | pid _ | listDir _ => none

/-- What a monitor knows of the target. -/
def probe (target : Target) : Probe where
  name := target.name
  cancellable := target.cancellable
  hasSafeMode := target.hasSafeMode

/-- Resolves what has to be resolved before the first ping. -/
def prepare (names : Net.Names) : Target → Except ProbeError Unit
  | port probe => (probe.resolve names).map fun _ => ()
  | http probe => probe.uri.resolve names
  | safeMode probe => probe.uri.resolve names
  | pid _ | listDir _ => .ok ()

end Target

end HealthMonitor
