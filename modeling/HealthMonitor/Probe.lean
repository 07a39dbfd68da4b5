import HealthMonitor.Error
import HealthMonitor.Status
import HealthMonitor.Text.Quoted

/-!
# Probes

A probe watches one target.  The monitor knows its name, whether a call that
takes too long can be cancelled, and whether its target can be in safe mode.
What its calls come to is the world's affair: each call takes some time, or
never ends, and ends in one of three ways.
-/

namespace HealthMonitor

structure Probe where
  name : String
  /-- Whether a call that outlives its timeout can be stopped. -/
  cancellable : Bool := true
  /-- Whether the target can be in safe mode. -/
  hasSafeMode : Bool := false
  deriving DecidableEq, Repr, Inhabited

/-- How a call ends. -/
inductive Ending where
  | status (status : Status)
  | abort (abort : Abort)
  /-- The call broke down with a message instead of returning. -/
  | panic (message : String)
  deriving DecidableEq, Repr

/-- One call of a probe. -/
structure Call where
  /-- How long the call takes; `none` if it never ends. -/
  takes : Option Nat := some 0
  ending : Ending
  /-- Whether the target is in safe mode, as the probe knows it after the call. -/
  safeMode : Bool := false
  deriving DecidableEq, Repr

/-- The status that stands for a call that broke down.  The number of the
task that ran it is not told. -/
def brokenCall (probe message : String) : Status :=
  .downBecause probe "probe call did not complete"
    ["task # panicked with message " ++ Text.quoted message]

/-- A place in one of the two lists of probes of a monitor. -/
inductive Position where
  | dependency (index : Nat)
  | primary (index : Nat)
  deriving DecidableEq, Repr

/-- What the probes at each position do: how preparing them goes, and what
their calls come to, counted from zero. -/
structure World where
  init : Position → Option ProbeError := fun _ => none
  call : Position → Nat → Call

/-- Whether a probe has come up.  It starts down and follows the bootstrap. -/
structure BootFlag where
  isSet : Bool := false
  deriving DecidableEq, Repr, Inhabited

namespace BootFlag

def set (_ : BootFlag) : BootFlag :=
  ⟨true⟩

def clear (_ : BootFlag) : BootFlag :=
  ⟨false⟩

/-- A bootstrap that begins takes the probe down. -/
def beginBootstrap (flag : BootFlag) : BootFlag :=
  flag.clear

/-- A bootstrap that ends has brought the probe up. -/
def endBootstrap (flag : BootFlag) : BootFlag :=
  flag.set

end BootFlag

end HealthMonitor
