import HealthMonitor.Files
import HealthMonitor.Probe

/-!
# The directory probe

Lists a directory; its target is up when that succeeds.  A listing blocks
until the file system answers, so a call cannot be cancelled.
-/

namespace HealthMonitor

structure ListDirProbe where
  path : String
  deriving DecidableEq, Repr

namespace ListDirProbe

def name (probe : ListDirProbe) : String :=
  "list " ++ probe.path

/-- What the number of entries, or the failure to list them, says about the
directory. -/
def ping (probe : ListDirProbe) : Except FileError Nat → Status
  | .ok entries => .up probe.name (toString entries ++ " entries")
  | .error error => .downBecause probe.name "listing failed" [error.text]

end ListDirProbe

end HealthMonitor
