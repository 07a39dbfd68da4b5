import HealthMonitor.Host.Session

/-!
# The command line program

Monitors a service, or checks it once, and ends with the exit code that tells
how it went.
-/

open HealthMonitor in
def main (arguments : List String) : IO UInt32 := do
  match CommandLine.ofWords false arguments with
  | .ok command => return UInt32.ofInt (← Host.run command)
  | .error .help =>
      IO.print CommandLine.usage
      return 0
  | .error error =>
      IO.eprint ("error: " ++ error.text ++ "\n\n" ++ CommandLine.usage)
      return CommandLine.usageCode
