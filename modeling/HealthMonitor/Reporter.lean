import HealthMonitor.Status

/-!
# Reporters

A monitor tells its reporter everything that happens, one callback at a time.
To some callbacks the reporter has a say: it can stop the run, or refuse to
start it.  A reporter is a state and a reaction; what it answers may depend on
all it was told before.
-/

namespace HealthMonitor

/-- What a monitor tells its reporter. -/
inductive Callback where
  | start (name description : String)
  | unregister
  | phase (phase : Phase)
  | booted (status : Status)
  | result (phase : Phase) (status : Status)
  | heartbeat (status : Status)
  | failure (status : Status)
  | timedOut (phase : Phase) (probe : String) (last : Option Status) (now : Nat)
  | cycle
  deriving DecidableEq, Repr

namespace Callback

/-- Whether the monitor waits for a verdict on the callback. -/
def isAsked : Callback → Bool
  | start .. | failure .. | timedOut .. | cycle => true
  | _ => false

def isHeartbeat : Callback → Bool
  | heartbeat _ => true
  | _ => false

end Callback

/-- The reporter's say.  To a start, `stop` is a refusal. -/
inductive Verdict where
  | proceed
  | stop
  deriving DecidableEq, Repr, Inhabited

def Verdict.ofStop (stop : Bool) : Verdict :=
  if stop then .stop else .proceed

def Verdict.stops : Verdict → Bool
  | proceed => false
  | stop => true

structure Reporter (σ : Type) where
  react : σ → Callback → Verdict × σ
  /-- Whether the reporter answers to a controller that restarts services. -/
  haIntegrated : Bool := false

namespace Reporter

/-- A reporter without a state that stops where `stops` says so. -/
def stateless (stops : Callback → Bool) : Reporter Unit where
  react _ callback := (.ofStop (stops callback), ())

/-- Stops at the first failure and at nothing else. -/
def default : Reporter Unit :=
  stateless fun
    | .failure _ => true
    | _ => false

end Reporter

end HealthMonitor
