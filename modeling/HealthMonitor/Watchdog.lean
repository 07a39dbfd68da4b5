import HealthMonitor.Moment
import HealthMonitor.Probe

/-!
# The watchdog

Every ping is raced against a timeout.  If the timer wins, a cancellable call
is stopped; any other is left running, detached, and counted as abandoned
until it returns.
-/

namespace HealthMonitor

/-- What a watched ping answers. -/
inductive PingOutcome where
  | completed (status : Status)
  | timedOut
  | aborted (abort : Abort)
  deriving DecidableEq, Repr

/-- The answer of a call that ends in time. -/
def Ending.outcome (probe : Probe) : Ending → PingOutcome
  | .status found => .completed found
  | .abort request => .aborted request
  | .panic text => .completed (brokenCall probe.name text)

/-- One ping and the call behind it. -/
structure Ping where
  position : Position
  /-- How many calls this position had before. -/
  number : Nat
  live : Bool
  started : Nat
  /-- When the ping was answered or given up. -/
  answered : Nat
  /-- The answer; `none` if a shutdown came first. -/
  outcome : Option PingOutcome
  /-- When the call begins, if it ever does. -/
  begins : Option Nat
  /-- When the call returns, if it ever does. -/
  returns : Option Nat
  deriving DecidableEq, Repr

namespace Ping

/-- Whether the call has begun. -/
def hasBegun (ping : Ping) (now : Moment) : Bool :=
  ping.begins.any now.reached

/-- Whether the call has returned. -/
def hasReturned (ping : Ping) (now : Moment) : Bool :=
  ping.returns.any now.reached

end Ping

/-- A watched ping: its answer, and what becomes of the call. -/
structure Watch where
  outcome : PingOutcome
  /-- When the answer is there. -/
  answered : Moment
  begins : Option Nat
  returns : Option Nat
  deriving DecidableEq, Repr

structure Watchdog where
  timeout : Nat
  /-- How many calls were given up, could not be stopped, and still run. -/
  abandoned : Nat := 0
  /-- When each of the calls left running returns, if it ever does. -/
  detached : List (Option Nat) := []
  deriving DecidableEq, Repr, Inhabited

namespace Watchdog

/-- A call that outlives the timeout.  With no time at all a cancellable call
is stopped before it begins. -/
def late (timeout : Nat) (now : Moment) (probe : Probe) (call : Call) : Watch :=
  { outcome := .timedOut
    answered := now.timer timeout
    begins := if probe.cancellable && timeout == 0 then none else some now.instant
    returns := if probe.cancellable then none else call.takes.map (now.instant + ·) }

/-- The race of one call against the timer. -/
def race (timeout : Nat) (now : Moment) (probe : Probe) (call : Call) : Watch :=
  match call.takes with
  | some wait =>
      if wait < timeout then
        { outcome := call.ending.outcome probe
          answered := now.callEnd wait
          begins := some now.instant
          returns := some (now.instant + wait) }
      else late timeout now probe call
  | none => late timeout now probe call

/-- No watched ping takes longer than the timeout. -/
theorem answered_race_le (timeout : Nat) (now : Moment) (probe : Probe) (call : Call) :
    (race timeout now probe call).answered.instant ≤ now.instant + timeout := by
  unfold race
  split
  · split
    · simp only [Moment.instant_callEnd]
      omega
    · simp [late]
  · simp [late]

/-- Lowers the count by every detached call that has returned by now. -/
def settle (watchdog : Watchdog) (now : Moment) : Watchdog :=
  let back := fun ends : Option Nat => ends.any now.reached
  { watchdog with
    abandoned := watchdog.abandoned - watchdog.detached.countP back
    detached := watchdog.detached.filter fun ends => !back ends }

/-- Raises the count for a call that could not be stopped. -/
def abandon (watchdog : Watchdog) (returns : Option Nat) : Watchdog :=
  { watchdog with
    abandoned := watchdog.abandoned + 1
    detached := returns :: watchdog.detached }

/-- One watched ping, and the watchdog once it is answered. -/
def ping (watchdog : Watchdog) (now : Moment) (probe : Probe) (call : Call) :
    Watch × Watchdog :=
  let watch := race watchdog.timeout now probe call
  let settled := watchdog.settle watch.answered
  match watch.outcome with
  | .timedOut =>
      if probe.cancellable then (watch, settled)
      else (watch, settled.abandon watch.returns)
  | _ => (watch, settled)

end Watchdog

/-- A watchdog at work on its own: pings and sleeps, one after the other. -/
structure Patrol where
  now : Moment := { instant := 0 }
  watchdog : Watchdog
  /-- The pings made, the newest first. -/
  pings : List Ping := []
  deriving DecidableEq, Repr

namespace Patrol

/-- How many calls of a position have been set going. -/
def callsMade (patrol : Patrol) (position : Position) : Nat :=
  patrol.pings.countP fun ping => ping.position == position && ping.begins.isSome

/-- Pings a probe once. -/
def ping (patrol : Patrol) (world : World) (position : Position) (probe : Probe)
    (live : Bool) : PingOutcome × Patrol :=
  let number := patrol.callsMade position
  let (watch, watchdog) := patrol.watchdog.ping patrol.now probe (world.call position number)
  let ping : Ping :=
    { position, number, live
      started := patrol.now.instant
      answered := watch.answered.instant
      outcome := some watch.outcome
      begins := watch.begins
      returns := watch.returns }
  (watch.outcome, { now := watch.answered, watchdog, pings := ping :: patrol.pings })

def sleep (patrol : Patrol) (wait : Nat) : Patrol :=
  let now := patrol.now.timer wait
  { patrol with now, watchdog := patrol.watchdog.settle now }

end Patrol

end HealthMonitor
