import Std.Async.Signal
import Std.Async.Timer

/-!
# Time and waiting on this machine

A clock that counts milliseconds since the epoch and never goes back, and waits
that end early when the process is asked to end.
-/

namespace HealthMonitor.Host

open Std.Async

/-- A clock set once by the time of day. -/
structure Clock where
  epoch : Int

namespace Clock

def set : IO Clock := do
  let today := (← Std.Time.Timestamp.now).toMillisecondsSinceUnixEpoch.toInt
  return { epoch := today - Int.ofNat (← IO.monoMsNow) }

def now (clock : Clock) : IO Nat := do
  return (clock.epoch + Int.ofNat (← IO.monoMsNow)).toNat

end Clock

def offset (wait : Nat) : Std.Time.Millisecond.Offset :=
  Std.Time.Millisecond.Offset.ofNat wait

/-- The requests to end that a process can get. -/
structure StopRequests where
  pending : List (AsyncTask Int)

namespace StopRequests

/-- From here on the signals that ask for an end are waited for. -/
def accept : IO StopRequests := do
  let interrupt ← Signal.Waiter.mk .sigint false
  let terminate ← Signal.Waiter.mk .sigterm false
  return { pending := [← interrupt.wait, ← terminate.wait] }

/-- What ended a wait for something. -/
inductive Awaited (α : Type) where
  | arrived (value : α)
  | late
  | stopped

/-- Waits for work to be done, up to a limit or a request to end. -/
def await {α : Type} (requests : StopRequests) (limit : Nat)
    (work : AsyncTask α) : IO (Awaited α) := do
  let timer ← Async.block (Sleep.mk (offset limit))
  let alarm : AsyncTask Unit ← timer.wait.toIO
  let stops : List (AsyncTask (Awaited α)) :=
    requests.pending.map (AsyncTask.map fun _ => .stopped)
  let first ← IO.waitAny
    (AsyncTask.map .arrived work :: AsyncTask.map (fun _ => .late) alarm :: stops)
  timer.stop
  IO.ofExcept first

/-- Waits for some time; whether a request to end came first. -/
def pause (requests : StopRequests) (wait : Nat) : IO Bool := do
  let timer ← Async.block (Sleep.mk (offset wait))
  let alarm : AsyncTask Unit ← timer.wait.toIO
  let stops : List (AsyncTask Bool) := requests.pending.map (AsyncTask.map fun _ => true)
  let first ← IO.waitAny (AsyncTask.map (fun _ => false) alarm :: stops)
  timer.stop
  IO.ofExcept first

/-- Waits for a request to end. -/
def forever (requests : StopRequests) : IO Unit := do
  match requests.pending with
  | [] => return ()
  | first :: rest =>
      let _ ← IO.waitAny (first :: rest)
      return ()

end StopRequests

end HealthMonitor.Host
