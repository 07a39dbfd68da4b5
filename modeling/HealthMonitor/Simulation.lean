import HealthMonitor.Schedule

/-!
# Runs in a world

Given a world that says what every call comes to, and perhaps an instant of
shutdown, a run is played step by step on the clock.  One step is one ping or
one pause.  `play` is told how many steps to make at most; a run that is over
does not change any more, so fuel left over does no harm.  The instant of
shutdown is read off a channel, whose sender may as well go away.
-/

namespace HealthMonitor

namespace Run

variable {σ : Type}

/-- Whether a shutdown comes before a wait that begins at `now` is over at
`wake`.  One that came earlier is seen as soon as the run waits. -/
def stoppedBefore (stop : Option Nat) (now wake : Moment) : Option Moment :=
  match stop with
  | none => none
  | some time =>
      if time ≤ now.instant ∨ time < wake.instant then some (now.seen time) else none

def stepPause (monitor : Monitor σ) (stop : Option Nat) (state : State σ) : Run σ :=
  let wake := state.now.timer monitor.timing.probeInterval
  match stoppedBefore stop state.now wake with
  | some moment => shutDown monitor (state.moveTo moment)
  | none => resume monitor (state.moveTo wake)

/-- What is written down of a watched ping. -/
def pingOf (state : State σ) (pass : Pass) (number : Nat) (watch : Watch) : Ping where
  position := pass.position
  number := number
  live := pass.isLive
  started := state.now.instant
  answered := watch.answered.instant
  outcome := some watch.outcome
  begins := watch.begins
  returns := watch.returns

/-- What is written down of a ping that a shutdown cut short.  Its call is not
stopped: it runs on by itself and returns when it would have. -/
def cutPing (state : State σ) (pass : Pass) (number : Nat) (call : Call) (time : Nat) :
    Ping where
  position := pass.position
  number := number
  live := pass.isLive
  started := state.now.instant
  answered := time
  outcome := none
  begins := some state.now.instant
  returns := call.takes.map (state.now.instant + ·)

/-- Writes down a ping and counts its call. -/
def recordPing (state : State σ) (ping : Ping) : State σ :=
  (state.note (.pinged ping)).modifySlot ping.position
    fun slot => { slot with calls := slot.calls + 1 }

def stepPing (monitor : Monitor σ) (world : World) (stop : Option Nat) (state : State σ)
    (pass : Pass) (probe : Probe) : Run σ :=
  let number := ((state.slot? pass.position).map (·.calls)).getD 0
  let call := world.call pass.position number
  let (watch, watchdog) := state.watchdog.ping state.now probe call
  match stoppedBefore stop state.now watch.answered with
  | some moment =>
      let state :=
        if moment = state.now then state
        else recordPing state (cutPing state pass number call moment.instant)
      shutDown monitor (state.moveTo moment)
  | none =>
      let state := recordPing state (pingOf state pass number watch)
      answer monitor { state with now := watch.answered, watchdog } pass probe call.safeMode
        watch.outcome

/-- One ping or one pause; a run that is over stays as it is. -/
def step (monitor : Monitor σ) (world : World) (stop : Option Nat) (run : Run σ) : Run σ :=
  match run.control with
  | .ended _ => run
  | .pause => stepPause monitor stop run.state
  | .ping pass =>
      match monitor.probe? pass.position with
      | some probe => stepPing monitor world stop run.state pass probe
      | none => run

/-- At most `fuel` steps. -/
def play (monitor : Monitor σ) (world : World) (stop : Option Nat) :
    Nat → Run σ → Run σ
  | 0, run => run
  | fuel + 1, run =>
      match run.control with
      | .ended _ => run
      | _ => play monitor world stop fuel (step monitor world stop run)

theorem play_of_ended {monitor : Monitor σ} {world : World} {stop : Option Nat}
    {run : Run σ} {exit : RunExit} (h : run.control = .ended exit) (fuel : Nat) :
    play monitor world stop fuel run = run := by
  cases fuel with
  | zero => rfl
  | succ fuel => simp [play, h]

/-- Playing is stepping: the fuel counts the steps. -/
theorem play_succ {monitor : Monitor σ} {world : World} {stop : Option Nat}
    (fuel : Nat) (run : Run σ) :
    play monitor world stop (fuel + 1) run =
      play monitor world stop fuel (step monitor world stop run) := by
  rw [play]
  split
  · rename_i exit h
    have hstep : step monitor world stop run = run := by simp [step, h]
    rw [hstep, play_of_ended h]
  · rfl

end Run

/-- What the sender of a shutdown channel does. -/
inductive ChannelEvent where
  | sent (value : Bool)
  /-- The sender goes away, and nothing more is sent. -/
  | dropped
  deriving DecidableEq, Repr

/-- A shutdown channel: the value it starts with, and what its sender does and
how long after the start of the run. -/
structure ShutdownSignal where
  initial : Bool := false
  events : List (Nat × ChannelEvent) := []
  deriving DecidableEq, Repr, Inhabited

/-- What comes of waiting for `true` on a channel. -/
inductive WaitResult where
  | seen (instant : Nat)
  /-- The sender went away first, which is an error to the one who waits. -/
  | closed (instant : Nat)
  | pending
  deriving DecidableEq, Repr

namespace ShutdownSignal

/-- Waiting for the first `true` among some events. -/
def awaitAmong (start : Nat) : List (Nat × ChannelEvent) → WaitResult
  | [] => .pending
  | (after, .sent true) :: _ => .seen (start + after)
  | (_, .sent false) :: rest => awaitAmong start rest
  | (after, .dropped) :: _ => .closed (start + after)

/-- Waiting for `true` from `start` on; a value from before is seen at once. -/
def await (signal : ShutdownSignal) (start : Nat) : WaitResult :=
  if signal.initial then .seen start else awaitAmong start signal.events

/-- The instant from which a run that starts at `start` is asked to stop.  After
the error of a channel without a sender the run waits on for ever. -/
def stop? (signal : ShutdownSignal) (start : Nat) : Option Nat :=
  match signal.await start with
  | .seen instant => some instant
  | .closed _ => none
  | .pending => none

end ShutdownSignal

end HealthMonitor
