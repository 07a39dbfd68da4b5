import HealthMonitor.Simulation

/-!
# The life of a monitor

A monitor is built, its probes are prepared, its reporter is started, it runs,
perhaps more than once, and it is closed.  `drive` goes through all of that in
the one order the program uses.
-/

namespace HealthMonitor

variable {σ : Type}

namespace Monitor

/-- A monitor is built only for a timing it can run with. -/
def build? (monitor : Monitor σ) (reporter : σ) : Except SettingsError (State σ) :=
  monitor.timing.validate.map fun _ => .initial monitor reporter

/-- Prepares the probes at `positions` in order, up to the first that fails. -/
def prepareFrom (monitor : Monitor σ) (world : World) :
    List Position → State σ → Except MonitorError Unit × State σ
  | [], state => (.ok (), state)
  | position :: rest, state =>
      let state := state.note (.prepared position)
      match world.init position with
      | some error => (.error (.probeInit (monitor.probeName position) error), state)
      | none => prepareFrom monitor world rest state

/-- Prepares every probe, dependencies first. -/
def prepare (monitor : Monitor σ) (world : World) (state : State σ) :
    Except MonitorError Unit × State σ :=
  monitor.prepareFrom world monitor.positions state

/-- Offers the monitor to its reporter, which may refuse. -/
def start (monitor : Monitor σ) (state : State σ) : Bool × State σ :=
  let (verdict, state) := state.ask monitor (.start monitor.name monitor.description)
  (!verdict.stops, { state with started := !verdict.stops })

/-- One run of a monitor that was started, of at most `fuel` steps.  Its exit
is missing if the fuel did not suffice. -/
def run (monitor : Monitor σ) (world : World) (stop : Option Nat) (fuel : Nat)
    (state : State σ) : Except MonitorError (Option RunExit) × State σ :=
  if state.started then
    let run := Run.play monitor world stop fuel (Run.begin monitor state)
    (.ok run.exit?, run.state)
  else (.error (.notStarted monitor.name), state)

/-- The steps of a monitor's life that can be taken in any order. -/
inductive Operation where
  | prepare
  | start
  | run (signal : ShutdownSignal)
  | close
  | sleep (wait : Nat)
  deriving DecidableEq, Repr

/-- What an operation answers. -/
inductive Answer where
  | done
  | started (accepted : Bool)
  /-- The exit of a run; `none` if it was not played to its end. -/
  | exited (exit : Option RunExit)
  | refused (error : MonitorError)
  deriving DecidableEq, Repr

def perform (monitor : Monitor σ) (world : World) (fuel : Nat) (state : State σ) :
    Operation → Answer × State σ
  | .prepare =>
      match monitor.prepare world state with
      | (.ok _, state) => (.done, state)
      | (.error error, state) => (.refused error, state)
  | .start =>
      let (accepted, state) := monitor.start state
      (.started accepted, state)
  | .run signal =>
      match monitor.run world (signal.stop? state.now.instant) fuel state with
      | (.ok exit, state) => (.exited exit, state)
      | (.error error, state) => (.refused error, state)
  | .close => (.done, state.close monitor)
  | .sleep wait => (.done, state.moveTo (state.now.timer wait))

/-- When a monitor may be closed after a run.  A reporter that answers to a
controller keeps a failed monitor registered until the process is asked to end,
at `sigterm`, and for ever if it is not. -/
def closingTime? (monitor : Monitor σ) (sigterm : Option Nat) (exit : RunExit)
    (now : Moment) : Option Moment :=
  if monitor.reporter.haIntegrated && exit.isFailure then sigterm.map now.seen
  else some now

/-- The whole life of a monitor: build, prepare, start, run, close.  The exit is
missing if the run, or the wait before closing, was not played to its end. -/
def drive (monitor : Monitor σ) (world : World) (signal : ShutdownSignal)
    (sigterm : Option Nat) (fuel : Nat) (reporter : σ) :
    Except MonitorError (Option RunExit) × State σ :=
  let state := State.initial monitor reporter
  match monitor.timing.validate with
  | .error error => (.error (.settings error), state)
  | .ok _ =>
      match monitor.prepare world state with
      | (.error error, state) => (.error error, state)
      | (.ok _, state) =>
          match monitor.start state with
          | (false, state) => (.error (.reporterRefused monitor.name), state)
          | (true, state) =>
              match monitor.run world (signal.stop? state.now.instant) fuel state with
              | (.error error, state) => (.error error, state)
              | (.ok none, state) => (.ok none, state)
              | (.ok (some exit), state) =>
                  match monitor.closingTime? sigterm exit state.now with
                  | none => (.ok none, state)
                  | some moment => (.ok (some exit), (state.moveTo moment).close monitor)

end Monitor

namespace State

/-- How often a position was asked to prepare itself. -/
def preparations (state : State σ) (position : Position) : Nat :=
  state.transcript.countP fun
    | .prepared other => other == position
    | _ => false

/-- The beginnings and ends of bootstraps that a position was told of. -/
def bootstrapCalls (state : State σ) (position : Position) : Nat × Nat :=
  (state.transcript.countP fun
      | .beganBootstrap other => other == position
      | _ => false,
    state.transcript.countP fun
      | .endedBootstrap other => other == position
      | _ => false)

/-- Whether a position has come up: its flag after all it was told. -/
def booted (state : State σ) (position : Position) : Bool :=
  (state.transcript.foldr
    (fun entry flag =>
      match entry with
      | .beganBootstrap other => if other = position then flag.beginBootstrap else flag
      | .endedBootstrap other => if other = position then flag.endBootstrap else flag
      | _ => flag)
    ({} : BootFlag)).isSet

end State

end HealthMonitor
