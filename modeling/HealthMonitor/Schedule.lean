import HealthMonitor.Monitor

/-!
# The schedule of a run

A run is a machine that is either waiting for a ping, or pausing between two
passes, or over.  What follows an answer is decided here, without a clock of
its own: `answer` takes in the answer of the ping under way, `resume` begins
the pass after a pause, and each runs on to the next wait.
-/

namespace HealthMonitor

/-- A pass over one list of probes, at the probe whose ping is awaited. -/
inductive Pass where
  /-- Over the dependencies, with the first that is not satisfied so far. -/
  | dependencies (index : Nat) (blocker : Option Nat)
  /-- Over the primaries before live, with the first that is not up so far and
  the statuses that came in. -/
  | bootstrap (index : Nat) (blocker : Option Nat) (seen : List Status)
  /-- Over the primaries, with whether all was well so far. -/
  | live (index : Nat) (clean : Bool)
  deriving DecidableEq, Repr

namespace Pass

def position : Pass → Position
  | dependencies index _ => .dependency index
  | bootstrap index _ _ => .primary index
  | live index _ => .primary index

def isLive : Pass → Bool
  | live .. => true
  | _ => false

end Pass

/-- What a run is waiting for. -/
inductive Control where
  | ping (pass : Pass)
  | pause
  | ended (exit : RunExit)
  deriving DecidableEq, Repr

structure Run (σ : Type) where
  state : State σ
  control : Control

namespace Run

variable {σ : Type}

def exit? (run : Run σ) : Option RunExit :=
  match run.control with
  | .ended exit => some exit
  | _ => none

/-- Moves to a phase and says so. -/
def enter (monitor : Monitor σ) (state : State σ) (phase : Phase) : State σ :=
  { state with phase, phaseEntered := state.now.instant }.tell monitor (.phase phase)

/-- What follows a pass that is blocked: a pause, or the end if the phase has
used up its time.  The verdict on that end does not matter. -/
def blocked (monitor : Monitor σ) (state : State σ) (blocker : Position) : Run σ :=
  match monitor.timing.bootstrapLimit with
  | none => { state, control := .pause }
  | some limit =>
      let elapsed := state.now.instant - state.phaseEntered
      if elapsed < limit then { state, control := .pause }
      else
        let probe := monitor.probeName blocker
        let last := state.lastStatus blocker
        { state := state.tell monitor (.timedOut state.phase probe last state.now.instant)
          control := .ended (.bootstrapTimedOut state.phase probe elapsed last) }

/-- The end of a live pass.  A cycle is complete when this pass and the one
before were clean. -/
def endLive (monitor : Monitor σ) (state : State σ) (clean : Bool) : Run σ :=
  let completed := clean && state.cleanBefore
  let state := { state with cleanBefore := clean }
  if completed then
    let (verdict, state) := state.ask monitor .cycle
    if verdict.stops then { state, control := .ended .cycleCompleted }
    else { state, control := .pause }
  else { state, control := .pause }

def goOnLive (monitor : Monitor σ) (state : State σ) (index : Nat) (clean : Bool) : Run σ :=
  if index < monitor.primaries.length then { state, control := .ping (.live index clean) }
  else endLive monitor state clean

def enterLive (monitor : Monitor σ) (state : State σ) : Run σ :=
  goOnLive monitor (enter monitor state .live) 0 true

/-- The bootstrap is over: every probe is told so, and the reporter hears of
every status of the clean pass. -/
def endBootstrap (monitor : Monitor σ) (state : State σ) (seen : List Status) : Run σ :=
  let ended := monitor.primaryPositions.foldl
    (fun state position => state.note (.endedBootstrap position)) state
  enterLive monitor (seen.foldl (fun state status => state.tell monitor (.booted status)) ended)

def goOnBootstrap (monitor : Monitor σ) (state : State σ) (index : Nat)
    (blocker : Option Nat) (seen : List Status) : Run σ :=
  if index < monitor.primaries.length then
    { state, control := .ping (.bootstrap index blocker seen) }
  else
    match blocker with
    | some index => blocked monitor state (.primary index)
    | none => endBootstrap monitor state seen

def enterBootstrap (monitor : Monitor σ) (state : State σ) : Run σ :=
  let state := enter monitor state .bootstrap
  let began := monitor.primaryPositions.foldl
    (fun state position => state.note (.beganBootstrap position)) state
  goOnBootstrap monitor began 0 none []

def goOnDependencies (monitor : Monitor σ) (state : State σ) (index : Nat)
    (blocker : Option Nat) : Run σ :=
  if index < monitor.dependencies.length then
    { state, control := .ping (.dependencies index blocker) }
  else
    match blocker with
    | some index => blocked monitor state (.dependency index)
    | none => enterBootstrap monitor state

/-- The beginning of a run.  Without dependencies there is nothing to wait for. -/
def begin (monitor : Monitor σ) (state : State σ) : Run σ :=
  if monitor.dependencies.isEmpty then enterBootstrap monitor state
  else goOnDependencies monitor (enter monitor state .dependencyWait) 0 none

/-- The next pass of the phase, after a pause. -/
def resume (monitor : Monitor σ) (state : State σ) : Run σ :=
  match state.phase with
  | .dependencyWait => goOnDependencies monitor state 0 none
  | .bootstrap => goOnBootstrap monitor state 0 none []
  | .live => goOnLive monitor state 0 true

/-- Whether a dependency lets the run go on after a ping that came in with
`status`: it is up, and out of safe mode as far as the policy asks for that. -/
def satisfied (policy : SafeModePolicy) (probe : Probe) (slot : Slot) (status : Status)
    (safeMode : Bool) : Bool :=
  status.success &&
    (!probe.hasSafeMode || !safeMode ||
      (policy == .ignoreReentry && slot.leftSafeMode))

/-- What is remembered of a dependency after a ping that came in. -/
def recordDependency (probe : Probe) (status : Status) (safeMode : Bool) (slot : Slot) : Slot :=
  { slot with
    last := some status
    leftSafeMode :=
      slot.leftSafeMode || (status.success && probe.hasSafeMode && !safeMode) }

/-- Tells the reporter the last live status, unless it heard one too recently. -/
def heartbeat (monitor : Monitor σ) (state : State σ) : State σ :=
  let due := match state.lastHeartbeat with
    | none => true
    | some before => decide (monitor.timing.reportInterval ≤ state.now.instant - before)
  match due, state.latest with
  | true, some status =>
      { state.tell monitor (.heartbeat status) with lastHeartbeat := some state.now.instant }
  | _, _ => state

def answerDependencies (monitor : Monitor σ) (state : State σ) (index : Nat)
    (blocker : Option Nat) (probe : Probe) (safeMode : Bool) : PingOutcome → Run σ
  | .completed status =>
      let status := status.inPhase state.phase
      let slot := (state.slot? (.dependency index)).getD {}
      let ready := satisfied monitor.timing.policy probe slot status safeMode
      let state := state.modifySlot (.dependency index) (recordDependency probe status safeMode)
      goOnDependencies monitor state (index + 1)
        (if ready then blocker else blocker.or (some index))
  | .timedOut => goOnDependencies monitor state (index + 1) (blocker.or (some index))
  | .aborted abort => { state, control := .ended (.aborted abort) }

def answerBootstrap (monitor : Monitor σ) (state : State σ) (index : Nat)
    (blocker : Option Nat) (seen : List Status) : PingOutcome → Run σ
  | .completed status =>
      let status := status.inPhase state.phase
      let state := state.modifySlot (.primary index) fun slot => { slot with last := some status }
      goOnBootstrap monitor state (index + 1)
        (if status.success then blocker else blocker.or (some index)) (seen ++ [status])
  | .timedOut => goOnBootstrap monitor state (index + 1) (blocker.or (some index)) seen
  | .aborted abort => { state, control := .ended (.aborted abort) }

def answerLive (monitor : Monitor σ) (state : State σ) (index : Nat) (clean : Bool)
    (probe : Probe) : PingOutcome → Run σ
  | .completed status =>
      let status := status.inPhase state.phase
      let state := state.modifySlot (.primary index) fun slot => { slot with last := some status }
      let state := { state with latest := some status }.tell monitor (.result .live status)
      if status.success then goOnLive monitor (heartbeat monitor state) (index + 1) clean
      else
        let (verdict, state) := state.ask monitor (.failure status)
        if verdict.stops then { state, control := .ended (.probeFailed status) }
        else goOnLive monitor (heartbeat monitor state) (index + 1) false
  | .timedOut =>
      let last := state.lastStatus (.primary index)
      let (verdict, state) :=
        state.ask monitor (.timedOut state.phase probe.name last state.now.instant)
      if verdict.stops then
        { state, control := .ended (.probeTimedOut state.phase probe.name last) }
      else goOnLive monitor (heartbeat monitor state) (index + 1) false
  | .aborted abort => { state, control := .ended (.aborted abort) }

/-- Takes in the answer of the ping that `pass` was waiting for. -/
def answer (monitor : Monitor σ) (state : State σ) (pass : Pass) (probe : Probe)
    (safeMode : Bool) (outcome : PingOutcome) : Run σ :=
  match pass with
  | .dependencies index blocker =>
      answerDependencies monitor state index blocker probe safeMode outcome
  | .bootstrap index blocker seen => answerBootstrap monitor state index blocker seen outcome
  | .live index clean => answerLive monitor state index clean probe outcome

/-- A shutdown ends the run wherever it is. -/
def shutDown (monitor : Monitor σ) (state : State σ) : Run σ :=
  { state := state.close monitor, control := .ended .shutdown }

end Run

end HealthMonitor
