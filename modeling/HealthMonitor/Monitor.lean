import HealthMonitor.Exit
import HealthMonitor.Reporter
import HealthMonitor.Timing
import HealthMonitor.Watchdog

/-!
# Monitors and what they remember

A monitor watches one service: it has a name, the probes of the service and of
what the service depends on, a timing and a reporter.  Its state holds the
clock, what it remembers about each probe, and a transcript of all it has
done, the newest entry first.
-/

namespace HealthMonitor

structure Monitor (σ : Type) where
  name : String
  dependencies : List Probe := []
  primaries : List Probe
  timing : Timing
  reporter : Reporter σ

namespace Monitor

def probe? {σ : Type} (monitor : Monitor σ) : Position → Option Probe
  | .dependency index => monitor.dependencies[index]?
  | .primary index => monitor.primaries[index]?

def primaryPositions {σ : Type} (monitor : Monitor σ) : List Position :=
  (List.range monitor.primaries.length).map .primary

/-- The positions of all probes, dependencies first. -/
def positions {σ : Type} (monitor : Monitor σ) : List Position :=
  (List.range monitor.dependencies.length).map .dependency ++ monitor.primaryPositions

def probeName {σ : Type} (monitor : Monitor σ) (position : Position) : String :=
  ((monitor.probe? position).map (·.name)).getD ""

/-- What the reporter is told about the monitor at the start. -/
def description {σ : Type} (monitor : Monitor σ) : String :=
  let names := fun probes : List Probe => ", ".intercalate (probes.map (·.name))
  let timing := monitor.timing
  let limit := match timing.bootstrapLimit with
    | some limit => toString limit ++ "ms"
    | none => "unbounded"
  "probes [" ++ names monitor.primaries ++ "] dependencies [" ++ names monitor.dependencies ++
    "] interval " ++ toString timing.probeInterval ++ "ms report " ++
    toString timing.reportInterval ++ "ms timeout " ++ toString timing.probeTimeout ++
    "ms bootstrap " ++ limit

end Monitor

/-- What is remembered about one position. -/
structure Slot where
  /-- How many calls were made. -/
  calls : Nat := 0
  /-- The last status that arrived in time. -/
  last : Option Status := none
  /-- Whether a successful ping ever saw the target out of safe mode. -/
  leftSafeMode : Bool := false
  deriving DecidableEq, Repr, Inhabited

/-- One thing that a monitor did. -/
inductive Entry where
  /-- The reporter was told something and gave its verdict. -/
  | told (instant : Nat) (callback : Callback) (verdict : Verdict)
  | pinged (ping : Ping)
  /-- The probe was prepared, or at least asked to be. -/
  | prepared (position : Position)
  | beganBootstrap (position : Position)
  | endedBootstrap (position : Position)
  deriving DecidableEq, Repr

structure State (σ : Type) where
  now : Moment := { instant := 0 }
  watchdog : Watchdog
  phase : Phase
  phaseEntered : Nat := 0
  dependencies : List Slot
  primaries : List Slot
  /-- The last status of any live ping. -/
  latest : Option Status := none
  lastHeartbeat : Option Nat := none
  /-- Whether the live pass before had no failure and no timeout. -/
  cleanBefore : Bool := true
  started : Bool := false
  closed : Bool := false
  reporter : σ
  transcript : List Entry := []

namespace State

variable {σ : Type}

/-- The state of a monitor that has done nothing yet. -/
def initial (monitor : Monitor σ) (reporter : σ) : State σ where
  watchdog := { timeout := monitor.timing.probeTimeout }
  phase := if monitor.dependencies.isEmpty then .bootstrap else .dependencyWait
  dependencies := monitor.dependencies.map fun _ => {}
  primaries := monitor.primaries.map fun _ => {}
  reporter := reporter

def slot? (state : State σ) : Position → Option Slot
  | .dependency index => state.dependencies[index]?
  | .primary index => state.primaries[index]?

/-- The state with what is remembered about one position changed. -/
def modifySlot (state : State σ) (position : Position) (change : Slot → Slot) : State σ :=
  match position with
  | .dependency index => { state with dependencies := state.dependencies.modify index change }
  | .primary index => { state with primaries := state.primaries.modify index change }

/-- The last status that arrived from a position. -/
def lastStatus (state : State σ) (position : Position) : Option Status :=
  (state.slot? position).bind (·.last)

def note (state : State σ) (entry : Entry) : State σ :=
  { state with transcript := entry :: state.transcript }

/-- Tells the reporter something and hears its verdict. -/
def ask (state : State σ) (monitor : Monitor σ) (callback : Callback) : Verdict × State σ :=
  let (verdict, reporter) := monitor.reporter.react state.reporter callback
  (verdict, { state with reporter }.note (.told state.now.instant callback verdict))

/-- Tells the reporter something on which it has no say. -/
def tell (state : State σ) (monitor : Monitor σ) (callback : Callback) : State σ :=
  (state.ask monitor callback).2

/-- Lets time pass. -/
def moveTo (state : State σ) (moment : Moment) : State σ :=
  { state with now := moment, watchdog := state.watchdog.settle moment }

/-- Unregisters from the reporter, once and for all. -/
def close (state : State σ) (monitor : Monitor σ) : State σ :=
  if state.closed then state
  else { state with closed := true }.tell monitor .unregister

/-- The pings of a position, the newest first. -/
def pingsAt (state : State σ) (position : Position) : List Ping :=
  state.transcript.filterMap fun
    | .pinged ping => if ping.position = position then some ping else none
    | _ => none

/-- The callbacks made so far with their times and verdicts, the oldest first. -/
def callbacks (state : State σ) : List (Nat × Callback × Verdict) :=
  state.transcript.reverse.filterMap fun
    | .told instant callback verdict => some (instant, callback, verdict)
    | _ => none

end State

end HealthMonitor
