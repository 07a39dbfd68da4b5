import HealthMonitor.Host.Journal
import HealthMonitor.Host.StatusServer
import HealthMonitor.Program

/-!
# Monitoring on this machine

A monitor lives here as it does in any world, one step at a time: each call is
measured as it happens, and the step is taken in a world in which every call
comes to just that.  Between two steps the clock is set to the time it is.
-/

namespace HealthMonitor.Host

open Std.Async

/-- A plan at work on this machine with a reporter. -/
structure Session where
  plan : Plan
  reporter : AnyReporter
  names : Net.Names
  clock : Clock
  /-- The board that is served, if there is a status server. -/
  board : Option (IO.Ref Board)
  /-- The calls that were given up and could not be stopped. -/
  detached : IO.Ref (List (AsyncTask (Status × Bool)))

namespace Session

def monitor (session : Session) : Monitor session.reporter.σ :=
  session.plan.monitor session.reporter.reporter

/-- The world in which every call comes to `call`. -/
def world (session : Session) (call : Call) : World where
  init := Site.fault? session.names session.plan.dependencies session.plan.primaries
  call _ _ := call

/-- The call that a stopped or late ping leaves. -/
def unanswered : Call :=
  { takes := none, ending := .status default }

/-- Publishes what the reporter has to show, and sets the clock.  What was
written down is not needed any more. -/
def publish (session : Session) (state : State session.reporter.σ) :
    IO (State session.reporter.σ) := do
  let (events, reporter) := session.reporter.takeEvents state.reporter
  events.forM write
  match session.board, session.reporter.board? reporter with
  | some served, some board => served.set board
  | _, _ => pure ()
  let now ← session.clock.now
  let moment : Moment := { instant := max state.now.instant now, settled := true }
  return { state with reporter, transcript := [] }.moveTo moment

/-- The targets known to be in safe mode. -/
abbrev SafeModes := List Position

/-- Pings a target once; the call is missing if a request to end came first. -/
def call (session : Session) (requests : StopRequests) (known : SafeModes)
    (position : Position) : IO (Option Call) := do
  match Site.target? session.plan.dependencies session.plan.primaries position with
  | none => return some unanswered
  | some target =>
      let began ← IO.monoMsNow
      let limit := session.plan.timing.probeTimeout
      let work ← IO.asTask (ping session.names (known.contains position) target) .dedicated
      match ← requests.await limit work with
      | .stopped => return none
      | .late =>
          if !target.cancellable then session.detached.modify (work :: ·)
          return some unanswered
      | .arrived (status, safeMode) =>
          let took := min ((← IO.monoMsNow) - began) (limit - 1)
          let status := { status with timestamp := ← session.clock.now }
          return some { takes := some took, ending := .status status, safeMode }

/-- What is known after a call. -/
def learn (known : SafeModes) (position : Position) (call : Call) : SafeModes :=
  if call.takes.isNone then known
  else if call.safeMode then position :: known.filter (· ≠ position)
  else known.filter (· ≠ position)

/-- Steps through a run to its end. -/
partial def play (session : Session) (requests : StopRequests) (known : SafeModes)
    (run : Run session.reporter.σ) : IO (RunExit × State session.reporter.σ) := do
  let run := { run with state := ← session.publish run.state }
  let step := fun (call : Call) (stop : Option Nat) =>
    run.step session.monitor (session.world call) stop
  let stopped := some run.state.now.instant
  match run.control with
  | .ended exit => return (exit, run.state)
  | .pause =>
      let stop ← requests.pause session.plan.timing.probeInterval
      session.play requests known (step unanswered (if stop then stopped else none))
  | .ping pass =>
      match ← session.call requests known pass.position with
      | none => session.play requests known (step unanswered stopped)
      | some call =>
          session.play requests (learn known pass.position call) (step call none)

/-- The end of a run: a failure may have to wait for the controller. -/
def finish (session : Session) (requests : StopRequests) (exit : RunExit)
    (state : State session.reporter.σ) : IO Unit := do
  let verdict := [("monitor", session.plan.name), ("verdict", exit.text)]
  if exit.isFailure then write ⟨.error, "monitoring failed", verdict⟩
  else write ⟨.info, "monitoring finished", verdict⟩
  if (session.monitor.closingTime? none exit state.now).isNone then
    write ⟨.info, "waiting for the HA controller to stop this process", []⟩
    requests.forever
  let _ ← session.publish (state.close session.monitor)
  let running ← (← session.detached.get).filterM fun work => return !(← IO.hasFinished work)
  if !running.isEmpty then
    write ⟨.warn, "exiting with probe calls still in flight",
      [("abandoned", toString running.length)]⟩

/-- The whole life of a monitor on this machine. -/
def drive (session : Session) : IO (Except CommandError RunExit) := do
  let monitor := session.monitor
  match monitor.build? session.reporter.initial with
  | .error error => return .error (.monitor (.settings error))
  | .ok state =>
      match monitor.prepare (session.world unanswered) state with
      | (.error error, _) => return .error (.monitor error)
      | (.ok _, state) =>
          let (accepted, state) := monitor.start state
          let state ← session.publish state
          if accepted then
            let requests ← StopRequests.accept
            let (exit, state) ← session.play requests [] (Run.begin monitor state)
            session.finish requests exit state
            return .ok exit
          else return .error (.monitor (.reporterRefused monitor.name))

end Session

/-- The life of a planned monitor, perhaps with a status server. -/
def drive (plan : Plan) (reporter : AnyReporter) (server : Option StatusServer) :
    IO (Except CommandError RunExit) := do
  match server with
  | some server => let _ ← server.serve.toIO
  | none => pure ()
  let session : Session :=
    { plan, reporter
      names := ← namesOf (plan.dependencies ++ plan.primaries)
      clock := ← Clock.set
      board := server.map (·.board)
      detached := ← IO.mkRef [] }
  session.drive

/-- What comes of listening on an address: a server and its address. -/
abbrev Listening := Except String (StatusServer × String)

/-- Listens where the settings of a reporter say, if it has a server. -/
def listen? (settings : ReporterSettings) : IO (Option Listening) := do
  match settings.kind with
  | .log => return none
  | .rest => return some (← StatusServer.listen (settings.bind.getD ReporterSettings.defaultBind))

/-- Monitors a service as the settings file `path` describes it. -/
def monitor (path : String) (name : Option String) : ExceptT CommandError IO Int := do
  let settings ← liftExcept (Settings.load path (← fileContent path))
  let called := name.getD settings.monitor.name
  write ⟨.info, "monitor configuration loaded",
    [("monitor", called), ("config", path),
      ("description", settings.monitor.description.getD "")]⟩
  let plan ← liftExcept (settings.plan path name)
  let listening ← listen? settings.reporter
  let address := match listening with
    | some found => found.map (·.2)
    | none => .ok ""
  let server := listening.bind fun found => (found.map (·.1)).toOption
  return (← ExceptT.mk (drive plan (settings.reporter.reporter fun _ => address) server)).code

/-- Checks a service once. -/
def checkStatus (args : StatusCheckArgs) : ExceptT CommandError IO Int := do
  match ← liftExcept args.plan with
  | none => return 0
  | some plan => return (← ExceptT.mk (drive plan statusCheckReporter none)).statusCheckCode

/-- Carries out a command; the exit code says how it went. -/
def run (command : Command) : IO Int := do
  let outcome ← match command with
    | .monitor config name => (monitor config name).run
    | .statusCheck args => (checkStatus args).run
  match outcome with
  | .ok code => return code
  | .error error =>
      write ⟨.error, "the command failed: " ++ error.text, []⟩
      return failureCode

end HealthMonitor.Host
