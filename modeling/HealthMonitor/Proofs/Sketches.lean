import HealthMonitor.Proofs.Lives
import HealthMonitor.Proofs.ReportIntervals

/-!
# Sketches of a life

What a monitor does depends on its reporter only through the verdicts, and on
the timestamps of statuses not at all.  The sketch of a state leaves both out.
If the verdicts follow a rule, each operation on a state shows in the sketch as
the same operation of a monitor whose reporter is that rule and nothing else, so
two monitors whose reporters follow one rule lead the same life.
-/

namespace HealthMonitor

variable {σ τ : Type}

/-! ## Leaving out the timestamps -/

def Status.undated (status : Status) : Status :=
  { status with timestamp := 0 }

def Ending.undated : Ending → Ending
  | .status found => .status found.undated
  | ending => ending

def Call.undated (call : Call) : Call :=
  { call with ending := call.ending.undated }

def World.undated (world : World) : World :=
  { world with
    call := fun position number => (world.call position number).undated }

def PingOutcome.undated : PingOutcome → PingOutcome
  | .completed status => .completed status.undated
  | outcome => outcome

def Ping.undated (ping : Ping) : Ping :=
  { ping with outcome := ping.outcome.map PingOutcome.undated }

def Callback.undated : Callback → Callback
  | .booted status => .booted status.undated
  | .result stage status => .result stage status.undated
  | .heartbeat status => .heartbeat status.undated
  | .failure status => .failure status.undated
  | .timedOut stage probe last now =>
      .timedOut stage probe (last.map Status.undated) now
  | callback => callback

def Entry.undated : Entry → Entry
  | .told instant callback verdict => .told instant callback.undated verdict
  | .pinged ping => .pinged ping.undated
  | entry => entry

def Slot.undated (slot : Slot) : Slot :=
  { slot with last := slot.last.map Status.undated }

def RunExit.undated : RunExit → RunExit
  | .probeFailed status => .probeFailed status.undated
  | .probeTimedOut phase probe last =>
      .probeTimedOut phase probe (last.map Status.undated)
  | .bootstrapTimedOut phase probe elapsed last =>
      .bootstrapTimedOut phase probe elapsed (last.map Status.undated)
  | exit => exit

def Pass.undated : Pass → Pass
  | .bootstrap index blocker seen =>
      .bootstrap index blocker (seen.map Status.undated)
  | pass => pass

def Control.undated : Control → Control
  | .ping pass => .ping pass.undated
  | .pause => .pause
  | .ended exit => .ended exit.undated

def Monitor.Answer.undated : Monitor.Answer → Monitor.Answer
  | .exited exit => .exited (exit.map RunExit.undated)
  | answer => answer

namespace Monitor

def Deed.undated (deed : Deed) : Deed :=
  { deed with world := deed.world.undated }

end Monitor

/-! ## Sketches -/

/-- A state without its reporter and without timestamps. -/
def State.sketch (state : State σ) : State Unit :=
  { state with
    dependencies := state.dependencies.map Slot.undated
    primaries := state.primaries.map Slot.undated
    latest := state.latest.map Status.undated
    reporter := ()
    transcript := state.transcript.map Entry.undated }

def Run.sketch (run : Run σ) : Run Unit :=
  ⟨run.state.sketch, run.control.undated⟩

/-- The verdicts of a reporter follow a rule, whatever it has heard, and the
rule does not look at timestamps. -/
structure Reporter.Follows
    (reporter : Reporter σ) (stops : Callback → Bool) : Prop where
  verdict : ∀ state callback,
    (reporter.react state callback).1 = .ofStop (stops callback)
  undated : ∀ callback, stops callback.undated = stops callback

/-- The same monitor with another reporter. -/
def Monitor.reportingTo (monitor : Monitor σ) (reporter : Reporter τ) :
    Monitor τ :=
  { monitor with reporter := reporter }

/-- The same monitor with a rule in the place of its reporter. -/
def Monitor.ruledBy (monitor : Monitor σ) (stops : Callback → Bool) :
    Monitor Unit :=
  monitor.reportingTo (.stateless stops)

@[simp] theorem Status.success_undated (status : Status) :
    status.undated.success = status.success := rfl

@[simp] theorem Pass.position_undated (pass : Pass) :
    pass.undated.position = pass.position := by
  cases pass <;> rfl

@[simp] theorem Pass.isLive_undated (pass : Pass) :
    pass.undated.isLive = pass.isLive := by
  cases pass <;> rfl

section Ruled

variable (monitor : Monitor σ) (stops : Callback → Bool)

@[simp] theorem primaries_ruledBy :
    (monitor.ruledBy stops).primaries = monitor.primaries := rfl

@[simp] theorem dependencies_ruledBy :
    (monitor.ruledBy stops).dependencies = monitor.dependencies := rfl

@[simp] theorem timing_ruledBy :
    (monitor.ruledBy stops).timing = monitor.timing := rfl

@[simp] theorem probe?_ruledBy (position : Position) :
    (monitor.ruledBy stops).probe? position = monitor.probe? position := rfl

end Ruled

namespace State

variable (state : State σ)

theorem sketch_note (entry : Entry) :
    (state.note entry).sketch = state.sketch.note entry.undated := rfl

theorem sketch_moveTo (moment : Moment) :
    (state.moveTo moment).sketch = state.sketch.moveTo moment := rfl

theorem slot?_sketch (position : Position) :
    state.sketch.slot? position =
      (state.slot? position).map Slot.undated := by
  cases position with
  | dependency index => exact List.getElem?_map
  | primary index => exact List.getElem?_map

theorem lastStatus_sketch (position : Position) :
    state.sketch.lastStatus position =
      (state.lastStatus position).map Status.undated := by
  rw [lastStatus, slot?_sketch, lastStatus]
  cases state.slot? position with
  | none => rfl
  | some slot => rfl

theorem map_modify_of_commutes
    {α β : Type} {image : α → β} {change : α → α} {other : β → β}
    (hchange : ∀ item, image (change item) = other (image item))
    (items : List α) (index : Nat) :
    (items.modify index change).map image =
      (items.map image).modify index other := by
  apply List.ext_getElem?
  intro place
  simp only [List.getElem?_map, List.getElem?_modify]
  split
  next =>
    cases items[place]? with
    | none => rfl
    | some item => exact congrArg some (hchange item)
  next => simp

variable {state} in
theorem sketch_modifySlot
    (change other : Slot → Slot)
    (hchange : ∀ slot, (change slot).undated = other slot.undated)
    (position : Position) :
    (state.modifySlot position change).sketch =
      state.sketch.modifySlot position other := by
  cases position with
  | dependency index =>
      simp only [modifySlot, sketch, map_modify_of_commutes hchange]
  | primary index =>
      simp only [modifySlot, sketch, map_modify_of_commutes hchange]

end State

/-- What is done to a state in turn shows in the sketch in turn. -/
theorem sketch_foldl
    {α β : Type} {change : State σ → α → State σ}
    (other : State Unit → β → State Unit) (image : α → β)
    (hchange : ∀ state item,
      (change state item).sketch = other state.sketch (image item))
    (items : List α) (state : State σ) :
    (items.foldl change state).sketch =
      (items.map image).foldl other state.sketch := by
  induction items generalizing state with
  | nil => rfl
  | cons item items ih =>
      rw [List.foldl_cons, ih, hchange, List.map_cons, List.foldl_cons]

theorem sketch_foldl_note
    {entry : Position → Entry}
    (hentry : ∀ position, (entry position).undated = entry position)
    (positions : List Position) (state : State σ) :
    (positions.foldl
        (fun state position => state.note (entry position)) state).sketch =
      positions.foldl (fun state position => state.note (entry position))
        state.sketch := by
  rw [sketch_foldl (fun state position => state.note (entry position)) id,
    List.map_id]
  intro state position
  rw [State.sketch_note, hentry]
  rfl

/-! ## The schedule -/

section Schedule

variable {monitor : Monitor σ} {stops : Callback → Bool}
  (hfollows : monitor.reporter.Follows stops)
include hfollows

theorem State.verdict_sketch (state : State σ) (callback : Callback) :
    state.sketch.verdict (monitor.ruledBy stops) callback.undated =
      state.verdict monitor callback := by
  rw [verdict, verdict, hfollows.verdict]
  exact congrArg Verdict.ofStop (hfollows.undated callback)

theorem State.sketch_tell (state : State σ) (callback : Callback) :
    (state.tell monitor callback).sketch =
      state.sketch.tell (monitor.ruledBy stops) callback.undated := by
  have hverdict := State.verdict_sketch hfollows state callback
  simp only [verdict] at hverdict
  simp only [tell, ask, note, hverdict]
  rfl

theorem State.sketch_close (state : State σ) :
    (state.close monitor).sketch =
      state.sketch.close (monitor.ruledBy stops) := by
  have hclosed : state.sketch.closed = state.closed := rfl
  unfold close
  rw [hclosed]
  split
  next => rfl
  next => exact State.sketch_tell hfollows _ .unregister

namespace Run

theorem sketch_enter (state : State σ) (phase : Phase) :
    (enter monitor state phase).sketch =
      enter (monitor.ruledBy stops) state.sketch phase :=
  State.sketch_tell hfollows _ (.phase phase)

theorem sketch_blocked (state : State σ) (blocker : Position) :
    (blocked monitor state blocker).sketch =
      blocked (monitor.ruledBy stops) state.sketch blocker := by
  unfold blocked
  rw [timing_ruledBy]
  cases monitor.timing.bootstrapLimit with
  | none => rfl
  | some limit =>
      have helapsed :
          state.sketch.now.instant - state.sketch.phaseEntered =
            state.now.instant - state.phaseEntered := rfl
      simp only [helapsed]
      split
      next => rfl
      next =>
        rw [State.lastStatus_sketch]
        exact congrArg₂ Run.mk (State.sketch_tell hfollows _ _) rfl

theorem sketch_onVerdict
    (goOn : State σ → Run σ) (ruled : State Unit → Run Unit)
    (hgoOn : ∀ state, (goOn state).sketch = ruled state.sketch)
    (state : State σ) (callback : Callback) (exit : RunExit) :
    (onVerdict exit goOn (state.ask monitor callback)).sketch =
      onVerdict exit.undated ruled
        (state.sketch.ask (monitor.ruledBy stops) callback.undated) := by
  rw [State.ask_eq, State.ask_eq, State.verdict_sketch hfollows,
    ← State.sketch_tell hfollows]
  cases state.verdict monitor callback with
  | proceed => exact hgoOn _
  | stop => rfl

theorem sketch_endLive (state : State σ) (clean : Bool) :
    (endLive monitor state clean).sketch =
      endLive (monitor.ruledBy stops) state.sketch clean := by
  have hbefore : state.sketch.cleanBefore = state.cleanBefore := rfl
  unfold endLive
  simp only [hbefore]
  by_cases hcompleted : (clean && state.cleanBefore) = true
  · simp only [if_pos hcompleted]
    exact sketch_onVerdict hfollows (fun state => ⟨state, .pause⟩)
      (fun state => ⟨state, .pause⟩) (fun _ => rfl)
      { state with cleanBefore := clean } .cycle .cycleCompleted
  · simp only [if_neg hcompleted]
    rfl

theorem sketch_goOnLive (state : State σ) (index : Nat) (clean : Bool) :
    (goOnLive monitor state index clean).sketch =
      goOnLive (monitor.ruledBy stops) state.sketch index clean := by
  unfold goOnLive
  rw [primaries_ruledBy]
  by_cases hroom : index < monitor.primaries.length
  · rw [if_pos hroom, if_pos hroom]
    rfl
  · rw [if_neg hroom, if_neg hroom]
    exact sketch_endLive hfollows state clean

theorem sketch_enterLive (state : State σ) :
    (enterLive monitor state).sketch =
      enterLive (monitor.ruledBy stops) state.sketch := by
  rw [enterLive, sketch_goOnLive hfollows, sketch_enter hfollows, enterLive]

theorem sketch_endBootstrap (state : State σ) (seen : List Status) :
    (endBootstrap monitor state seen).sketch =
      endBootstrap (monitor.ruledBy stops) state.sketch
        (seen.map Status.undated) := by
  unfold endBootstrap
  simp only
  rw [sketch_enterLive hfollows,
    sketch_foldl
      (fun state status =>
        state.tell (monitor.ruledBy stops) (.booted status))
      Status.undated
      fun state status => State.sketch_tell hfollows state (.booted status),
    sketch_foldl_note fun _ => rfl]
  rfl

theorem sketch_goOnBootstrap
    (state : State σ) (index : Nat) (blocker : Option Nat)
    (seen : List Status) :
    (goOnBootstrap monitor state index blocker seen).sketch =
      goOnBootstrap (monitor.ruledBy stops) state.sketch index blocker
        (seen.map Status.undated) := by
  unfold goOnBootstrap
  rw [primaries_ruledBy]
  by_cases hroom : index < monitor.primaries.length
  · rw [if_pos hroom, if_pos hroom]
    rfl
  · rw [if_neg hroom, if_neg hroom]
    cases blocker with
    | none => exact sketch_endBootstrap hfollows state seen
    | some blocker => exact sketch_blocked hfollows state (.primary blocker)

theorem sketch_enterBootstrap (state : State σ) :
    (enterBootstrap monitor state).sketch =
      enterBootstrap (monitor.ruledBy stops) state.sketch := by
  unfold enterBootstrap
  simp only
  rw [sketch_goOnBootstrap hfollows, sketch_foldl_note fun _ => rfl,
    sketch_enter hfollows]
  rfl

theorem sketch_goOnDependencies
    (state : State σ) (index : Nat) (blocker : Option Nat) :
    (goOnDependencies monitor state index blocker).sketch =
      goOnDependencies (monitor.ruledBy stops) state.sketch index blocker := by
  unfold goOnDependencies
  rw [dependencies_ruledBy]
  by_cases hroom : index < monitor.dependencies.length
  · rw [if_pos hroom, if_pos hroom]
    rfl
  · rw [if_neg hroom, if_neg hroom]
    cases blocker with
    | none => exact sketch_enterBootstrap hfollows state
    | some blocker => exact sketch_blocked hfollows state (.dependency blocker)

theorem sketch_begin (state : State σ) :
    (begin monitor state).sketch =
      begin (monitor.ruledBy stops) state.sketch := by
  unfold begin
  rw [dependencies_ruledBy]
  by_cases hempty : monitor.dependencies.isEmpty = true
  · rw [if_pos hempty, if_pos hempty]
    exact sketch_enterBootstrap hfollows state
  · rw [if_neg hempty, if_neg hempty, sketch_goOnDependencies hfollows,
      sketch_enter hfollows]

theorem sketch_resume (state : State σ) :
    (resume monitor state).sketch =
      resume (monitor.ruledBy stops) state.sketch := by
  have hphase : state.sketch.phase = state.phase := rfl
  rw [resume, resume, hphase]
  cases state.phase with
  | dependencyWait => exact sketch_goOnDependencies hfollows state 0 none
  | bootstrap => exact sketch_goOnBootstrap hfollows state 0 none []
  | live => exact sketch_goOnLive hfollows state 0 true

theorem sketch_heartbeat (state : State σ) :
    (heartbeat monitor state).sketch =
      heartbeat (monitor.ruledBy stops) state.sketch := by
  have hlatest :
      state.sketch.latest = state.latest.map Status.undated := rfl
  have hlast : state.sketch.lastHeartbeat = state.lastHeartbeat := rfl
  have hnow : state.sketch.now = state.now := rfl
  have hbeat : ∀ status : Status,
      State.sketch
          { state.tell monitor (.heartbeat status) with
            lastHeartbeat := some state.now.instant } =
        { state.sketch.tell (monitor.ruledBy stops)
              (.heartbeat status.undated) with
          lastHeartbeat := some state.now.instant } :=
    fun status =>
      congrArg
        (fun told : State Unit =>
          { told with lastHeartbeat := some state.now.instant })
        (State.sketch_tell hfollows state (.heartbeat status))
  unfold heartbeat
  simp only [hlatest, hlast, hnow, timing_ruledBy]
  cases state.lastHeartbeat with
  | none =>
      cases state.latest with
      | none => rfl
      | some status => exact hbeat status
  | some before =>
      simp only
      cases decide (monitor.timing.reportInterval ≤
          state.now.instant - before) with
      | false => rfl
      | true =>
          cases state.latest with
          | none => rfl
          | some status => exact hbeat status

theorem sketch_shutDown (state : State σ) :
    (shutDown monitor state).sketch =
      shutDown (monitor.ruledBy stops) state.sketch :=
  congrArg₂ Run.mk (State.sketch_close hfollows state) rfl

/-! ## The answers -/

theorem sketch_answerDependencies
    (state : State σ) (index : Nat) (blocker : Option Nat) (probe : Probe)
    (safeMode : Bool) (outcome : PingOutcome) :
    (answerDependencies monitor state index blocker probe safeMode
        outcome).sketch =
      answerDependencies (monitor.ruledBy stops) state.sketch index blocker
        probe safeMode outcome.undated := by
  cases outcome with
  | completed status =>
      have hslot :
          (state.sketch.slot? (.dependency index)).getD {} =
            ((state.slot? (.dependency index)).getD {}).undated := by
        rw [State.slot?_sketch]
        cases state.slot? (.dependency index) with
        | none => rfl
        | some slot => rfl
      simp only [answerDependencies, PingOutcome.undated, hslot]
      rw [sketch_goOnDependencies hfollows,
        State.sketch_modifySlot _ (recordDependency probe
          (status.inPhase state.phase).undated safeMode) fun _ => rfl]
      rfl
  | timedOut => exact sketch_goOnDependencies hfollows state _ _
  | aborted abort => rfl

theorem sketch_answerBootstrap
    (state : State σ) (index : Nat) (blocker : Option Nat) (seen : List Status)
    (outcome : PingOutcome) :
    (answerBootstrap monitor state index blocker seen outcome).sketch =
      answerBootstrap (monitor.ruledBy stops) state.sketch index blocker
        (seen.map Status.undated) outcome.undated := by
  cases outcome with
  | completed status =>
      simp only [answerBootstrap, PingOutcome.undated]
      rw [sketch_goOnBootstrap hfollows, List.map_append,
        State.sketch_modifySlot _ (fun slot =>
          { slot with last := some (status.inPhase state.phase).undated })
          fun _ => rfl]
      rfl
  | timedOut => exact sketch_goOnBootstrap hfollows state _ _ seen
  | aborted abort => rfl

theorem sketch_takeResult (state : State σ) (index : Nat) (status : Status) :
    (takeResult monitor state index status).sketch =
      takeResult (monitor.ruledBy stops) state.sketch index status.undated := by
  unfold takeResult
  rw [State.sketch_tell hfollows,
    ← State.sketch_modifySlot (fun slot => { slot with last := some status })
      (fun slot => { slot with last := some status.undated }) fun _ => rfl]
  rfl

/-- On to the next ping of a live pass, once an answer was reported. -/
def goOnAfter
    (monitor : Monitor σ) (index : Nat) (clean : Bool) (state : State σ) :
    Run σ :=
  goOnLive monitor (heartbeat monitor state) (index + 1) clean

theorem sketch_goOnAfter (index : Nat) (clean : Bool) (state : State σ) :
    (goOnAfter monitor index clean state).sketch =
      goOnAfter (monitor.ruledBy stops) index clean state.sketch := by
  rw [goOnAfter, sketch_goOnLive hfollows, sketch_heartbeat hfollows, goOnAfter]

omit hfollows in
theorem answerLive_onVerdict
    (monitor : Monitor σ) (state : State σ) (index : Nat) (clean : Bool)
    (probe : Probe) (status : Status) :
    answerLive monitor state index clean probe (.completed status) =
      if status.success then
        goOnAfter monitor index clean
          (takeResult monitor state index (status.inPhase state.phase))
      else
        onVerdict (.probeFailed (status.inPhase state.phase))
          (goOnAfter monitor index false)
          ((takeResult monitor state index (status.inPhase state.phase)).ask
            monitor (.failure (status.inPhase state.phase))) := rfl

theorem sketch_answerLive
    (state : State σ) (index : Nat) (clean : Bool) (probe : Probe)
    (outcome : PingOutcome) :
    (answerLive monitor state index clean probe outcome).sketch =
      answerLive (monitor.ruledBy stops) state.sketch index clean probe
        outcome.undated := by
  cases outcome with
  | completed status =>
      have htold := sketch_takeResult hfollows state index
        (status.inPhase state.phase)
      rw [PingOutcome.undated, answerLive_onVerdict, answerLive_onVerdict,
        Status.success_undated]
      by_cases hsuccess : status.success = true
      · rw [if_pos hsuccess, if_pos hsuccess, sketch_goOnAfter hfollows, htold]
        rfl
      · rw [if_neg hsuccess, if_neg hsuccess,
          sketch_onVerdict hfollows _ (goOnAfter _ index false)
            (sketch_goOnAfter hfollows index false),
          htold]
        rfl
  | timedOut =>
      simp only [answerLive, PingOutcome.undated, State.lastStatus_sketch]
      exact sketch_onVerdict hfollows (goOnAfter monitor index false)
        (goOnAfter _ index false) (sketch_goOnAfter hfollows index false) state
        (.timedOut state.phase probe.name _ _)
        (.probeTimedOut state.phase probe.name _)
  | aborted abort => rfl

theorem sketch_answer
    (state : State σ) (pass : Pass) (probe : Probe) (safeMode : Bool)
    (outcome : PingOutcome) :
    (answer monitor state pass probe safeMode outcome).sketch =
      answer (monitor.ruledBy stops) state.sketch pass.undated probe safeMode
        outcome.undated := by
  cases pass with
  | dependencies index blocker =>
      exact sketch_answerDependencies hfollows state index blocker probe
        safeMode outcome
  | bootstrap index blocker seen =>
      exact sketch_answerBootstrap hfollows state index blocker seen outcome
  | live index clean =>
      exact sketch_answerLive hfollows state index clean probe outcome

/-! ## Steps -/

theorem sketch_stepPause (stop : Option Nat) (state : State σ) :
    (stepPause monitor stop state).sketch =
      stepPause (monitor.ruledBy stops) stop state.sketch := by
  have hnow : state.sketch.now = state.now := rfl
  simp only [stepPause, timing_ruledBy, hnow]
  cases stoppedBefore stop state.now
      (state.now.timer monitor.timing.probeInterval) with
  | none => exact sketch_resume hfollows _
  | some moment => exact sketch_shutDown hfollows _

end Run

end Schedule

/-! ## Pings -/

def Watch.undated (watch : Watch) : Watch :=
  { watch with outcome := watch.outcome.undated }

theorem Ending.outcome_undated (probe : Probe) (ending : Ending) :
    ending.undated.outcome probe = (ending.outcome probe).undated := by
  cases ending <;> rfl

theorem Watchdog.race_undated
    (timeout : Nat) (now : Moment) (probe : Probe) (call : Call) :
    race timeout now probe call.undated =
      (race timeout now probe call).undated := by
  have htakes : call.undated.takes = call.takes := rfl
  unfold race
  rw [htakes]
  cases call.takes with
  | none => rfl
  | some wait =>
      by_cases hintime : wait < timeout
      · simp only [if_pos hintime, Call.undated, Ending.outcome_undated]
        rfl
      · simp only [if_neg hintime]
        rfl

theorem Watchdog.ping_undated
    (watchdog : Watchdog) (now : Moment) (probe : Probe) (call : Call) :
    watchdog.ping now probe call.undated =
      ((watchdog.ping now probe call).1.undated,
        (watchdog.ping now probe call).2) := by
  unfold ping
  rw [race_undated]
  simp only
  cases race watchdog.timeout now probe call with
  | mk outcome answered begins returns =>
      cases outcome with
      | completed status => rfl
      | timedOut => cases probe.cancellable <;> rfl
      | aborted abort => rfl

namespace Run

section Pinging

variable (world : World) (state : State σ) (pass : Pass) (probe : Probe)

theorem callsBefore_sketch :
    callsBefore state.sketch pass.undated = callsBefore state pass := by
  rw [callsBefore, callsBefore, Pass.position_undated, State.slot?_sketch]
  cases state.slot? pass.position with
  | none => rfl
  | some slot => rfl

theorem callOf_sketch :
    callOf world.undated state.sketch pass.undated =
      (callOf world state pass).undated := by
  rw [callOf, callOf, callsBefore_sketch, Pass.position_undated]
  rfl

theorem watchOf_sketch :
    watchOf world.undated state.sketch pass.undated probe =
      (watchOf world state pass probe).undated := by
  rw [watchOf, callOf_sketch, Watchdog.race_undated]
  rfl

theorem answeredPing_sketch :
    answeredPing world.undated state.sketch pass.undated probe =
      (answeredPing world state pass probe).undated := by
  rw [answeredPing, callsBefore_sketch, watchOf_sketch, pingOf,
    Pass.position_undated, Pass.isLive_undated]
  rfl

theorem brokenPing_sketch (moment : Moment) :
    brokenPing world.undated state.sketch pass.undated moment =
      (brokenPing world state pass moment).undated := by
  rw [brokenPing, callsBefore_sketch, callOf_sketch, cutPing,
    Pass.position_undated, Pass.isLive_undated]
  rfl

theorem sketch_recordPing (ping : Ping) :
    (recordPing state ping).sketch = recordPing state.sketch ping.undated :=
  State.sketch_modifySlot (fun slot => { slot with calls := slot.calls + 1 })
    (fun slot => { slot with calls := slot.calls + 1 }) (fun _ => rfl)
    ping.position

theorem sketch_afterAnswer :
    (afterAnswer world state pass probe).sketch =
      afterAnswer world.undated state.sketch pass.undated probe := by
  rw [afterAnswer, afterAnswer, watchOf_sketch, callOf_sketch,
    Watchdog.ping_undated, answeredPing_sketch, ← sketch_recordPing]
  rfl

theorem sketch_afterBreak (moment : Moment) :
    (afterBreak world state pass moment).sketch =
      afterBreak world.undated state.sketch pass.undated moment := by
  rw [afterBreak, State.sketch_moveTo, sketch_recordPing, ← brokenPing_sketch,
    afterBreak]

end Pinging

section Steps

variable {monitor : Monitor σ} {stops : Callback → Bool}
  (hfollows : monitor.reporter.Follows stops)
include hfollows

theorem sketch_stepPing
    (world : World) (stop : Option Nat) (state : State σ) (pass : Pass)
    (probe : Probe) :
    (stepPing monitor world stop state pass probe).sketch =
      stepPing (monitor.ruledBy stops) world.undated stop state.sketch
        pass.undated probe := by
  have hnow : state.sketch.now = state.now := rfl
  rw [stepPing_eq, stepPing_eq, watchOf_sketch, callOf_sketch, hnow]
  simp only [Watch.undated]
  cases stoppedBefore stop state.now
    (watchOf world state pass probe).answered with
  | none =>
      simp only
      rw [sketch_answer hfollows, sketch_afterAnswer]
      rfl
  | some moment =>
      simp only
      rw [sketch_shutDown hfollows, apply_ite State.sketch, sketch_afterBreak]
      rfl

theorem sketch_step (world : World) (stop : Option Nat) (run : Run σ) :
    (step monitor world stop run).sketch =
      step (monitor.ruledBy stops) world.undated stop run.sketch := by
  obtain ⟨state, control⟩ := run
  cases control with
  | ended exit => rfl
  | pause => exact sketch_stepPause hfollows stop state
  | ping pass =>
      simp only [step, sketch, Control.undated, Pass.position_undated,
        probe?_ruledBy]
      cases monitor.probe? pass.position with
      | none => rfl
      | some probe => exact sketch_stepPing hfollows world stop state pass probe

/-- A run in the sketch is the run of the rule. -/
theorem sketch_play
    (world : World) (stop : Option Nat) (fuel : Nat) (run : Run σ) :
    (play monitor world stop fuel run).sketch =
      play (monitor.ruledBy stops) world.undated stop fuel run.sketch := by
  induction fuel generalizing run with
  | zero => rfl
  | succ fuel ih => rw [play_succ, play_succ, ih, sketch_step hfollows]

end Steps

end Run

/-! ## Lives -/

namespace Monitor

section Lives

variable {monitor : Monitor σ} {stops : Callback → Bool}

theorem sketch_initial (reporter : σ) :
    (State.initial monitor reporter).sketch =
      State.initial (monitor.ruledBy stops) () := by
  simp only [State.initial, State.sketch, List.map_map]
  rfl

theorem sketch_prepareFrom
    (world : World) (positions : List Position) (state : State σ) :
    (monitor.ruledBy stops).prepareFrom world.undated positions state.sketch =
      ((monitor.prepareFrom world positions state).1,
        (monitor.prepareFrom world positions state).2.sketch) := by
  induction positions generalizing state with
  | nil => rfl
  | cons position positions ih =>
      have hinit : world.undated.init position = world.init position := rfl
      simp only [prepareFrom, hinit]
      cases world.init position with
      | some error => rfl
      | none => exact ih (state.note (.prepared position))

theorem exit?_sketch (run : Run σ) :
    run.sketch.exit? = run.exit?.map RunExit.undated := by
  obtain ⟨state, control⟩ := run
  cases control <;> rfl

theorem sketch_perform_prepare
    (world : World) (fuel : Nat) (state : State σ) :
    (monitor.ruledBy stops).perform world.undated fuel state.sketch .prepare =
      ((monitor.perform world fuel state .prepare).1.undated,
        (monitor.perform world fuel state .prepare).2.sketch) := by
  have hpositions : (monitor.ruledBy stops).positions = monitor.positions := rfl
  simp only [perform, prepare, hpositions, sketch_prepareFrom]
  rcases monitor.prepareFrom world monitor.positions state with
    ⟨error | done, prepared⟩
  · rfl
  · rfl

variable (hfollows : monitor.reporter.Follows stops)
include hfollows

theorem sketch_start (state : State σ) :
    (monitor.ruledBy stops).start state.sketch =
      ((monitor.start state).1, (monitor.start state).2.sketch) := by
  have hverdict := State.verdict_sketch hfollows state
    (.start monitor.name monitor.description)
  have htold := State.sketch_tell hfollows state
    (.start monitor.name monitor.description)
  have hname : (monitor.ruledBy stops).name = monitor.name := rfl
  have hdescription :
      (monitor.ruledBy stops).description = monitor.description := rfl
  simp only [Callback.undated] at hverdict htold
  unfold start
  rw [hname, hdescription, State.ask_eq, State.ask_eq, hverdict, ← htold]
  rfl

theorem sketch_run
    (world : World) (stop : Option Nat) (fuel : Nat) (state : State σ) :
    (monitor.ruledBy stops).run world.undated stop fuel state.sketch =
      ((monitor.run world stop fuel state).1.map (·.map RunExit.undated),
        (monitor.run world stop fuel state).2.sketch) := by
  have hstarted : state.sketch.started = state.started := rfl
  unfold run
  rw [hstarted]
  cases state.started with
  | false => rfl
  | true =>
      simp only [if_true]
      rw [← Run.sketch_begin hfollows, ← Run.sketch_play hfollows,
        exit?_sketch]
      rfl

theorem sketch_performDeed (state : State σ) (deed : Deed) :
    (monitor.ruledBy stops).performDeed state.sketch deed.undated =
      ((monitor.performDeed state deed).1.undated,
        (monitor.performDeed state deed).2.sketch) := by
  obtain ⟨operation, world, fuel⟩ := deed
  cases operation with
  | prepare => exact sketch_perform_prepare world fuel state
  | start =>
      simp only [performDeed, perform, Deed.undated, sketch_start hfollows]
      rfl
  | run signal =>
      have hnow : state.sketch.now = state.now := rfl
      simp only [performDeed, perform, Deed.undated, hnow, sketch_run hfollows]
      rcases monitor.run world (signal.stop? state.now.instant) fuel state with
        ⟨error | exit, final⟩
      · rfl
      · rfl
  | close =>
      exact congrArg (Prod.mk Answer.done)
        (State.sketch_close hfollows state).symm
  | sleep wait => rfl

theorem sketch_after (state : State σ) (deeds : List Deed) :
    (monitor.after state deeds).sketch =
      (monitor.ruledBy stops).after state.sketch (deeds.map Deed.undated) := by
  apply sketch_foldl
  intro state deed
  rw [sketch_performDeed hfollows]

end Lives

end Monitor

end HealthMonitor
