import HealthMonitor.Proofs.Relay
import HealthMonitor.Proofs.Heartbeats

/-!
# Report intervals

Two monitors that differ only in their report interval, with reporters whose
verdicts do not depend on the heartbeats they hear, run alike.  No decision of
the schedule looks at what is remembered of heartbeats, so each step keeps the
two runs in one place.  The main statement is `run_sameButHeartbeats`.
-/

namespace HealthMonitor

variable {σ : Type}

/-! ## What the runs have in common -/

def Monitor.reportingEvery (monitor : Monitor σ) (interval : Nat) :
    Monitor σ :=
  { monitor with
    timing := { monitor.timing with reportInterval := interval } }

section Common

variable (monitor : Monitor σ) (interval : Nat)

@[simp] theorem dependencies_reportingEvery :
    (monitor.reportingEvery interval).dependencies = monitor.dependencies :=
  rfl

@[simp] theorem primaries_reportingEvery :
    (monitor.reportingEvery interval).primaries = monitor.primaries := rfl

@[simp] theorem probeInterval_reportingEvery :
    (monitor.reportingEvery interval).timing.probeInterval =
      monitor.timing.probeInterval := rfl

@[simp] theorem bootstrapLimit_reportingEvery :
    (monitor.reportingEvery interval).timing.bootstrapLimit =
      monitor.timing.bootstrapLimit := rfl

@[simp] theorem policy_reportingEvery :
    (monitor.reportingEvery interval).timing.policy =
      monitor.timing.policy := rfl

@[simp] theorem probe?_reportingEvery (position : Position) :
    (monitor.reportingEvery interval).probe? position =
      monitor.probe? position := rfl

@[simp] theorem probeName_reportingEvery (position : Position) :
    (monitor.reportingEvery interval).probeName position =
      monitor.probeName position := rfl

end Common

namespace Reporter

/-- From two states a reporter gives the same verdicts, whatever heartbeats it
hears in between. -/
def Agrees (reporter : Reporter σ) (state other : σ) : Prop :=
  ∀ history more : List Callback,
    history.filter (!·.isHeartbeat) = more.filter (!·.isHeartbeat) →
      ∀ callback, callback.isAsked = true →
        (reporter.react (reporter.hear state history) callback).1 =
          (reporter.react (reporter.hear other more) callback).1

variable {reporter : Reporter σ} {state other : σ} {callback : Callback}

theorem Agrees.react
    (hagrees : reporter.Agrees state other)
    (hcallback : callback.isHeartbeat = false) :
    reporter.Agrees (reporter.react state callback).2
      (reporter.react other callback).2 := by
  intro history more hsame
  apply hagrees (callback :: history) (callback :: more)
  simp [hcallback, hsame]

theorem Agrees.beat_left
    (hagrees : reporter.Agrees state other)
    (hcallback : callback.isHeartbeat = true) :
    reporter.Agrees (reporter.react state callback).2 other := by
  intro history more hsame
  apply hagrees (callback :: history) more
  simp [hcallback, hsame]

theorem Agrees.beat_right
    (hagrees : reporter.Agrees state other)
    (hcallback : callback.isHeartbeat = true) :
    reporter.Agrees state (reporter.react other callback).2 := by
  intro history more hsame
  apply hagrees history (callback :: more)
  simp [hcallback, hsame]

theorem Agrees.verdict_eq
    (hagrees : reporter.Agrees state other) (hasked : callback.isAsked = true) :
    (reporter.react state callback).1 = (reporter.react other callback).1 :=
  hagrees [] [] rfl callback hasked

end Reporter

/-- An entry as it shows in an outline: heartbeats do not, and a verdict does
only where the reporter is asked for it. -/
def Entry.outline? : Entry → Option Entry
  | told instant callback verdict =>
      if callback.isHeartbeat then none
      else if callback.isAsked then some (.told instant callback verdict)
      else some (.told instant callback .proceed)
  | entry => some entry

def outline (entries : List Entry) : List Entry :=
  entries.filterMap Entry.outline?

theorem outline_append (entries more : List Entry) :
    outline (entries ++ more) = outline entries ++ outline more :=
  List.filterMap_append

/-- What a run goes by: all of its state but the reporter, what it remembers of
heartbeats, and the transcript. -/
def State.gist (state : State σ) : State Unit :=
  { state with reporter := (), lastHeartbeat := none, transcript := [] }

/-- Two runs of monitors that differ in their report interval, in the same
place. -/
structure Alike
    (reporter : Reporter σ) (origin twin state other : State σ) : Prop where
  gist : other.gist = state.gist
  agrees : reporter.Agrees state.reporter other.reporter
  written : ∃ entries others,
    state.transcript = entries.reverse ++ origin.transcript ∧
      other.transcript = others.reverse ++ twin.transcript ∧
      outline others = outline entries

def AlikeRuns
    (reporter : Reporter σ) (origin twin : State σ) (run other : Run σ) :
    Prop :=
  other.control = run.control ∧
    Alike reporter origin twin run.state other.state

theorem AlikeRuns.exit?_eq
    {reporter : Reporter σ} {origin twin : State σ} {run other : Run σ}
    (halike : AlikeRuns reporter origin twin run other) :
    other.exit? = run.exit? := by
  rw [Run.exit?, halike.1, Run.exit?]

/-! ## What keeps runs alike -/

section Kept

variable {monitor : Monitor σ} {interval : Nat}
  {origin twin state other next : State σ}

namespace Alike

variable {reporter : Reporter σ}

theorem now_eq (halike : Alike reporter origin twin state other) :
    other.now = state.now :=
  congrArg (·.now) halike.gist

theorem watchdog_eq (halike : Alike reporter origin twin state other) :
    other.watchdog = state.watchdog :=
  congrArg (·.watchdog) halike.gist

theorem phase_eq (halike : Alike reporter origin twin state other) :
    other.phase = state.phase :=
  congrArg (·.phase) halike.gist

theorem phaseEntered_eq (halike : Alike reporter origin twin state other) :
    other.phaseEntered = state.phaseEntered :=
  congrArg (·.phaseEntered) halike.gist

theorem cleanBefore_eq (halike : Alike reporter origin twin state other) :
    other.cleanBefore = state.cleanBefore :=
  congrArg (·.cleanBefore) halike.gist

theorem closed_eq (halike : Alike reporter origin twin state other) :
    other.closed = state.closed :=
  congrArg (·.closed) halike.gist

theorem slot?_eq
    (halike : Alike reporter origin twin state other) (position : Position) :
    other.slot? position = state.slot? position :=
  congrArg (·.slot? position) halike.gist

theorem lastStatus_eq
    (halike : Alike reporter origin twin state other) (position : Position) :
    other.lastStatus position = state.lastStatus position := by
  rw [State.lastStatus, halike.slot?_eq, State.lastStatus]

theorem congr
    (halike : Alike reporter origin twin state other) {next mate : State σ}
    (hgist : mate.gist = next.gist)
    (hreporter : next.reporter = state.reporter)
    (hmateReporter : mate.reporter = other.reporter)
    (htranscript : next.transcript = state.transcript)
    (hmateTranscript : mate.transcript = other.transcript) :
    Alike reporter origin twin next mate where
  gist := hgist
  agrees := by
    rw [hreporter, hmateReporter]
    exact halike.agrees
  written := by
    rw [htranscript, hmateTranscript]
    exact halike.written

theorem moveTo
    (halike : Alike reporter origin twin state other) (moment : Moment) :
    Alike reporter origin twin (state.moveTo moment) (other.moveTo moment) :=
  halike.congr (congrArg (·.moveTo moment) halike.gist) rfl rfl rfl rfl

theorem modifySlot
    (halike : Alike reporter origin twin state other) (position : Position)
    (change : Slot → Slot) :
    Alike reporter origin twin (state.modifySlot position change)
      (other.modifySlot position change) := by
  cases position with
  | dependency index =>
      exact halike.congr
        (congrArg (·.modifySlot (.dependency index) change) halike.gist)
        rfl rfl rfl rfl
  | primary index =>
      exact halike.congr
        (congrArg (·.modifySlot (.primary index) change) halike.gist)
        rfl rfl rfl rfl

theorem note
    (halike : Alike reporter origin twin state other) (entry : Entry) :
    Alike reporter origin twin (state.note entry) (other.note entry) where
  gist := halike.gist
  agrees := halike.agrees
  written := by
    obtain ⟨entries, others, htranscript, hother, hsame⟩ := halike.written
    refine ⟨entries ++ [entry], others ++ [entry], ?_, ?_, ?_⟩
    · simp [State.note, htranscript]
    · simp [State.note, hother]
    · rw [outline_append, outline_append, hsame]

theorem remember
    (halike : Alike reporter origin twin state other) (status : Status) :
    Alike reporter origin twin { state with latest := some status }
      { other with latest := some status } :=
  halike.congr
    (congrArg (fun gist : State Unit => { gist with latest := some status })
      halike.gist)
    rfl rfl rfl rfl

theorem mark
    (halike : Alike reporter origin twin state other) (clean : Bool) :
    Alike reporter origin twin { state with cleanBefore := clean }
      { other with cleanBefore := clean } :=
  halike.congr
    (congrArg (fun gist : State Unit => { gist with cleanBefore := clean })
      halike.gist)
    rfl rfl rfl rfl

theorem foldl
    {α : Type} (change mateChange : State σ → α → State σ)
    (hchange : ∀ state other item, Alike reporter origin twin state other →
      Alike reporter origin twin (change state item) (mateChange other item))
    (halike : Alike reporter origin twin state other) (items : List α) :
    Alike reporter origin twin (items.foldl change state)
      (items.foldl mateChange other) := by
  induction items generalizing state other with
  | nil => exact halike
  | cons item items ih => exact ih (hchange state other item halike)

end Alike

theorem Alike.verdict_eq
    (halike : Alike monitor.reporter origin twin state other)
    {callback : Callback} (hasked : callback.isAsked = true) :
    other.verdict (monitor.reportingEvery interval) callback =
      state.verdict monitor callback :=
  (halike.agrees.verdict_eq hasked).symm

variable (interval) in
theorem Alike.tell
    (halike : Alike monitor.reporter origin twin state other)
    (callback : Callback) (hcallback : callback.isHeartbeat = false) :
    Alike monitor.reporter origin twin (state.tell monitor callback)
      (other.tell (monitor.reportingEvery interval) callback) where
  gist := halike.gist
  agrees := halike.agrees.react hcallback
  written := by
    obtain ⟨entries, others, htranscript, hother, hsame⟩ := halike.written
    refine ⟨entries ++ [.told state.now.instant callback
        (state.verdict monitor callback)],
      others ++ [.told other.now.instant callback
        (other.verdict (monitor.reportingEvery interval) callback)],
      ?_, ?_, ?_⟩
    · rw [List.reverse_concat, List.cons_append, ← htranscript]
      rfl
    · rw [List.reverse_concat, List.cons_append, ← hother]
      rfl
    · rw [outline_append, outline_append, hsame, halike.now_eq]
      congr 1
      by_cases hasked : callback.isAsked = true
      · rw [halike.verdict_eq hasked]
      · simp [outline, Entry.outline?, hcallback, hasked]

/-- A heartbeat on one side leaves the runs alike. -/
theorem Alike.heartbeat_left
    {reporter : Reporter σ} {watcher : Monitor σ}
    (hreporter : watcher.reporter = reporter)
    (halike : Alike reporter origin twin state other) :
    Alike reporter origin twin (Run.heartbeat watcher state) other := by
  subst hreporter
  unfold Run.heartbeat
  simp only
  split
  next status _ hlatest =>
    constructor
    case gist => exact halike.gist
    case agrees => exact halike.agrees.beat_left rfl
    case written =>
      obtain ⟨entries, others, htranscript, hother, hsame⟩ := halike.written
      refine ⟨entries ++ [.told state.now.instant (.heartbeat status)
          (state.verdict watcher (.heartbeat status))], others, ?_, hother, ?_⟩
      · rw [List.reverse_concat, List.cons_append, ← htranscript]
        rfl
      · rw [outline_append, hsame]
        exact (List.append_nil _).symm
  next => exact halike

theorem Alike.heartbeat_right
    {reporter : Reporter σ} {watcher : Monitor σ}
    (hreporter : watcher.reporter = reporter)
    (halike : Alike reporter origin twin state other) :
    Alike reporter origin twin state (Run.heartbeat watcher other) := by
  subst hreporter
  unfold Run.heartbeat
  simp only
  split
  next status _ hlatest =>
    constructor
    case gist => exact halike.gist
    case agrees => exact halike.agrees.beat_right rfl
    case written =>
      obtain ⟨entries, others, htranscript, hother, hsame⟩ := halike.written
      refine ⟨entries, others ++ [.told other.now.instant (.heartbeat status)
          (other.verdict watcher (.heartbeat status))], htranscript, ?_, ?_⟩
      · rw [List.reverse_concat, List.cons_append, ← hother]
        rfl
      · rw [outline_append, hsame]
        exact List.append_nil _
  next => exact halike

theorem Alike.heartbeat
    (halike : Alike monitor.reporter origin twin state other) :
    Alike monitor.reporter origin twin (Run.heartbeat monitor state)
      (Run.heartbeat (monitor.reportingEvery interval) other) :=
  (halike.heartbeat_left rfl).heartbeat_right rfl

theorem Alike.enter
    (halike : Alike monitor.reporter origin twin state other) (phase : Phase) :
    Alike monitor.reporter origin twin (Run.enter monitor state phase)
      (Run.enter (monitor.reportingEvery interval) other phase) := by
  have hmoved : Alike monitor.reporter origin twin
      { state with phase, phaseEntered := state.now.instant }
      { other with phase, phaseEntered := other.now.instant } :=
    halike.congr
      (congrArg (fun gist : State Unit =>
        { gist with phase, phaseEntered := gist.now.instant }) halike.gist)
      rfl rfl rfl rfl
  exact hmoved.tell interval _ rfl

theorem Alike.close
    (halike : Alike monitor.reporter origin twin state other) :
    Alike monitor.reporter origin twin (state.close monitor)
      (other.close (monitor.reportingEvery interval)) := by
  unfold State.close
  rw [halike.closed_eq]
  by_cases hclosed : state.closed = true
  · rw [if_pos hclosed, if_pos hclosed]
    exact halike
  · rw [if_neg hclosed, if_neg hclosed]
    have hmarked : Alike monitor.reporter origin twin
        { state with closed := true } { other with closed := true } :=
      halike.congr
        (congrArg (fun gist : State Unit => { gist with closed := true })
          halike.gist)
        rfl rfl rfl rfl
    exact hmarked.tell interval _ rfl

/-! ## On to the next wait -/

theorem alike_blocked
    (halike : Alike monitor.reporter origin twin state other)
    (blocker : Position) :
    AlikeRuns monitor.reporter origin twin (Run.blocked monitor state blocker)
      (Run.blocked (monitor.reportingEvery interval) other blocker) := by
  unfold Run.blocked
  simp only [bootstrapLimit_reportingEvery, probeName_reportingEvery,
    halike.now_eq, halike.phaseEntered_eq, halike.phase_eq,
    halike.lastStatus_eq]
  cases monitor.timing.bootstrapLimit with
  | none => exact ⟨rfl, halike⟩
  | some limit =>
      by_cases hearly : state.now.instant - state.phaseEntered < limit
      · simp only [if_pos hearly]
        exact ⟨rfl, halike⟩
      · simp only [if_neg hearly]
        exact ⟨rfl, halike.tell interval _ rfl⟩

/-- What follows a callback on which the reporter has a say. -/
def Run.onVerdict
    (exit : RunExit) (goOn : State σ → Run σ) (asked : Verdict × State σ) :
    Run σ :=
  if asked.1.stops then ⟨asked.2, .ended exit⟩ else goOn asked.2

theorem alike_onVerdict
    (exit : RunExit) (goOn mate : State σ → Run σ)
    (hgoOn : ∀ state other, Alike monitor.reporter origin twin state other →
      AlikeRuns monitor.reporter origin twin (goOn state) (mate other))
    (halike : Alike monitor.reporter origin twin state other)
    (callback : Callback) (hasked : callback.isAsked = true)
    (hbeat : callback.isHeartbeat = false) :
    AlikeRuns monitor.reporter origin twin
      (Run.onVerdict exit goOn (state.ask monitor callback))
      (Run.onVerdict exit mate
        (other.ask (monitor.reportingEvery interval) callback)) := by
  have htold := halike.tell interval callback hbeat
  rw [State.ask_eq, State.ask_eq, halike.verdict_eq hasked]
  cases state.verdict monitor callback with
  | proceed => exact hgoOn _ _ htold
  | stop => exact ⟨rfl, htold⟩

theorem alike_endLive
    (halike : Alike monitor.reporter origin twin state other) (clean : Bool) :
    AlikeRuns monitor.reporter origin twin (Run.endLive monitor state clean)
      (Run.endLive (monitor.reportingEvery interval) other clean) := by
  unfold Run.endLive
  simp only [halike.cleanBefore_eq]
  by_cases hcompleted : (clean && state.cleanBefore) = true
  · simp only [if_pos hcompleted]
    exact alike_onVerdict .cycleCompleted (fun state => ⟨state, .pause⟩)
      (fun other => ⟨other, .pause⟩) (fun _ _ hsame => ⟨rfl, hsame⟩)
      (halike.mark clean) .cycle rfl rfl
  · simp only [if_neg hcompleted]
    exact ⟨rfl, halike.mark clean⟩

theorem alike_goOnLive
    (halike : Alike monitor.reporter origin twin state other) (index : Nat)
    (clean : Bool) :
    AlikeRuns monitor.reporter origin twin
      (Run.goOnLive monitor state index clean)
      (Run.goOnLive (monitor.reportingEvery interval) other index clean) := by
  unfold Run.goOnLive
  rw [primaries_reportingEvery]
  by_cases hrange : index < monitor.primaries.length
  · rw [if_pos hrange, if_pos hrange]
    exact ⟨rfl, halike⟩
  · rw [if_neg hrange, if_neg hrange]
    exact alike_endLive halike clean

theorem alike_endBootstrap
    (halike : Alike monitor.reporter origin twin state other)
    (seen : List Status) :
    AlikeRuns monitor.reporter origin twin
      (Run.endBootstrap monitor state seen)
      (Run.endBootstrap (monitor.reportingEvery interval) other seen) := by
  have hended := halike.foldl
    (fun state position => state.note (.endedBootstrap position))
    (fun state position => state.note (.endedBootstrap position))
    (fun _ _ _ hsame => hsame.note _) monitor.primaryPositions
  have htold := hended.foldl
    (fun state status => state.tell monitor (.booted status))
    (fun state status =>
      state.tell (monitor.reportingEvery interval) (.booted status))
    (fun _ _ _ hsame => hsame.tell interval _ rfl) seen
  exact alike_goOnLive (htold.enter .live) 0 true

theorem alike_goOnBootstrap
    (halike : Alike monitor.reporter origin twin state other) (index : Nat)
    (blocker : Option Nat) (seen : List Status) :
    AlikeRuns monitor.reporter origin twin
      (Run.goOnBootstrap monitor state index blocker seen)
      (Run.goOnBootstrap (monitor.reportingEvery interval) other index blocker
        seen) := by
  unfold Run.goOnBootstrap
  rw [primaries_reportingEvery]
  by_cases hrange : index < monitor.primaries.length
  · rw [if_pos hrange, if_pos hrange]
    exact ⟨rfl, halike⟩
  · rw [if_neg hrange, if_neg hrange]
    cases blocker with
    | none => exact alike_endBootstrap halike seen
    | some blocker => exact alike_blocked halike (.primary blocker)

theorem alike_enterBootstrap
    (halike : Alike monitor.reporter origin twin state other) :
    AlikeRuns monitor.reporter origin twin (Run.enterBootstrap monitor state)
      (Run.enterBootstrap (monitor.reportingEvery interval) other) := by
  refine alike_goOnBootstrap ?_ 0 none []
  exact (halike.enter .bootstrap).foldl
    (fun state position => state.note (.beganBootstrap position))
    (fun state position => state.note (.beganBootstrap position))
    (fun _ _ _ hsame => hsame.note _) _

theorem alike_goOnDependencies
    (halike : Alike monitor.reporter origin twin state other) (index : Nat)
    (blocker : Option Nat) :
    AlikeRuns monitor.reporter origin twin
      (Run.goOnDependencies monitor state index blocker)
      (Run.goOnDependencies (monitor.reportingEvery interval) other index
        blocker) := by
  unfold Run.goOnDependencies
  rw [dependencies_reportingEvery]
  by_cases hrange : index < monitor.dependencies.length
  · rw [if_pos hrange, if_pos hrange]
    exact ⟨rfl, halike⟩
  · rw [if_neg hrange, if_neg hrange]
    cases blocker with
    | none => exact alike_enterBootstrap halike
    | some blocker => exact alike_blocked halike (.dependency blocker)

theorem alike_begin
    (halike : Alike monitor.reporter origin twin state other) :
    AlikeRuns monitor.reporter origin twin (Run.begin monitor state)
      (Run.begin (monitor.reportingEvery interval) other) := by
  unfold Run.begin
  rw [dependencies_reportingEvery]
  by_cases hempty : monitor.dependencies.isEmpty = true
  · rw [if_pos hempty, if_pos hempty]
    exact alike_enterBootstrap halike
  · rw [if_neg hempty, if_neg hempty]
    exact alike_goOnDependencies (halike.enter .dependencyWait) 0 none

theorem alike_resume
    (halike : Alike monitor.reporter origin twin state other) :
    AlikeRuns monitor.reporter origin twin (Run.resume monitor state)
      (Run.resume (monitor.reportingEvery interval) other) := by
  unfold Run.resume
  rw [halike.phase_eq]
  cases state.phase with
  | dependencyWait => exact alike_goOnDependencies halike 0 none
  | bootstrap => exact alike_goOnBootstrap halike 0 none []
  | live => exact alike_goOnLive halike 0 true

/-! ## Answers -/

theorem alike_answerDependencies
    (halike : Alike monitor.reporter origin twin state other) (index : Nat)
    (blocker : Option Nat) (probe : Probe) (safeMode : Bool)
    (outcome : PingOutcome) :
    AlikeRuns monitor.reporter origin twin
      (Run.answerDependencies monitor state index blocker probe safeMode
        outcome)
      (Run.answerDependencies (monitor.reportingEvery interval) other index
        blocker probe safeMode outcome) := by
  cases outcome with
  | completed status =>
      simp only [Run.answerDependencies, policy_reportingEvery,
        halike.phase_eq, halike.slot?_eq]
      exact alike_goOnDependencies (halike.modifySlot _ _) _ _
  | timedOut => exact alike_goOnDependencies halike _ _
  | aborted abort => exact ⟨rfl, halike⟩

theorem alike_answerBootstrap
    (halike : Alike monitor.reporter origin twin state other) (index : Nat)
    (blocker : Option Nat) (seen : List Status) (outcome : PingOutcome) :
    AlikeRuns monitor.reporter origin twin
      (Run.answerBootstrap monitor state index blocker seen outcome)
      (Run.answerBootstrap (monitor.reportingEvery interval) other index
        blocker seen outcome) := by
  cases outcome with
  | completed status =>
      simp only [Run.answerBootstrap, halike.phase_eq]
      exact alike_goOnBootstrap (halike.modifySlot _ _) _ _ _
  | timedOut => exact alike_goOnBootstrap halike _ _ _
  | aborted abort => exact ⟨rfl, halike⟩

theorem alike_answerLive
    (halike : Alike monitor.reporter origin twin state other) (index : Nat)
    (clean : Bool) (probe : Probe) (outcome : PingOutcome) :
    AlikeRuns monitor.reporter origin twin
      (Run.answerLive monitor state index clean probe outcome)
      (Run.answerLive (monitor.reportingEvery interval) other index clean probe
        outcome) := by
  have hgoOn : ∀ state other, Alike monitor.reporter origin twin state other →
      AlikeRuns monitor.reporter origin twin
        (Run.goOnLive monitor (Run.heartbeat monitor state) (index + 1) false)
        (Run.goOnLive (monitor.reportingEvery interval)
          (Run.heartbeat (monitor.reportingEvery interval) other) (index + 1)
          false) :=
    fun _ _ hsame => alike_goOnLive hsame.heartbeat _ _
  cases outcome with
  | completed status =>
      simp only [Run.answerLive, halike.phase_eq]
      have hlearned := halike.modifySlot (.primary index)
        fun slot => { slot with last := some (status.inPhase state.phase) }
      have htold := (hlearned.remember (status.inPhase state.phase)).tell
        interval (.result .live (status.inPhase state.phase)) rfl
      by_cases hsuccess : (status.inPhase state.phase).success = true
      · simp only [if_pos hsuccess]
        exact alike_goOnLive htold.heartbeat _ _
      · simp only [if_neg hsuccess]
        exact alike_onVerdict _ _ _ hgoOn htold _ rfl rfl
  | timedOut =>
      have hphase (callback : Callback) :
          (other.ask (monitor.reportingEvery interval) callback).2.phase =
            state.phase :=
        halike.phase_eq
      simp only [Run.answerLive, halike.phase_eq, halike.lastStatus_eq,
        halike.now_eq, hphase]
      exact alike_onVerdict (.probeTimedOut state.phase probe.name _) _ _ hgoOn
        halike (.timedOut state.phase probe.name _ _) rfl rfl
  | aborted abort => exact ⟨rfl, halike⟩

theorem alike_answer
    (halike : Alike monitor.reporter origin twin state other) (pass : Pass)
    (probe : Probe) (safeMode : Bool) (outcome : PingOutcome) :
    AlikeRuns monitor.reporter origin twin
      (Run.answer monitor state pass probe safeMode outcome)
      (Run.answer (monitor.reportingEvery interval) other pass probe safeMode
        outcome) := by
  cases pass with
  | dependencies index blocker =>
      exact alike_answerDependencies halike index blocker probe safeMode outcome
  | bootstrap index blocker seen =>
      exact alike_answerBootstrap halike index blocker seen outcome
  | live index clean => exact alike_answerLive halike index clean probe outcome

/-! ## Steps -/

theorem alike_shutDown
    (halike : Alike monitor.reporter origin twin state other) :
    AlikeRuns monitor.reporter origin twin (Run.shutDown monitor state)
      (Run.shutDown (monitor.reportingEvery interval) other) :=
  ⟨rfl, halike.close⟩

theorem alike_stepPause
    (stop : Option Nat)
    (halike : Alike monitor.reporter origin twin state other) :
    AlikeRuns monitor.reporter origin twin (Run.stepPause monitor stop state)
      (Run.stepPause (monitor.reportingEvery interval) stop other) := by
  unfold Run.stepPause
  simp only [halike.now_eq, probeInterval_reportingEvery]
  cases Run.stoppedBefore stop state.now
      (state.now.timer monitor.timing.probeInterval) with
  | none => exact alike_resume (halike.moveTo _)
  | some moment => exact alike_shutDown (halike.moveTo moment)

theorem Alike.recordPing
    {reporter : Reporter σ} (halike : Alike reporter origin twin state other)
    (ping : Ping) :
    Alike reporter origin twin (Run.recordPing state ping)
      (Run.recordPing other ping) :=
  (halike.note (.pinged ping)).modifySlot _ _

theorem Alike.callOf_eq
    {reporter : Reporter σ} (halike : Alike reporter origin twin state other)
    (world : World) (pass : Pass) :
    Run.callOf world other pass = Run.callOf world state pass := by
  simp [Run.callOf, Run.callsBefore, halike.slot?_eq]

theorem Alike.watchOf_eq
    {reporter : Reporter σ} (halike : Alike reporter origin twin state other)
    (world : World) (pass : Pass) (probe : Probe) :
    Run.watchOf world other pass probe = Run.watchOf world state pass probe := by
  simp [Run.watchOf, halike.callOf_eq, halike.watchdog_eq, halike.now_eq]

theorem Alike.afterAnswer
    {reporter : Reporter σ} (halike : Alike reporter origin twin state other)
    (world : World) (pass : Pass) (probe : Probe) :
    Alike reporter origin twin (Run.afterAnswer world state pass probe)
      (Run.afterAnswer world other pass probe) := by
  have hping : Run.answeredPing world other pass probe =
      Run.answeredPing world state pass probe := by
    simp [Run.answeredPing, Run.pingOf, Run.callsBefore, halike.slot?_eq,
      halike.watchOf_eq, halike.now_eq]
  unfold Run.afterAnswer
  rw [hping, halike.watchOf_eq, halike.callOf_eq, halike.watchdog_eq,
    halike.now_eq]
  have hrecorded :=
    halike.recordPing (Run.answeredPing world state pass probe)
  exact hrecorded.congr
    (congrArg (fun gist : State Unit =>
      { gist with
        now := (Run.watchOf world state pass probe).answered
        watchdog := (state.watchdog.ping state.now probe
          (Run.callOf world state pass)).2 }) hrecorded.gist)
    rfl rfl rfl rfl

theorem Alike.afterBreak
    {reporter : Reporter σ} (halike : Alike reporter origin twin state other)
    (world : World) (pass : Pass) (moment : Moment) :
    Alike reporter origin twin (Run.afterBreak world state pass moment)
      (Run.afterBreak world other pass moment) := by
  have hping : Run.brokenPing world other pass moment =
      Run.brokenPing world state pass moment := by
    simp [Run.brokenPing, Run.cutPing, Run.callsBefore, halike.slot?_eq,
      halike.callOf_eq, halike.now_eq]
  unfold Run.afterBreak
  rw [hping]
  exact (halike.recordPing _).moveTo moment

theorem alike_stepPing
    (world : World) (stop : Option Nat)
    (halike : Alike monitor.reporter origin twin state other) (pass : Pass)
    (probe : Probe) :
    AlikeRuns monitor.reporter origin twin
      (Run.stepPing monitor world stop state pass probe)
      (Run.stepPing (monitor.reportingEvery interval) world stop other pass
        probe) := by
  rw [Run.stepPing_eq, Run.stepPing_eq, halike.now_eq, halike.watchOf_eq,
    halike.callOf_eq]
  cases Run.stoppedBefore stop state.now
      (Run.watchOf world state pass probe).answered with
  | none => exact alike_answer (halike.afterAnswer world pass probe) _ _ _ _
  | some moment =>
      simp only
      by_cases hsame : moment = state.now
      · rw [if_pos hsame, if_pos hsame]
        exact alike_shutDown (halike.moveTo moment)
      · rw [if_neg hsame, if_neg hsame]
        exact alike_shutDown (halike.afterBreak world pass moment)

theorem alike_step
    (world : World) (stop : Option Nat) {run mate : Run σ}
    (halike : AlikeRuns monitor.reporter origin twin run mate) :
    AlikeRuns monitor.reporter origin twin (Run.step monitor world stop run)
      (Run.step (monitor.reportingEvery interval) world stop mate) := by
  obtain ⟨state, control⟩ := run
  obtain ⟨other, mateControl⟩ := mate
  obtain ⟨rfl, hstates⟩ := halike
  cases mateControl with
  | ended exit => exact ⟨rfl, hstates⟩
  | pause => exact alike_stepPause stop hstates
  | ping pass =>
      simp only [Run.step, probe?_reportingEvery]
      cases monitor.probe? pass.position with
      | none => exact ⟨rfl, hstates⟩
      | some probe => exact alike_stepPing world stop hstates pass probe

theorem alike_play
    (world : World) (stop : Option Nat) (fuel : Nat) {run mate : Run σ}
    (halike : AlikeRuns monitor.reporter origin twin run mate) :
    AlikeRuns monitor.reporter origin twin
      (Run.play monitor world stop fuel run)
      (Run.play (monitor.reportingEvery interval) world stop fuel mate) := by
  induction fuel generalizing run mate with
  | zero => exact halike
  | succ fuel ih =>
      rw [Run.play_succ, Run.play_succ]
      exact ih (alike_step world stop halike)

end Kept

/-! ## Two runs -/

theorem Monitor.Fresh.gist_eq
    {monitor : Monitor σ} {state : State σ} (hfresh : monitor.Fresh state)
    (reporter : σ) :
    state.gist =
      { (State.initial monitor reporter).gist with
        now := state.now, started := state.started } := by
  induction hfresh with
  | built hbuilt =>
      rw [build?_eq_ok hbuilt]
      rfl
  | @performed state hfresh world fuel operation hoperation ih =>
      cases operation with
      | prepare =>
          rw [perform_prepare_snd,
            prepareFrom_keeps State.gist (fun _ _ => rfl), ih,
            prepareFrom_keeps State.now (fun _ _ => rfl),
            prepareFrom_keeps State.started (fun _ _ => rfl)]
      | start =>
          exact congrArg (fun gist : State Unit =>
            { gist with started := (monitor.start state).1 }) ih
      | sleep wait => exact congrArg (·.moveTo (state.now.timer wait)) ih
      | run signal => exact nomatch hoperation
      | close => exact nomatch hoperation

theorem alike_origins
    {monitor : Monitor σ} {interval : Nat} {origin twin : State σ}
    (hfresh : monitor.Fresh origin)
    (htwin : (monitor.reportingEvery interval).Fresh twin)
    (hnow : twin.now = origin.now) (hstarted : twin.started = origin.started)
    (hagrees : monitor.reporter.Agrees origin.reporter twin.reporter) :
    Alike monitor.reporter origin twin origin twin where
  gist := by
    rw [htwin.gist_eq twin.reporter, hfresh.gist_eq origin.reporter, hnow,
      hstarted]
    rfl
  agrees := hagrees
  written := ⟨[], [], rfl, rfl, rfl⟩

/-- A callback and its instant. -/
def Entry.word? : Entry → Option (Nat × Callback)
  | told instant callback _ => some (instant, callback)
  | _ => none

/-- The callbacks of some entries with their instants, without the heartbeats. -/
def wordsIn (entries : List Entry) : List (Nat × Callback) :=
  (entries.filterMap Entry.word?).filter (!·.2.isHeartbeat)

theorem pingsIn_outline (entries : List Entry) :
    pingsIn (outline entries) = pingsIn entries := by
  rw [pingsIn, outline, List.filterMap_filterMap, pingsIn]
  congr 1
  funext entry
  cases entry with
  | told instant callback verdict =>
      simp only [Entry.outline?]
      split
      next => rfl
      next =>
        split
        next => rfl
        next => rfl
  | _ => rfl

theorem wordsIn_outline (entries : List Entry) :
    wordsIn (outline entries) = wordsIn entries := by
  induction entries with
  | nil => rfl
  | cons entry entries ih =>
      rw [← List.singleton_append, outline_append]
      simp only [wordsIn, List.filterMap_append, List.filter_append] at ih ⊢
      rw [ih]
      congr 1
      cases entry with
      | told instant callback verdict =>
          by_cases hbeat : callback.isHeartbeat = true
          · simp [outline, Entry.outline?, Entry.word?, hbeat]
          · by_cases hasked : callback.isAsked = true
            · simp [outline, Entry.outline?, Entry.word?, hbeat, hasked]
            · simp [outline, Entry.outline?, Entry.word?, hbeat, hasked]
      | _ => rfl

/-- What two runs wrote is the same but for heartbeats. -/
structure SameButHeartbeats (entries others : List Entry) : Prop where
  pings : pingsIn others = pingsIn entries
  words : wordsIn others = wordsIn entries
  /-- Pings and callbacks also come in the same order. -/
  outline : outline others = outline entries

/-- Another report interval changes the heartbeats of a run and nothing else, as
long as what the reporter hears of them does not change its verdicts. -/
theorem run_sameButHeartbeats
    {monitor : Monitor σ} {world : World} {stop : Option Nat} {fuel : Nat}
    {interval : Nat} {origin twin final : State σ} {exit : Option RunExit}
    (hfresh : monitor.Fresh origin)
    (htwin : (monitor.reportingEvery interval).Fresh twin)
    (hnow : twin.now = origin.now) (hstarted : twin.started = true)
    (hagrees : monitor.reporter.Agrees origin.reporter twin.reporter)
    (hrun : monitor.run world stop fuel origin = (.ok exit, final)) :
    ∃ last,
      (monitor.reportingEvery interval).run world stop fuel twin =
          (.ok exit, last) ∧
        last.now = final.now ∧
        SameButHeartbeats (final.since origin) (last.since twin) := by
  unfold Monitor.run at hrun ⊢
  split at hrun
  next hstartedOrigin =>
    obtain ⟨hexit, rfl⟩ := Prod.mk.inj hrun
    rw [if_pos hstarted]
    have hbegun : AlikeRuns monitor.reporter origin twin
        (Run.begin monitor origin)
        (Run.begin (monitor.reportingEvery interval) twin) :=
      alike_begin (alike_origins hfresh htwin hnow
        (hstarted.trans hstartedOrigin.symm) hagrees)
    have hplayed : AlikeRuns monitor.reporter origin twin _
        (Run.play (monitor.reportingEvery interval) world stop fuel _) :=
      alike_play world stop fuel hbegun
    obtain ⟨-, halike⟩ := id hplayed
    obtain ⟨entries, others, htranscript, hother, hsame⟩ := halike.written
    refine ⟨_, Prod.ext ?_ rfl, halike.now_eq, ?_⟩
    · rw [← hexit]
      exact congrArg Except.ok hplayed.exit?_eq
    · rw [State.since_eq htranscript, State.since_eq hother]
      constructor
      case pings => rw [← pingsIn_outline, hsame, pingsIn_outline]
      case words => rw [← wordsIn_outline, hsame, wordsIn_outline]
      case outline => exact hsame
  next hidle => exact nomatch hrun

namespace Sample

/-- The monitor of the example, with few heartbeats. -/
def sparing : State Unit :=
  ((monitor.reportingEvery 90000).perform world 0 (.initial monitor ()) .start).2

def sparingEnd : State Unit :=
  ((monitor.reportingEvery 90000).run world (some 67000) 40 sparing).2

theorem sparing_run_eq :
    (monitor.reportingEvery 90000).run world (some 67000) 40 sparing =
      (.ok (some .shutdown), sparingEnd) := rfl

theorem sparing_fresh : (monitor.reportingEvery 90000).Fresh sparing :=
  .performed (.built rfl) world 0 rfl

-- Through the instant itself: the two states differ in the description that was
-- told at the start, and it takes long to find that out.
theorem now_sparing : sparing.now = started.now :=
  calc
    sparing.now = { instant := 0 } := rfl
    _ = started.now := rfl

/-- What a reporter without a state says does not depend on what it heard. -/
theorem agrees_default : Reporter.default.Agrees () () :=
  fun _ _ _ _ _ => rfl

end Sample

/-- The sparing monitor leaves out the heartbeat after the ping that hung, and
does everything else as the one of the example does. -/
theorem run_sameButHeartbeats_sample :
    ∃ last,
      (Sample.monitor.reportingEvery 90000).run Sample.world (some 67000) 40
          Sample.sparing = (.ok (some .shutdown), last) ∧
        last.now = Sample.final.now ∧
        SameButHeartbeats (Sample.final.since Sample.started)
          (last.since Sample.sparing) ∧
        beatsIn (Sample.final.since Sample.started) = [4000, 66000] ∧
        beatsIn (last.since Sample.sparing) = [4000] := by
  obtain ⟨last, hrun, hnow, hsame⟩ :=
    run_sameButHeartbeats Sample.fresh Sample.sparing_fresh
      Sample.now_sparing rfl Sample.agrees_default Sample.run_eq
  obtain ⟨-, rfl⟩ := Prod.mk.inj (Sample.sparing_run_eq.symm.trans hrun)
  exact ⟨_, hrun, hnow, hsame, rfl, rfl⟩

end HealthMonitor
