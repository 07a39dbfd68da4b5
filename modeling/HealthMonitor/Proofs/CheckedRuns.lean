import HealthMonitor.Proofs.Rounds
import HealthMonitor.Proofs.Slots

/-!
# Checked runs

A run that is handed a position which is not in its lists goes on as if nothing
were the matter, and so does not tell whether it ever is.  A checked run looks
each position up, wherever one is handed on, and gives up if there is no probe or
no slot there.  Whatever the life of a monitor, a checked run never gives up, and
each of its states is ordered.  The main statement is `slots_record`.
-/

namespace HealthMonitor

variable {σ : Type}

/-! ## The checked machine -/

/-- Whether a position is in the lists of probes and of slots. -/
def Monitor.holds
    (monitor : Monitor σ) (state : State σ) (position : Position) : Bool :=
  (monitor.probe? position).isSome && (state.slot? position).isSome

/-- Gives up if a position is not in its lists, and goes on otherwise. -/
def Monitor.checking
    {α : Type} (monitor : Monitor σ) (state : State σ) (position : Position)
    (next : Option α) : Option α :=
  if monitor.holds state position then next else none

namespace Run

section Checked

variable (monitor : Monitor σ) (state : State σ)

def blocked? (blocker : Position) : Option (Run σ) :=
  monitor.checking state blocker (some (blocked monitor state blocker))

def goOnBootstrap? (index : Nat) (blocker : Option Nat) (seen : List Status) :
    Option (Run σ) :=
  if index < monitor.primaries.length then
    some ⟨state, .ping (.bootstrap index blocker seen)⟩
  else
    match blocker with
    | some place => blocked? monitor state (.primary place)
    | none => some (endBootstrap monitor state seen)

def enterBootstrap? : Option (Run σ) :=
  let began := monitor.primaryPositions.foldl
    (fun state position => state.note (.beganBootstrap position))
    (enter monitor state .bootstrap)
  goOnBootstrap? monitor began 0 none []

def goOnDependencies? (index : Nat) (blocker : Option Nat) : Option (Run σ) :=
  if index < monitor.dependencies.length then
    some ⟨state, .ping (.dependencies index blocker)⟩
  else
    match blocker with
    | some place => blocked? monitor state (.dependency place)
    | none => enterBootstrap? monitor state

def begin? : Option (Run σ) :=
  if monitor.dependencies.isEmpty then enterBootstrap? monitor state
  else
    goOnDependencies? monitor (enter monitor state .dependencyWait) 0 none

def resume? : Option (Run σ) :=
  match state.phase with
  | .dependencyWait => goOnDependencies? monitor state 0 none
  | .bootstrap => goOnBootstrap? monitor state 0 none []
  | .live => some (goOnLive monitor state 0 true)

def answerDependencies? (index : Nat) (blocker : Option Nat) (probe : Probe)
    (safeMode : Bool) : PingOutcome → Option (Run σ)
  | .completed status =>
      let status := status.inPhase state.phase
      let slot := (state.slot? (.dependency index)).getD {}
      let ready := satisfied monitor.timing.policy probe slot status safeMode
      let state := state.modifySlot (.dependency index)
        (recordDependency probe status safeMode)
      goOnDependencies? monitor state (index + 1)
        (if ready then blocker else blocker.or (some index))
  | .timedOut =>
      goOnDependencies? monitor state (index + 1) (blocker.or (some index))
  | .aborted abort => some ⟨state, .ended (.aborted abort)⟩

def answerBootstrap? (index : Nat) (blocker : Option Nat) (seen : List Status) :
    PingOutcome → Option (Run σ)
  | .completed status =>
      let status := status.inPhase state.phase
      let state := state.modifySlot (.primary index)
        fun slot => { slot with last := some status }
      goOnBootstrap? monitor state (index + 1)
        (if status.success then blocker else blocker.or (some index))
        (seen ++ [status])
  | .timedOut =>
      goOnBootstrap? monitor state (index + 1) (blocker.or (some index)) seen
  | .aborted abort => some ⟨state, .ended (.aborted abort)⟩

/-- What comes in is written to the slot of the position that was pinged. -/
def answer? (pass : Pass) (probe : Probe) (safeMode : Bool)
    (outcome : PingOutcome) : Option (Run σ) :=
  monitor.checking state pass.position <|
    match pass with
    | .dependencies index blocker =>
        answerDependencies? monitor state index blocker probe safeMode outcome
    | .bootstrap index blocker seen =>
        answerBootstrap? monitor state index blocker seen outcome
    | .live index clean =>
        some (answerLive monitor state index clean probe outcome)

def stepPause? (stop : Option Nat) : Option (Run σ) :=
  match stoppedBefore stop state.now (wake monitor state) with
  | some moment => some (shutDown monitor (state.moveTo moment))
  | none => resume? monitor (state.moveTo (wake monitor state))

def stepPing? (world : World) (stop : Option Nat) (pass : Pass)
    (probe : Probe) : Option (Run σ) :=
  monitor.checking state pass.position <|
    match stoppedBefore stop state.now (watchOf world state pass probe).answered with
    | some _ => some (stepPing monitor world stop state pass probe)
    | none =>
        answer? monitor (afterAnswer world state pass probe) pass probe
          (callOf world state pass).safeMode
          (watchOf world state pass probe).outcome

end Checked

section Played

variable (monitor : Monitor σ) (world : World) (stop : Option Nat)

def step? (run : Run σ) : Option (Run σ) :=
  match run.control with
  | .ended _ => some run
  | .pause => stepPause? monitor run.state stop
  | .ping pass =>
      (monitor.probe? pass.position).bind
        (stepPing? monitor run.state world stop pass)

def play? : Nat → Run σ → Option (Run σ)
  | 0, run => some run
  | steps + 1, run => (step? monitor world stop run).bind (play? steps)

end Played

end Run

/-- What `performDeed` does, with the runs checked. -/
def Monitor.performDeed?
    (monitor : Monitor σ) (state : State σ) (deed : Deed) :
    Option (Answer × State σ) :=
  match deed.operation with
  | .run signal =>
      if state.started then
        let stop := signal.stop? state.now.instant
        ((Run.begin? monitor state).bind
          (Run.play? monitor deed.world stop deed.fuel)).map
          fun run => (.exited run.exit?, run.state)
      else some (monitor.performDeed state deed)
  | _ => some (monitor.performDeed state deed)

/-- What an ordered state leads to is ordered, and nothing is forgotten. -/
structure Monitor.LeadsTo
    (monitor : Monitor σ) (state : State σ) (run : Run σ) : Prop where
  ordered : run.Ordered monitor
  remembers : monitor.Remembers state run.state

/-- The same of a run that goes through all its checks. -/
structure Monitor.Admits
    (monitor : Monitor σ) (state : State σ) (checked? : Option (Run σ))
    (run : Run σ) : Prop extends monitor.LeadsTo state run where
  passed : checked? = some run

/-! ## Leading on -/

section Leading

variable {monitor : Monitor σ} {before state after : State σ} {pass : Pass}
  {checked? : Option (Run σ)} {run : Run σ}

theorem Monitor.LeadsTo.idle
    {control : Control} (hordered : monitor.Ordered before)
    (hretains : monitor.Retains before after)
    (hcontrol : ∀ pass, control ≠ .ping pass) :
    monitor.LeadsTo before ⟨after, control⟩ :=
  ⟨⟨hordered.retains hretains, fun pass hping => absurd hping (hcontrol pass)⟩,
    hretains.toRemembers⟩

theorem Monitor.LeadsTo.ping
    (hordered : monitor.Ordered state) (hfits : pass.Fits monitor state)
    (hrange : pass.index < monitor.countIn pass.phase) :
    monitor.LeadsTo state ⟨state, .ping pass⟩ where
  ordered := by
    refine ⟨hordered, fun other hother => ?_⟩
    obtain rfl := Control.ping.inj hother
    exact ⟨hfits, hrange⟩
  remembers := .refl

theorem Monitor.LeadsTo.since
    (hleads : monitor.LeadsTo state run)
    (hremembers : monitor.Remembers before state) :
    monitor.LeadsTo before run :=
  ⟨hleads.ordered, hremembers.trans hleads.remembers⟩

theorem Monitor.Admits.unchecked
    (hleads : monitor.LeadsTo state run) :
    monitor.Admits state (some run) run :=
  ⟨hleads, rfl⟩

theorem Monitor.Admits.since
    (hadmits : monitor.Admits state checked? run)
    (hremembers : monitor.Remembers before state) :
    monitor.Admits before checked? run :=
  ⟨hadmits.toLeadsTo.since hremembers, hadmits.passed⟩

theorem Run.Ordered.exists_probe
    (hordered : run.Ordered monitor) (hcontrol : run.control = .ping pass) :
    ∃ probe, monitor.probe? pass.position = some probe := by
  rw [pass.position_eq]
  exact Monitor.exists_probe_of_lt pass.phase (hordered.awaited pass hcontrol).2

theorem Monitor.Ordered.holds
    (hordered : monitor.Ordered state) {position : Position} {probe : Probe}
    (hprobe : monitor.probe? position = some probe) :
    monitor.holds state position = true := by
  rw [Monitor.holds, hordered.isSome_slot?, hprobe]
  rfl

theorem Monitor.Ordered.checking_eq
    {α : Type} (hordered : monitor.Ordered state) {position : Position}
    {probe : Probe} (hprobe : monitor.probe? position = some probe)
    (next : Option α) :
    monitor.checking state position next = next :=
  if_pos (hordered.holds hprobe)

end Leading

/-! ## The schedule -/

section Scheduling

variable {monitor : Monitor σ} {state : State σ}

theorem leadsTo_onVerdict
    (hordered : monitor.Ordered state) (exit : RunExit) (goOn : State σ → Run σ)
    (hgoOn : ∀ after, monitor.Ordered after → after.phase = state.phase →
      monitor.LeadsTo after (goOn after))
    (callback : Callback) :
    monitor.LeadsTo state
      (Run.onVerdict exit goOn (state.ask monitor callback)) := by
  have htold := monitor.retains_tell state callback
  rw [State.ask_eq]
  unfold Run.onVerdict
  simp only
  split
  next => exact .idle hordered htold nofun
  next =>
    exact (hgoOn _ (hordered.retains htold) htold.phase).since htold.toRemembers

theorem leadsTo_blocked (hordered : monitor.Ordered state) (blocker : Position) :
    monitor.LeadsTo state (Run.blocked monitor state blocker) := by
  unfold Run.blocked
  split
  next => exact .idle hordered .refl nofun
  next limit =>
    simp only
    split
    next => exact .idle hordered .refl nofun
    next => exact .idle hordered (monitor.retains_tell state _) nofun

theorem admits_blocked
    (hordered : monitor.Ordered state) (phase : Phase) {place : Nat}
    (hrange : place < monitor.countIn phase) :
    monitor.Admits state (Run.blocked? monitor state (phase.place place))
      (Run.blocked monitor state (phase.place place)) :=
  have ⟨_, hprobe⟩ := Monitor.exists_probe_of_lt phase hrange
  ⟨leadsTo_blocked hordered _, hordered.checking_eq hprobe _⟩

theorem leadsTo_endLive (hordered : monitor.Ordered state) (clean : Bool) :
    monitor.LeadsTo state (Run.endLive monitor state clean) := by
  have hmarked : monitor.Retains state { state with cleanBefore := clean } :=
    .of_eq rfl rfl rfl rfl
  unfold Run.endLive
  simp only
  split
  next =>
    exact (leadsTo_onVerdict (hordered.retains hmarked) .cycleCompleted
      (fun state => ⟨state, .pause⟩) (fun _ hafter _ => .idle hafter .refl nofun)
      .cycle).since hmarked.toRemembers
  next => exact .idle hordered hmarked nofun

theorem leadsTo_goOnLive
    (hordered : monitor.Ordered state) (hphase : state.phase = .live)
    (index : Nat) (clean : Bool) :
    monitor.LeadsTo state (Run.goOnLive monitor state index clean) := by
  unfold Run.goOnLive
  split
  next hrange =>
    refine .ping hordered ⟨hphase.symm, Nat.le_of_lt hrange, nofun, nofun⟩ hrange
  next => exact leadsTo_endLive hordered clean

theorem leadsTo_endBootstrap
    (hordered : monitor.Ordered state)
    (hrecorded : ∀ index < monitor.primaries.length,
      (state.lastStatus (.primary index)).isSome = true)
    (seen : List Status) :
    monitor.LeadsTo state (Run.endBootstrap monitor state seen) := by
  have hended :=
    monitor.retains_notes state .endedBootstrap
      monitor.primaryPositions
  have htold :=
    hended.trans
      (Monitor.retains_foldl
        (fun state status => monitor.retains_tell state (.booted status)) seen _)
  have hentered :=
    (hordered.retains htold).enter .live fun _ index hindex =>
      htold.isSome_lastStatus (hrecorded index hindex)
  exact (leadsTo_goOnLive hentered rfl 0 true).since
    (htold.toRemembers.trans (monitor.remembers_enter _ .live))

theorem admits_goOnBootstrap
    (hordered : monitor.Ordered state) {index : Nat} {blocker : Option Nat}
    {seen : List Status}
    (hfits : (Pass.bootstrap index blocker seen).Fits monitor state) :
    monitor.Admits state
      (Run.goOnBootstrap? monitor state index blocker seen)
      (Run.goOnBootstrap monitor state index blocker seen) := by
  unfold Run.goOnBootstrap? Run.goOnBootstrap
  split
  next hrange => exact .unchecked (.ping hordered hfits hrange)
  next hrange =>
    cases blocker with
    | some place =>
        exact admits_blocked hordered .bootstrap
          (Nat.lt_of_lt_of_le (hfits.blocker place rfl) hfits.index)
    | none =>
        -- Nothing blocked the whole pass, so every primary came in.
        apply Monitor.Admits.unchecked
        apply leadsTo_endBootstrap hordered
        intro place hplace
        exact hfits.recorded rfl rfl place
          (Nat.lt_of_lt_of_le hplace (Nat.le_of_not_lt hrange))

theorem admits_enterBootstrap (hordered : monitor.Ordered state) :
    monitor.Admits state (Run.enterBootstrap? monitor state)
      (Run.enterBootstrap monitor state) := by
  have hentered := hordered.enter .bootstrap nofun
  have hbegan :=
    monitor.retains_notes (Run.enter monitor state .bootstrap) .beganBootstrap
      monitor.primaryPositions
  exact (admits_goOnBootstrap (hentered.retains hbegan)
    (.first hbegan.phase.symm rfl rfl)).since
    ((monitor.remembers_enter state .bootstrap).trans hbegan.toRemembers)

theorem admits_goOnDependencies
    (hordered : monitor.Ordered state) {index : Nat} {blocker : Option Nat}
    (hfits : (Pass.dependencies index blocker).Fits monitor state) :
    monitor.Admits state
      (Run.goOnDependencies? monitor state index blocker)
      (Run.goOnDependencies monitor state index blocker) := by
  unfold Run.goOnDependencies? Run.goOnDependencies
  split
  next hrange => exact .unchecked (.ping hordered hfits hrange)
  next =>
    cases blocker with
    | some place =>
        exact admits_blocked hordered .dependencyWait
          (Nat.lt_of_lt_of_le (hfits.blocker place rfl) hfits.index)
    | none => exact admits_enterBootstrap hordered

theorem admits_begin (hordered : monitor.Ordered state) :
    monitor.Admits state (Run.begin? monitor state)
      (Run.begin monitor state) := by
  unfold Run.begin? Run.begin
  split
  next => exact admits_enterBootstrap hordered
  next =>
    have hentered := hordered.enter .dependencyWait nofun
    exact (admits_goOnDependencies hentered (.first rfl rfl rfl)).since
      (monitor.remembers_enter state .dependencyWait)

theorem admits_resume (hordered : monitor.Ordered state) :
    monitor.Admits state (Run.resume? monitor state)
      (Run.resume monitor state) := by
  unfold Run.resume? Run.resume
  cases hphase : state.phase with
  | dependencyWait =>
      exact admits_goOnDependencies hordered (.first hphase.symm rfl rfl)
  | bootstrap =>
      exact admits_goOnBootstrap hordered (.first hphase.symm rfl rfl)
  | live => exact .unchecked (leadsTo_goOnLive hordered hphase 0 true)

end Scheduling

/-! ## Answers -/

section Answering

variable {monitor : Monitor σ} {state : State σ} {probe : Probe} {index : Nat}

theorem admits_answerDependencies
    (hordered : monitor.Ordered state) {blocker : Option Nat}
    (hfits : (Pass.dependencies index blocker).Fits monitor state)
    (hprobe : monitor.probe? (.dependency index) = some probe)
    (safeMode : Bool) (outcome : PingOutcome) :
    monitor.Admits state
      (Run.answerDependencies? monitor state index blocker probe safeMode outcome)
      (Run.answerDependencies monitor state index blocker probe safeMode
        outcome) := by
  have hrange : index < monitor.dependencies.length :=
    (List.getElem?_eq_some_iff.mp hprobe).1
  cases outcome with
  | completed status =>
      have hlearned :=
        Monitor.retains_recordDependency state hprobe
          (status.inPhase state.phase) safeMode
      apply (admits_goOnDependencies (hordered.retains hlearned) ?_).since
        hlearned.toRemembers
      exact (hfits.retains hlearned).advance hrange rfl rfl
        (ite_eq_or_eq _ _ _) nofun
  | timedOut =>
      exact admits_goOnDependencies hordered
        (hfits.advance hrange rfl rfl (.inr rfl) nofun)
  | aborted abort => exact .unchecked (.idle hordered .refl nofun)

theorem admits_answerBootstrap
    (hordered : monitor.Ordered state) {blocker : Option Nat}
    {seen : List Status}
    (hfits : (Pass.bootstrap index blocker seen).Fits monitor state)
    (hprobe : monitor.probe? (.primary index) = some probe)
    (outcome : PingOutcome) :
    monitor.Admits state
      (Run.answerBootstrap? monitor state index blocker seen outcome)
      (Run.answerBootstrap monitor state index blocker seen outcome) := by
  have hrange : index < monitor.primaries.length :=
    (List.getElem?_eq_some_iff.mp hprobe).1
  cases outcome with
  | completed status =>
      have hlearned :=
        monitor.retains_recordPrimary state index (status.inPhase state.phase)
      apply (admits_goOnBootstrap (hordered.retains hlearned) ?_).since
        hlearned.toRemembers
      refine (hfits.retains hlearned).advance hrange rfl rfl
        (ite_eq_or_eq _ _ _) fun _ _ => ?_
      exact Option.isSome_of_eq_some
        (hordered.lastStatus_recordPrimary hprobe _)
  | timedOut =>
      refine admits_goOnBootstrap hordered
        (hfits.advance hrange rfl rfl (.inr rfl) fun _ hclear => ?_)
      -- A probe that hung blocks the pass, if none before it does.
      exact absurd hclear (by simp [Pass.blocker?])
  | aborted abort => exact .unchecked (.idle hordered .refl nofun)

theorem leadsTo_goOnAfter
    (hordered : monitor.Ordered state) (hphase : state.phase = .live)
    (index : Nat) (clean : Bool) :
    monitor.LeadsTo state (Run.goOnAfter monitor index clean state) := by
  have hbeaten := monitor.retains_heartbeat state
  exact (leadsTo_goOnLive (hordered.retains hbeaten)
    (hbeaten.phase.trans hphase) (index + 1) clean).since hbeaten.toRemembers

theorem leadsTo_answerLive
    (hordered : monitor.Ordered state) (hphase : state.phase = .live)
    (index : Nat) (clean : Bool) (probe : Probe) (outcome : PingOutcome) :
    monitor.LeadsTo state
      (Run.answerLive monitor state index clean probe outcome) := by
  cases outcome with
  | completed status =>
      rw [Run.answerLive_onVerdict]
      have htaken :=
        hordered.takeResult index (status.inPhase state.phase)
          (congrArg some hphase)
      have htold : (Run.takeResult monitor state index
          (status.inPhase state.phase)).phase = .live :=
        (monitor.retains_recordPrimary state index
          (status.inPhase state.phase)).phase.trans hphase
      have hremembers :=
        monitor.remembers_takeResult state index (status.inPhase state.phase)
      split
      next => exact (leadsTo_goOnAfter htaken htold index clean).since hremembers
      next =>
        have hheard :=
          leadsTo_onVerdict htaken (.probeFailed (status.inPhase state.phase))
            (Run.goOnAfter monitor index false)
            (fun after hafter hsame =>
              leadsTo_goOnAfter hafter (hsame.trans htold) index false)
            (.failure (status.inPhase state.phase))
        exact hheard.since hremembers
  | timedOut =>
      exact leadsTo_onVerdict hordered _ (Run.goOnAfter monitor index false)
        (fun after hafter hsame =>
          leadsTo_goOnAfter hafter (hsame.trans hphase) index false) _
  | aborted abort => exact .idle hordered .refl nofun

theorem admits_answer
    (hordered : monitor.Ordered state) {pass : Pass}
    (hfits : pass.Fits monitor state)
    (hprobe : monitor.probe? pass.position = some probe)
    (safeMode : Bool) (outcome : PingOutcome) :
    monitor.Admits state
      (Run.answer? monitor state pass probe safeMode outcome)
      (Run.answer monitor state pass probe safeMode outcome) := by
  unfold Run.answer?
  rw [hordered.checking_eq hprobe]
  cases pass with
  | dependencies index blocker =>
      exact admits_answerDependencies hordered hfits hprobe safeMode outcome
  | bootstrap index blocker seen =>
      exact admits_answerBootstrap hordered hfits hprobe outcome
  | live index clean =>
      exact .unchecked
        (leadsTo_answerLive hordered hfits.phase.symm index clean probe outcome)

end Answering

/-! ## Runs -/

section Running

variable {monitor : Monitor σ} {state : State σ}

theorem leadsTo_shutDown (hordered : monitor.Ordered state) :
    monitor.LeadsTo state (Run.shutDown monitor state) :=
  .idle hordered (monitor.retains_close state) nofun

theorem admits_stepPause (hordered : monitor.Ordered state) (stop : Option Nat) :
    monitor.Admits state (Run.stepPause? monitor state stop)
      (Run.stepPause monitor stop state) := by
  rw [Run.stepPause_eq]
  unfold Run.stepPause?
  cases Run.stoppedBefore stop state.now (Run.wake monitor state) with
  | some moment =>
      have hmoved := monitor.retains_moveTo state moment
      exact .unchecked
        ((leadsTo_shutDown (hordered.retains hmoved)).since hmoved.toRemembers)
  | none =>
      have hmoved := monitor.retains_moveTo state (Run.wake monitor state)
      exact (admits_resume (hordered.retains hmoved)).since hmoved.toRemembers

theorem admits_stepPing
    (hordered : monitor.Ordered state) (world : World) (stop : Option Nat)
    {pass : Pass} (hfits : pass.Fits monitor state) {probe : Probe}
    (hprobe : monitor.probe? pass.position = some probe) :
    monitor.Admits state
      (Run.stepPing? monitor state world stop pass probe)
      (Run.stepPing monitor world stop state pass probe) := by
  unfold Run.stepPing?
  rw [hordered.checking_eq hprobe, Run.stepPing_eq]
  cases Run.stoppedBefore stop state.now
      (Run.watchOf world state pass probe).answered with
  | some moment =>
      suffices hended : monitor.Retains state
          (if moment = state.now then state.moveTo moment
          else Run.afterBreak world state pass moment) from
        .unchecked
          ((leadsTo_shutDown (hordered.retains hended)).since hended.toRemembers)
      split
      next => exact monitor.retains_moveTo state moment
      next => exact monitor.retains_afterBreak state world pass moment
  | none =>
      have hanswered := monitor.retains_afterAnswer state world pass probe
      exact (admits_answer (hordered.retains hanswered)
        (hfits.retains hanswered) hprobe _ _).since hanswered.toRemembers

theorem admits_step
    {run : Run σ} (hordered : run.Ordered monitor) (world : World)
    (stop : Option Nat) :
    monitor.Admits run.state (Run.step? monitor world stop run)
      (Run.step monitor world stop run) := by
  obtain ⟨state, control⟩ := run
  cases control with
  | ping pass =>
      obtain ⟨probe, hprobe⟩ := hordered.exists_probe rfl
      simp only [Run.step?, Run.step, hprobe]
      exact admits_stepPing hordered.state world stop
        (hordered.awaited pass rfl).1 hprobe
  | pause => exact admits_stepPause hordered.state stop
  | ended exit => exact .unchecked ⟨hordered, .refl⟩

theorem admits_play
    {run : Run σ} (hordered : run.Ordered monitor) (world : World)
    (stop : Option Nat) (steps : Nat) :
    monitor.Admits run.state (Run.play? monitor world stop steps run)
      (Run.play monitor world stop steps run) := by
  induction steps generalizing run with
  | zero => exact .unchecked ⟨hordered, .refl⟩
  | succ steps ih =>
      have hstep := admits_step hordered world stop
      rw [Run.play_succ, Run.play?, hstep.passed]
      exact (ih hstep.ordered).since hstep.remembers

end Running

/-! ## Lives -/

namespace Monitor

/-- A run from a state, after some steps. -/
def runFrom
    (monitor : Monitor σ) (state : State σ) (world : World) (stop : Option Nat)
    (steps : Nat) : Run σ :=
  Run.play monitor world stop steps (Run.begin monitor state)

/-- What holds of the slots of a state, of what operations make of it, and of
the states that a run goes through from there. -/
structure SlotsRecord (monitor : Monitor σ) (state : State σ) : Prop where
  ordered : monitor.Ordered state
  remembers : ∀ later, monitor.Remembers state (monitor.after state later)
  checked : ∀ deed,
    monitor.performDeed? state deed = some (monitor.performDeed state deed)
  orderedRun : ∀ world stop steps,
    monitor.Ordered (monitor.runFrom state world stop steps).state
  awaited : ∀ world stop steps pass,
    (monitor.runFrom state world stop steps).control = .ping pass →
      monitor.holds (monitor.runFrom state world stop steps).state
        pass.position = true
  remembersRun : ∀ world stop steps,
    monitor.Remembers state (monitor.runFrom state world stop steps).state
  remembersOn : ∀ world stop steps more,
    monitor.Remembers (monitor.runFrom state world stop steps).state
      (monitor.runFrom state world stop (steps + more)).state

section Living

variable {monitor : Monitor σ} {state : State σ}

theorem Ordered.runFrom
    (hordered : monitor.Ordered state) (world : World) (stop : Option Nat)
    (steps : Nat) :
    monitor.Admits state
      ((Run.begin? monitor state).bind (Run.play? monitor world stop steps))
      (monitor.runFrom state world stop steps) := by
  have hbegun := admits_begin hordered
  rw [hbegun.passed]
  exact (admits_play hbegun.ordered world stop steps).since hbegun.remembers

theorem Ordered.performDeed
    (hordered : monitor.Ordered state) (deed : Deed) :
    monitor.Ordered (monitor.performDeed state deed).2 ∧
      monitor.Remembers state (monitor.performDeed state deed).2 := by
  obtain ⟨operation, world, fuel⟩ := deed
  have hidle : ∀ {after : State σ}, monitor.Retains state after →
      monitor.Ordered after ∧ monitor.Remembers state after :=
    fun hretains => ⟨hordered.retains hretains, hretains.toRemembers⟩
  unfold Monitor.performDeed
  cases operation with
  | prepare =>
      rw [perform_prepare_snd]
      exact hidle (monitor.retains_prepareFrom state world _)
  | start => exact hidle (.of_eq rfl rfl rfl rfl)
  | run signal =>
      cases hstarted : state.started with
      | false =>
          rw [perform_run_idle hstarted]
          exact hidle .refl
      | true =>
          rw [perform_run hstarted]
          have hran :=
            hordered.runFrom world (signal.stop? state.now.instant) fuel
          exact ⟨hran.ordered.state, hran.remembers⟩
  | close => exact hidle (monitor.retains_close state)
  | sleep wait => exact hidle (monitor.retains_moveTo state _)

theorem Ordered.performDeed?_eq
    (hordered : monitor.Ordered state) (deed : Deed) :
    monitor.performDeed? state deed = some (monitor.performDeed state deed) := by
  obtain ⟨operation, world, fuel⟩ := deed
  cases operation with
  | run signal =>
      cases hstarted : state.started with
      | false => simp [performDeed?, hstarted]
      | true =>
          have hran :=
            hordered.runFrom world (signal.stop? state.now.instant) fuel
          simp only [performDeed?, Monitor.performDeed, if_pos hstarted,
            perform_run hstarted, hran.passed]
          rfl
  | prepare => rfl
  | start => rfl
  | close => rfl
  | sleep wait => rfl

theorem Ordered.after
    (hordered : monitor.Ordered state) (deeds : List Deed) :
    monitor.Ordered (monitor.after state deeds) ∧
      monitor.Remembers state (monitor.after state deeds) := by
  induction deeds generalizing state with
  | nil => exact ⟨hordered, .refl⟩
  | cons deed deeds ih =>
      obtain ⟨hnext, hfirst⟩ := hordered.performDeed deed
      obtain ⟨hafter, hrest⟩ := ih hnext
      exact ⟨hafter, hfirst.trans hrest⟩

end Living

end Monitor

/-- Wherever the life of a monitor leads, and wherever a run goes from there: the
slots are those of the two lists of probes, and every position that is handed on
is in its list; safe mode is never entered again once it was left, and left only
by a dependency that knows of it; a slot that holds a status always will; the
latest status is a live one; and in live, every primary has a status. -/
theorem slots_record
    {monitor : Monitor σ} {reporter : σ} {origin : State σ}
    (hbuilt : monitor.build? reporter = .ok origin)
    (deeds : List Monitor.Deed) :
    monitor.SlotsRecord (monitor.after origin deeds) := by
  have hordered := ((Monitor.ordered_built hbuilt).after deeds).1
  constructor
  case ordered => exact hordered
  case remembers =>
    intro later
    exact (hordered.after later).2
  case checked => exact hordered.performDeed?_eq
  case orderedRun =>
    intro world stop steps
    exact (hordered.runFrom world stop steps).ordered.state
  case awaited =>
    intro world stop steps pass hcontrol
    have hrun := (hordered.runFrom world stop steps).ordered
    obtain ⟨probe, hprobe⟩ := hrun.exists_probe hcontrol
    exact hrun.state.holds hprobe
  case remembersRun =>
    intro world stop steps
    exact (hordered.runFrom world stop steps).remembers
  case remembersOn =>
    intro world stop steps more
    have hrun := (hordered.runFrom world stop steps).ordered
    rw [Monitor.runFrom, Monitor.runFrom, Run.play_add]
    exact (admits_play hrun world stop more).remembers

/-! ## An example -/

/-- A monitor with nothing to watch. -/
def Sample.bare : Monitor Unit :=
  { Sample.monitor with dependencies := [], primaries := [] }

theorem slots_record_sample :
    Sample.monitor.SlotsRecord
        (Sample.monitor.after (.initial Sample.monitor ()) Sample.deeds) ∧
      Sample.bare.SlotsRecord
        (Sample.bare.after (.initial Sample.bare ()) Sample.deeds) :=
  ⟨slots_record rfl Sample.deeds, slots_record rfl Sample.deeds⟩

end HealthMonitor
