import HealthMonitor.Proofs.Calls
import HealthMonitor.Proofs.Timeline

/-!
# Step by step

A step of a run waits once, for a pause or for a ping, and a shutdown may break
the wait off.  `Stride` lists the ways a step can go, with what it writes, and a
`Journey` is a run told as its strides.  What every stride keeps therefore holds
of every run; the first such facts are about the pings of a run and their calls.
-/

namespace HealthMonitor

variable {σ : Type}

/-! ## One wait -/

namespace Run

section Waiting

variable (monitor : Monitor σ) (world : World) (state : State σ) (pass : Pass)
  (probe : Probe)

def wake : Moment :=
  state.now.timer monitor.timing.probeInterval

def callsBefore : Nat :=
  ((state.slot? pass.position).map (·.calls)).getD 0

/-- The call that the next ping of a pass waits for. -/
def callOf : Call :=
  world.call pass.position (callsBefore state pass)

def watchOf : Watch :=
  Watchdog.race state.watchdog.timeout state.now probe
    (callOf world state pass)

def answeredPing : Ping :=
  pingOf state pass (callsBefore state pass) (watchOf world state pass probe)

def brokenPing (moment : Moment) : Ping :=
  cutPing state pass (callsBefore state pass) (callOf world state pass)
    moment.instant

/-- The state once a ping was answered. -/
def afterAnswer : State σ :=
  { recordPing state (answeredPing world state pass probe) with
    now := (watchOf world state pass probe).answered
    watchdog :=
      (state.watchdog.ping state.now probe (callOf world state pass)).2 }

/-- The state once a shutdown came in the middle of a ping. -/
def afterBreak (moment : Moment) : State σ :=
  (recordPing state (brokenPing world state pass moment)).moveTo moment

theorem stepPause_eq (stop : Option Nat) :
    stepPause monitor stop state =
      match stoppedBefore stop state.now (wake monitor state) with
      | some moment => shutDown monitor (state.moveTo moment)
      | none => resume monitor (state.moveTo (wake monitor state)) := rfl

theorem stepPing_eq (stop : Option Nat) :
    stepPing monitor world stop state pass probe =
      match stoppedBefore stop state.now
          (watchOf world state pass probe).answered with
      | some moment =>
          shutDown monitor
            (if moment = state.now then state.moveTo moment
            else afterBreak world state pass moment)
      | none =>
          answer monitor (afterAnswer world state pass probe) pass probe
            (callOf world state pass).safeMode
            (watchOf world state pass probe).outcome := by
  have hwatch :
      (state.watchdog.ping state.now probe (callOf world state pass)).1 =
        watchOf world state pass probe :=
    Watchdog.fst_ping _ _ _ _
  unfold stepPing afterAnswer answeredPing
  rw [← hwatch]
  simp only [callOf, callsBefore]
  cases hstopped : stoppedBefore stop state.now
      (state.watchdog.ping state.now probe
        (world.call pass.position
          (((state.slot? pass.position).map (·.calls)).getD 0))).1.answered with
  | none => rfl
  | some moment =>
      by_cases hsame : moment = state.now
      · simp [hsame]
      · simp [hsame, afterBreak, brokenPing, callOf, callsBefore]

end Waiting

theorem control_of_exit?
    {run : Run σ} {exit : RunExit} (hexit : run.exit? = some exit) :
    run.control = .ended exit := by
  unfold exit? at hexit
  cases hcontrol : run.control with
  | ping pass => simp [hcontrol] at hexit
  | pause => simp [hcontrol] at hexit
  | ended other => simpa [hcontrol] using hexit

/-- A run that waits for a ping is in the phase of the pass, and there is a
probe to ping. -/
def Sound (monitor : Monitor σ) (run : Run σ) : Prop :=
  ∀ pass, run.control = .ping pass →
    pass.phase = run.state.phase ∧
      ∃ probe, monitor.probe? pass.position = some probe

end Run

@[simp] theorem Run.now_recordPing (state : State σ) (ping : Ping) :
    (Run.recordPing state ping).now = state.now := by
  unfold Run.recordPing State.modifySlot
  cases ping.position with
  | dependency index => rfl
  | primary index => rfl

@[simp] theorem Run.phase_afterAnswer
    (world : World) (state : State σ) (pass : Pass) (probe : Probe) :
    (Run.afterAnswer world state pass probe).phase = state.phase := by
  simp [Run.afterAnswer, Run.recordPing]

theorem recorded_afterAnswer
    (world : World) (state : State σ) (pass : Pass) (probe : Probe) :
    Recorded state (Run.answeredPing world state pass probe)
      (Run.afterAnswer world state pass probe) := by
  have hwritten :
      Recorded state (Run.answeredPing world state pass probe)
        (Run.recordPing state (Run.answeredPing world state pass probe)) := by
    apply recorded_recordPing
    intro slot hslot
    have hslot : state.slot? pass.position = some slot := hslot
    simp [Run.answeredPing, Run.pingOf, Run.callsBefore, hslot]
  exact hwritten.later _ (Watchdog.timeout_snd_ping _ _ _ _)

/-! ## What a turn leads to -/

section Turning

variable {monitor : Monitor σ} {state : State σ} {run : Run σ}
  {entries : List Entry} {earliest : Phase} {index : Nat}

theorem Opens.writes (hopens : Opens monitor state earliest run entries) :
    Writes state run.state entries := by
  cases hopens with
  | ping hwrites _ _ _ _ _ => exact hwrites
  | idle hwrites _ _ _ => exact hwrites
  | completed hwrites => exact hwrites

theorem Turn.writes (hturn : Turn monitor state index run entries) :
    Writes state run.state entries := by
  cases hturn with
  | next hstays _ _ _ => exact hstays.toWrites
  | pause hstays _ _ => exact hstays.toWrites
  | opened hopens _ _ => exact hopens.writes
  | ended hstays _ _ => exact hstays.toWrites

theorem Opens.sound (hopens : Opens monitor state earliest run entries) :
    run.Sound monitor := by
  intro pass hcontrol
  cases hopens with
  | ping _ hphase _ _ _ hprobe =>
      obtain rfl := Control.ping.inj hcontrol
      exact ⟨hphase, hprobe⟩
  | idle _ _ _ _ => exact nomatch hcontrol
  | completed _ => exact nomatch hcontrol

theorem Turn.sound (hturn : Turn monitor state index run entries) :
    run.Sound monitor := by
  cases hturn with
  | next hstays hphase _ hprobe =>
      intro pass hcontrol
      obtain rfl := Control.ping.inj hcontrol
      exact ⟨hphase.trans hstays.phase.symm, hprobe⟩
  | pause _ _ _ => exact nofun
  | opened hopens _ _ => exact hopens.sound
  | ended _ _ _ => exact nofun

theorem Opens.control_ne (hopens : Opens monitor state earliest run entries) :
    run.control ≠ .ended .shutdown := by
  cases hopens with
  | ping _ _ _ _ _ _ => exact nofun
  | idle _ _ _ _ => exact nofun
  | completed _ => exact nofun

theorem Turn.control_ne (hturn : Turn monitor state index run entries) :
    run.control ≠ .ended .shutdown := by
  cases hturn with
  | next _ _ _ _ => exact nofun
  | pause _ _ _ => exact nofun
  | opened hopens _ _ => exact hopens.control_ne
  | ended _ hexit _ =>
      intro hcontrol
      exact hexit (Control.ended.inj hcontrol)

end Turning

/-! ## Closing -/

def State.farewell (monitor : Monitor σ) (state : State σ) : List Entry :=
  if state.closed then []
  else
    [.told state.now.instant .unregister
      (State.verdict { state with closed := true } monitor .unregister)]

theorem stays_close (monitor : Monitor σ) (state : State σ) :
    Stays state (state.close monitor) (state.farewell monitor) := by
  unfold State.close State.farewell
  split
  next => exact .refl
  next =>
    have hmarked : Stays state { state with closed := true } [] :=
      Stays.refl.congr rfl rfl rfl rfl rfl
    exact hmarked.tell monitor .unregister nofun

/-! ## Strides -/

/-- The ways one step of a run that is not over can go. -/
inductive Stride
    (monitor : Monitor σ) (world : World) (stop : Option Nat) :
    Run σ → Run σ → List Entry → Prop
  | woken {state : State σ} {next : Run σ} {entries : List Entry}
      (hawake :
        Run.stoppedBefore stop state.now (Run.wake monitor state) = none)
      (hturn :
        Turn monitor (state.moveTo (Run.wake monitor state)) 0 next entries) :
      Stride monitor world stop ⟨state, .pause⟩ next entries
  | answered {state : State σ} {pass : Pass} {probe : Probe} {next : Run σ}
      {entries : List Entry}
      (hphase : pass.phase = state.phase)
      (hprobe : monitor.probe? pass.position = some probe)
      (hinTime :
        Run.stoppedBefore stop state.now
          (Run.watchOf world state pass probe).answered = none)
      (hturn :
        Turn monitor (Run.afterAnswer world state pass probe) (pass.index + 1)
          next entries) :
      Stride monitor world stop ⟨state, .ping pass⟩ next
        (.pinged (Run.answeredPing world state pass probe) :: entries)
  | broken {state : State σ} {pass : Pass} {probe : Probe} {moment : Moment}
      (hphase : pass.phase = state.phase)
      (hprobe : monitor.probe? pass.position = some probe)
      (hstopped :
        Run.stoppedBefore stop state.now
          (Run.watchOf world state pass probe).answered = some moment)
      (hlater : state.now.instant < moment.instant)
      (hearly : moment.instant <
        (Run.watchOf world state pass probe).answered.instant) :
      Stride monitor world stop ⟨state, .ping pass⟩
        (Run.shutDown monitor (Run.afterBreak world state pass moment))
        (.pinged (Run.brokenPing world state pass moment) ::
          (Run.afterBreak world state pass moment).farewell monitor)
  | stopped {state : State σ} {control : Control} {moment : Moment}
      (hcontrol : ∀ exit, control ≠ .ended exit)
      (hle : state.now ≤ moment)
      (hstop : ∃ wake, Run.stoppedBefore stop state.now wake = some moment)
      (hbegun : ∀ pass, control = .ping pass → moment = state.now) :
      Stride monitor world stop ⟨state, control⟩
        (Run.shutDown monitor (state.moveTo moment))
        ((state.moveTo moment).farewell monitor)

section Striding

variable {monitor : Monitor σ} {world : World} {stop : Option Nat}
  {state : State σ} {run next : Run σ} {entries more : List Entry}

theorem stride_stepPause
    (monitor : Monitor σ) (world : World) (stop : Option Nat)
    (state : State σ) :
    ∃ entries,
      Stride monitor world stop ⟨state, .pause⟩
        (Run.stepPause monitor stop state) entries := by
  unfold Run.stepPause
  simp only
  split
  next moment hstopped =>
    refine ⟨_, .stopped (fun exit => nofun) ?_ ⟨_, hstopped⟩
      (fun pass => nofun)⟩
    rcases Run.stoppedBefore_bounds hstopped with rfl | ⟨hlater, -⟩
    · exact Moment.le_refl _
    · exact Moment.le_of_instant_lt hlater
  next hawake =>
    obtain ⟨entries, hturn⟩ :=
      turn_resume monitor (state.moveTo (Run.wake monitor state))
    exact ⟨entries, .woken hawake hturn⟩

theorem stride_stepPing
    (world : World) (stop : Option Nat) {pass : Pass} {probe : Probe}
    (hphase : pass.phase = state.phase)
    (hprobe : monitor.probe? pass.position = some probe) :
    ∃ entries,
      Stride monitor world stop ⟨state, .ping pass⟩
        (Run.stepPing monitor world stop state pass probe) entries := by
  rw [Run.stepPing_eq]
  split
  next moment hstopped =>
    rcases Run.stoppedBefore_bounds hstopped with rfl | ⟨hlater, hearly⟩
    · rw [if_pos rfl]
      exact ⟨_, .stopped (fun exit => nofun) (Moment.le_refl _)
        ⟨_, hstopped⟩ (fun _ _ => rfl)⟩
    · have hne : moment ≠ state.now := by
        rintro rfl
        exact Nat.lt_irrefl _ hlater
      rw [if_neg hne]
      exact ⟨_, .broken hphase hprobe hstopped hlater hearly⟩
  next hinTime =>
    have hsame := (Run.phase_afterAnswer world state pass probe).trans hphase.symm
    obtain ⟨entries, hturn⟩ :=
      turn_answer monitor hsame probe (Run.callOf world state pass).safeMode
        (Run.watchOf world state pass probe).outcome
    exact ⟨_, .answered hphase hprobe hinTime hturn⟩

theorem stride_step
    (world : World) (stop : Option Nat) (hsound : run.Sound monitor)
    (hrunning : ∀ exit, run.control ≠ .ended exit) :
    ∃ entries,
      Stride monitor world stop run (Run.step monitor world stop run)
        entries := by
  obtain ⟨state, control⟩ := run
  cases control with
  | ping pass =>
      obtain ⟨hphase, probe, hprobe⟩ := hsound pass rfl
      simp only [Run.step, hprobe]
      exact stride_stepPing world stop hphase hprobe
  | pause => exact stride_stepPause monitor world stop state
  | ended exit => exact absurd rfl (hrunning exit)

theorem Stride.sound
    (hstride : Stride monitor world stop run next entries) :
    next.Sound monitor := by
  cases hstride with
  | woken _ hturn => exact hturn.sound
  | answered _ _ _ hturn => exact hturn.sound
  | broken _ _ _ _ _ => exact nofun
  | stopped _ _ _ _ => exact nofun

theorem Stride.not_ended
    (hstride : Stride monitor world stop run next entries) (exit : RunExit) :
    run.control ≠ .ended exit := by
  cases hstride with
  | woken _ _ => exact nofun
  | answered _ _ _ _ => exact nofun
  | broken _ _ _ _ _ => exact nofun
  | stopped hcontrol _ _ _ => exact hcontrol exit

theorem Stride.transcript
    (hstride : Stride monitor world stop run next entries) :
    next.state.transcript = entries.reverse ++ run.state.transcript := by
  cases hstride with
  | woken _ hturn => exact hturn.writes.transcript
  | answered _ _ _ hturn =>
      rw [hturn.writes.transcript, List.reverse_cons, List.append_assoc]
      simp [Run.afterAnswer, Run.recordPing, State.note]
  | @broken state pass probe moment _ _ _ _ _ =>
      have hclosed :=
        (stays_close monitor (Run.afterBreak world state pass moment)).transcript
      rw [Run.shutDown, hclosed, List.reverse_cons, List.append_assoc]
      simp [Run.afterBreak, Run.recordPing, State.note, State.moveTo]
  | @stopped state _ moment _ _ _ _ =>
      exact (stays_close monitor (state.moveTo moment)).transcript

theorem Stride.timeout
    (hstride : Stride monitor world stop run next entries) :
    next.state.watchdog.timeout = run.state.watchdog.timeout := by
  cases hstride with
  | woken _ hturn => exact hturn.writes.timeout
  | answered _ _ _ hturn =>
      exact hturn.writes.timeout.trans (Watchdog.timeout_snd_ping _ _ _ _)
  | @broken state pass probe moment _ _ _ _ _ =>
      have hclosed :=
        (stays_close monitor (Run.afterBreak world state pass moment)).timeout
      rw [Run.shutDown, hclosed]
      simp [Run.afterBreak, Run.recordPing, State.note, State.moveTo,
        Watchdog.settle]
  | @stopped state _ moment _ _ _ _ =>
      exact (stays_close monitor (state.moveTo moment)).timeout

end Striding

/-! ## Journeys -/

/-- A run that started at `origin`, told as its strides. -/
inductive Journey
    (monitor : Monitor σ) (world : World) (stop : Option Nat)
    (origin : State σ) :
    Run σ → List Entry → Prop
  | opened {run : Run σ} {entries : List Entry}
      (hopens : Opens monitor origin .dependencyWait run entries) :
      Journey monitor world stop origin run entries
  | strode {run next : Run σ} {entries more : List Entry}
      (hjourney : Journey monitor world stop origin run entries)
      (hstride : Stride monitor world stop run next more) :
      Journey monitor world stop origin next (entries ++ more)

namespace Journey

variable {monitor : Monitor σ} {world : World} {stop : Option Nat}
  {origin : State σ} {run : Run σ} {entries : List Entry}

theorem sound
    (hjourney : Journey monitor world stop origin run entries) :
    run.Sound monitor := by
  cases hjourney with
  | opened hopens => exact hopens.sound
  | strode _ hstride => exact hstride.sound

theorem transcript
    (hjourney : Journey monitor world stop origin run entries) :
    run.state.transcript = entries.reverse ++ origin.transcript := by
  induction hjourney with
  | opened hopens => exact hopens.writes.transcript
  | strode _ hstride ih => rw [hstride.transcript, ih]; simp

theorem timeout
    (hjourney : Journey monitor world stop origin run entries) :
    run.state.watchdog.timeout = origin.watchdog.timeout := by
  induction hjourney with
  | opened hopens => exact hopens.writes.timeout
  | strode _ hstride ih => exact hstride.timeout.trans ih

theorem play
    (hjourney : Journey monitor world stop origin run entries) (fuel : Nat) :
    ∃ more,
      Journey monitor world stop origin (Run.play monitor world stop fuel run)
        (entries ++ more) := by
  induction fuel generalizing run entries with
  | zero => exact ⟨[], by simpa [Run.play] using hjourney⟩
  | succ fuel ih =>
      by_cases hended : ∃ exit, run.control = .ended exit
      · obtain ⟨exit, hended⟩ := hended
        rw [Run.play_of_ended hended]
        exact ⟨[], by simpa using hjourney⟩
      · have hrunning : ∀ exit, run.control ≠ .ended exit :=
          fun exit hexit => hended ⟨exit, hexit⟩
        obtain ⟨first, hstride⟩ := stride_step world stop hjourney.sound hrunning
        obtain ⟨rest, hplayed⟩ := ih (hjourney.strode hstride)
        rw [Run.play_succ]
        exact ⟨first ++ rest, by simpa using hplayed⟩

end Journey

theorem run_journey
    {monitor : Monitor σ} {world : World} {stop : Option Nat} {fuel : Nat}
    {origin final : State σ} {exit : Option RunExit}
    (hrun : monitor.run world stop fuel origin = (.ok exit, final)) :
    ∃ control, Run.exit? ⟨final, control⟩ = exit ∧
      Journey monitor world stop origin ⟨final, control⟩
        (final.since origin) := by
  obtain ⟨control, hplayed, hexit⟩ := played_of_run hrun
  obtain ⟨first, hopens⟩ := opens_begin monitor origin
  have hbegun : Journey monitor world stop origin (Run.begin monitor origin)
      first := .opened hopens
  obtain ⟨more, hjourney⟩ := hbegun.play fuel
  rw [hplayed] at hjourney
  refine ⟨control, hexit, ?_⟩
  rw [State.since_eq hjourney.transcript]
  exact hjourney

/-! ## The pings of a journey -/

section Pinged

variable {monitor : Monitor σ} {world : World} {stop : Option Nat}
  {origin state : State σ} {pass : Pass} {probe : Probe} {moment : Moment}
  {run next : Run σ} {entries : List Entry}

theorem pingsIn_farewell (monitor : Monitor σ) (state : State σ) :
    pingsIn (state.farewell monitor) = [] :=
  (stays_close monitor state).pingsIn_eq

/-- What a ping tells of the call of that number. -/
def Ping.IsTraced
    (monitor : Monitor σ) (world : World) (timeout : Nat) (ping : Ping) :
    Prop :=
  ∃ probe, monitor.probe? ping.position = some probe ∧
    ping.Traces timeout probe (world.call ping.position ping.number)

theorem isTraced_answeredPing
    (hprobe : monitor.probe? pass.position = some probe) :
    (Run.answeredPing world state pass probe).IsTraced monitor world
      state.watchdog.timeout :=
  ⟨probe, hprobe, Ping.traces_of_watch state.now rfl rfl rfl rfl rfl⟩

theorem isTraced_brokenPing
    (hprobe : monitor.probe? pass.position = some probe)
    (hearly : moment.instant <
      (Run.watchOf world state pass probe).answered.instant) :
    (Run.brokenPing world state pass moment).IsTraced monitor world
      state.watchdog.timeout := by
  have hwaited :
      moment.instant < state.now.instant +
        (Run.callOf world state pass).waited state.watchdog.timeout := by
    rw [← Watchdog.instant_answered_race _ state.now probe]
    exact hearly
  refine ⟨probe, hprobe, ?_⟩
  constructor
  case answer => exact nofun
  case answered =>
    intro hanswered
    exact absurd rfl hanswered
  case cut =>
    intro _
    exact hwaited
  case begins =>
    intro _
    rfl
  case returns =>
    rw [if_neg fun hboth => nomatch hboth.1]
    rfl

theorem Stride.isTraced
    (hstride : Stride monitor world stop run next entries) :
    ∀ ping ∈ pingsIn entries,
      ping.IsTraced monitor world run.state.watchdog.timeout := by
  cases hstride with
  | woken _ hturn =>
      rw [hturn.writes.pingsIn_eq]
      exact List.forall_mem_nil _
  | answered _ hprobe _ hturn =>
      rw [pingsIn_pinged_cons, hturn.writes.pingsIn_eq, List.forall_mem_singleton]
      exact isTraced_answeredPing hprobe
  | broken _ hprobe _ _ hearly =>
      rw [pingsIn_pinged_cons, pingsIn_farewell, List.forall_mem_singleton]
      exact isTraced_brokenPing hprobe hearly
  | stopped _ _ _ _ =>
      rw [pingsIn_farewell]
      exact List.forall_mem_nil _

theorem Journey.isTraced
    (hjourney : Journey monitor world stop origin run entries) :
    ∀ ping ∈ pingsIn entries,
      ping.IsTraced monitor world origin.watchdog.timeout := by
  induction hjourney with
  | opened hopens =>
      rw [hopens.writes.pingsIn_eq]
      exact List.forall_mem_nil _
  | strode hjourney hstride ih =>
      rw [pingsIn_append]
      have hmore := hstride.isTraced
      rw [hjourney.timeout] at hmore
      exact List.forall_mem_append.mpr ⟨ih, hmore⟩

/-- A ping that was cut short is the last thing a run did before the farewell. -/
def EndsCut (run : Run σ) (ping : Ping) : Prop :=
  run.control = .ended .shutdown ∧ ping.answered = run.state.now.instant

/-- While a run goes on each of its pings was answered; the last may have been
cut short if it has ended. -/
theorem Journey.cut
    (hjourney : Journey monitor world stop origin run entries) :
    (∀ ping ∈ pingsIn entries, ping.outcome ≠ none) ∨
      ∃ before ping, pingsIn entries = before ++ [ping] ∧
        (∀ earlier ∈ before, earlier.outcome ≠ none) ∧ ping.outcome = none ∧
        EndsCut run ping := by
  induction hjourney with
  | opened hopens =>
      rw [hopens.writes.pingsIn_eq]
      exact .inl (List.forall_mem_nil _)
  | @strode run next entries more hjourney hstride ih =>
      have hbefore : ∀ ping ∈ pingsIn entries, ping.outcome ≠ none := by
        rcases ih with hbefore | ⟨_, _, -, -, -, hcontrol, -⟩
        · exact hbefore
        · exact absurd hcontrol (hstride.not_ended .shutdown)
      rw [pingsIn_append]
      cases hstride with
      | woken _ hturn =>
          rw [hturn.writes.pingsIn_eq, List.append_nil]
          exact .inl hbefore
      | answered _ _ _ hturn =>
          rw [pingsIn_pinged_cons, hturn.writes.pingsIn_eq]
          exact .inl (forall_mem_concat hbefore (Option.some_ne_none _))
      | @broken state pass probe moment _ _ _ _ _ =>
          rw [pingsIn_pinged_cons, pingsIn_farewell]
          have hnow :=
            (stays_close monitor (Run.afterBreak world state pass moment)).now
          refine .inr ⟨_, _, rfl, hbefore, rfl, rfl, ?_⟩
          exact (congrArg Moment.instant hnow).symm
      | stopped _ _ _ _ =>
          rw [pingsIn_farewell, List.append_nil]
          exact .inl hbefore

/-- A ping without an answer is the last one of a run that was shut down. -/
theorem Journey.endsCut
    (hjourney : Journey monitor world stop origin run entries)
    {ping : Ping} (hping : ping ∈ pingsIn entries)
    (hnone : ping.outcome = none) :
    (pingsIn entries).getLast? = some ping ∧ EndsCut run ping := by
  rcases hjourney.cut with hall | ⟨before, last, hlast, hbefore, -, hends⟩
  · exact absurd hnone (hall ping hping)
  · rw [hlast, List.mem_append, List.mem_singleton] at hping
    rcases hping with hearlier | rfl
    · exact absurd hnone (hbefore ping hearlier)
    · rw [hlast, List.getLast?_concat]
      exact ⟨rfl, hends⟩

theorem Journey.answered_of_followed
    (hjourney : Journey monitor world stop origin run entries)
    {before after : List Ping} {ping : Ping}
    (hsplit : pingsIn entries = before ++ ping :: after) (hmore : after ≠ []) :
    ping.outcome ≠ none := by
  rcases hjourney.cut with hall | ⟨front, last, hlast, hfront, -, -⟩
  · exact hall ping (by simp [hsplit])
  · rw [hlast] at hsplit
    rcases concat_split hsplit with ⟨hnil, -, -⟩ | ⟨rest, -, rfl⟩
    · exact absurd hnil hmore
    · exact hfront ping (by simp)

end Pinged

end HealthMonitor
