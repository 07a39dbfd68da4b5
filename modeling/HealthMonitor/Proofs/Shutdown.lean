import HealthMonitor.Proofs.BootstrapLimit
import HealthMonitor.Proofs.CallsInFlight
import Mathlib.Logic.Function.Iterate

/-!
# Shutdown

Until it is asked to stop, a run does what it does when nobody ever asks.  It is
asked at every wait, so it stops at once, with nothing but a farewell.  Each
step brings a run closer to the next pause and each pause takes time, so there
are only so many steps before it is asked.  The main statement is
`fresh_run_shutdown`.
-/

namespace HealthMonitor

variable {σ : Type}

/-! ## How far it is to the next pause -/

/-- The most pings that a run in a phase can make before it pauses. -/
def Monitor.pingsFrom (monitor : Monitor σ) : Phase → Nat
  | .dependencyWait =>
      monitor.dependencies.length + 2 * monitor.primaries.length
  | .bootstrap => 2 * monitor.primaries.length
  | .live => monitor.primaries.length

/-- Steps enough for a run to come to a stop that it is asked for after `span`
milliseconds. -/
def Monitor.stepsWithin (monitor : Monitor σ) (span : Nat) : Nat :=
  (span + 1) * (monitor.pingsFrom .dependencyWait + 1)

/-- The most pings a run can make before its next pause. -/
def Run.rest (monitor : Monitor σ) (run : Run σ) : Nat :=
  match run.control with
  | .ping pass => monitor.pingsFrom pass.phase - pass.index
  | _ => 0

section Rest

variable {monitor : Monitor σ} {world : World} {state : State σ}
  {run next : Run σ} {entries : List Entry} {index : Nat}

theorem Monitor.pingsFrom_le (monitor : Monitor σ) (phase : Phase) :
    monitor.pingsFrom phase ≤ monitor.pingsFrom .dependencyWait := by
  cases phase with
  | dependencyWait => exact Nat.le_refl _
  | bootstrap => exact Nat.le_add_left _ _
  | live =>
      simp only [pingsFrom]
      omega

theorem Monitor.countIn_le (monitor : Monitor σ) (phase : Phase) :
    monitor.countIn phase ≤ monitor.pingsFrom phase := by
  cases phase with
  | dependencyWait => exact Nat.le_add_right _ _
  | bootstrap =>
      simp only [countIn, pingsFrom]
      omega
  | live => exact Nat.le_refl _

/-- A later phase has no more pings than are left after the full pass of an
earlier one. -/
theorem Monitor.pingsFrom_later
    (monitor : Monitor σ) {phase later : Phase} (hrank : phase.rank < later.rank) :
    monitor.pingsFrom later + monitor.countIn phase ≤
      monitor.pingsFrom phase := by
  cases phase with
  | dependencyWait =>
      cases later with
      | dependencyWait => exact absurd hrank (Nat.lt_irrefl _)
      | bootstrap => simp only [pingsFrom, countIn]; omega
      | live => simp only [pingsFrom, countIn]; omega
  | bootstrap =>
      cases later with
      | dependencyWait => exact absurd hrank (by decide)
      | bootstrap => exact absurd hrank (Nat.lt_irrefl _)
      | live => simp only [pingsFrom, countIn]; omega
  | live => cases later <;> exact absurd hrank (by decide)

theorem Opens.rest_le
    {earliest : Phase}
    (hopens : Opens monitor state earliest run entries) :
    ∃ phase : Phase, earliest.rank ≤ phase.rank ∧
      run.rest monitor ≤ monitor.pingsFrom phase := by
  cases hopens with
  | @ping other pass entries _ hphase hlater _ _ _ =>
      rw [← hphase] at hlater
      exact ⟨pass.phase, hlater, Nat.sub_le _ _⟩
  | idle _ _ _ _ => exact ⟨earliest, Nat.le_refl _, Nat.zero_le _⟩
  | completed _ => exact ⟨earliest, Nat.le_refl _, Nat.zero_le _⟩

theorem Turn.rest_le
    (hturn : Turn monitor state index run entries)
    (hindex : index ≤ monitor.countIn state.phase) :
    run.rest monitor ≤ monitor.pingsFrom state.phase - index := by
  cases hturn with
  | next _ hphase hnext _ =>
      rw [← hphase, ← hnext]
      exact Nat.le_refl _
  | pause _ _ _ => exact Nat.zero_le _
  | opened hopens hfull hlater =>
      obtain ⟨phase, hrank, hrest⟩ := hopens.rest_le
      have hfewer :=
        monitor.pingsFrom_later (Nat.lt_of_lt_of_le hlater hrank)
      omega
  | ended _ _ _ => exact Nat.zero_le _

/-! ## Runs that nobody stops -/

theorem Run.stoppedBefore_none (now wake : Moment) :
    Run.stoppedBefore none now wake = none := rfl

theorem Run.stoppedBefore_none_ne (now wake moment : Moment) :
    Run.stoppedBefore none now wake ≠ some moment :=
  Option.some_ne_none moment ∘ Eq.symm

theorem Stride.control_ne
    (hstride : Stride monitor world none run next entries) :
    next.control ≠ .ended .shutdown := by
  cases hstride with
  | woken _ hturn => exact hturn.control_ne
  | answered _ _ _ hturn => exact hturn.control_ne
  | broken _ _ hstopped _ _ =>
      exact absurd hstopped (Run.stoppedBefore_none_ne _ _ _)
  | stopped _ _ hstop _ =>
      obtain ⟨wake, hstop⟩ := hstop
      exact absurd hstop (Run.stoppedBefore_none_ne _ _ _)

theorem Journey.control_ne
    {origin : State σ}
    (hjourney : Journey monitor world none origin run entries) :
    run.control ≠ .ended .shutdown := by
  cases hjourney with
  | opened hopens => exact hopens.control_ne
  | strode _ hstride => exact hstride.control_ne

theorem Stride.now_le
    {stop : Option Nat}
    (hstride : Stride monitor world stop run next entries) :
    run.state.now.instant ≤ next.state.now.instant := by
  cases hstride with
  | woken _ hturn =>
      rw [hturn.writes.now]
      exact Moment.instant_le (Moment.le_timer _ _)
  | answered _ _ _ hturn =>
      rw [hturn.writes.now]
      exact Watchdog.le_answered_race _ _ _ _
  | @broken state pass probe moment _ _ _ hlater _ =>
      have hnow :=
        (stays_close monitor (Run.afterBreak world state pass moment)).now
      simp only [Run.shutDown]
      rw [hnow]
      exact Nat.le_of_lt hlater
  | @stopped state control moment _ hle _ _ =>
      have hnow := (stays_close monitor (state.moveTo moment)).now
      simp only [Run.shutDown]
      rw [hnow]
      exact Moment.instant_le hle

/-- Each step of a run that nobody stops makes a ping that is left, or takes the
time of a pause. -/
theorem Stride.progress
    (hstride : Stride monitor world none run next entries)
    (hinterval : 0 < monitor.timing.probeInterval) :
    next.rest monitor < run.rest monitor ∨
      run.state.now.instant < next.state.now.instant ∧
        next.rest monitor ≤ monitor.pingsFrom .dependencyWait := by
  cases hstride with
  | @woken state next entries _ hturn =>
      right
      constructor
      · rw [hturn.writes.now]
        have hwake : (Run.wake monitor state).instant =
            state.now.instant + monitor.timing.probeInterval :=
          Moment.instant_timer _ _
        simp only [State.moveTo, hwake]
        omega
      · apply Nat.le_trans (hturn.rest_le (Nat.zero_le _))
        exact Nat.le_trans (Nat.sub_le _ _) (monitor.pingsFrom_le _)
  | @answered state pass probe next entries hphase hprobe _ hturn =>
      left
      have hlt := Monitor.index_lt_countIn hprobe
      have hle := monitor.countIn_le pass.phase
      have hsame :=
        (Run.phase_afterAnswer world state pass probe).trans hphase.symm
      have hrest := hturn.rest_le (by rw [hsame]; exact hlt)
      rw [hsame] at hrest
      have hbefore :
          Run.rest monitor ⟨state, .ping pass⟩ =
            monitor.pingsFrom pass.phase - pass.index := rfl
      omega
  | broken _ _ hstopped _ _ =>
      exact absurd hstopped (Run.stoppedBefore_none_ne _ _ _)
  | stopped _ _ hstop _ =>
      obtain ⟨wake, hstop⟩ := hstop
      exact absurd hstop (Run.stoppedBefore_none_ne _ _ _)

/-! ## Asked to stop -/

/-- How far a run is from a stop at `time`: the pings up to its next pause, and
those of all the pauses it can still make. -/
def Run.distance (monitor : Monitor σ) (time : Nat) (run : Run σ) : Nat :=
  (time - run.state.now.instant) * (monitor.pingsFrom .dependencyWait + 1) +
    run.rest monitor

theorem Stride.distance_lt
    (hstride : Stride monitor world none run next entries)
    (hinterval : 0 < monitor.timing.probeInterval) {time : Nat}
    (hbefore : next.state.now.instant < time) :
    next.distance monitor time < run.distance monitor time := by
  have hle := hstride.now_le
  unfold Run.distance
  rcases hstride.progress hinterval with hrest | ⟨hlater, hrest⟩
  · have hspan : time - next.state.now.instant ≤
        time - run.state.now.instant := by omega
    have hscaled := Nat.mul_le_mul_right
      (monitor.pingsFrom .dependencyWait + 1) hspan
    omega
  · have hspan : time - next.state.now.instant + 1 ≤
        time - run.state.now.instant := by omega
    have hscaled := Nat.mul_le_mul_right
      (monitor.pingsFrom .dependencyWait + 1) hspan
    rw [Nat.succ_mul] at hscaled
    omega

theorem distance_begin_lt
    (monitor : Monitor σ) (origin : State σ) (time : Nat) :
    (Run.begin monitor origin).distance monitor time <
      monitor.stepsWithin (time - origin.now.instant) := by
  obtain ⟨first, hopens⟩ := opens_begin monitor origin
  obtain ⟨phase, -, hrest⟩ := hopens.rest_le
  have hfew := Nat.le_trans hrest (monitor.pingsFrom_le phase)
  rw [Run.distance, hopens.writes.now, Monitor.stepsWithin, Nat.succ_mul]
  omega

/-- A run takes the step it takes when nobody stops it, which ends no later than
`time`, or it stops. -/
theorem lockstep
    (world : World) (time : Nat) (hsound : run.Sound monitor)
    (hrunning : ∀ exit, run.control ≠ .ended exit) :
    (Run.step monitor world (some time) run = Run.step monitor world none run ∧
        (run.state.now.instant < time →
          (Run.step monitor world none run).state.now.instant ≤ time)) ∨
      ∃ entries,
        Stride monitor world (some time) run
            (Run.step monitor world (some time) run) entries ∧
          (Run.step monitor world (some time) run).control =
            .ended .shutdown := by
  have hawake : ∀ {wake : Moment},
      Run.stoppedBefore (some time) run.state.now wake = none →
        wake.instant ≤ time := by
    intro wake hnone
    simp only [Run.stoppedBefore, ite_eq_right_iff] at hnone
    by_cases hlt : time < wake.instant
    · exact nomatch hnone (.inr hlt)
    · exact Nat.le_of_not_lt hlt
  obtain ⟨state, control⟩ := run
  cases control with
  | ended exit => exact absurd rfl (hrunning exit)
  | pause =>
      cases hstopped :
          Run.stoppedBefore (some time) state.now (Run.wake monitor state) with
      | none =>
          left
          obtain ⟨entries, hturn⟩ :=
            turn_resume monitor (state.moveTo (Run.wake monitor state))
          simp only [Run.step, Run.stepPause_eq, hstopped,
            Run.stoppedBefore_none]
          refine ⟨trivial, fun _ => ?_⟩
          rw [hturn.writes.now]
          exact hawake hstopped
      | some moment =>
          right
          obtain ⟨entries, hstride⟩ :=
            stride_stepPause monitor world (some time) state
          refine ⟨entries, hstride, ?_⟩
          simp only [Run.step, Run.stepPause_eq, hstopped]
          rfl
  | ping pass =>
      obtain ⟨hphase, probe, hprobe⟩ := hsound pass rfl
      simp only [Run.step, hprobe]
      cases hstopped :
          Run.stoppedBefore (some time) state.now
            (Run.watchOf world state pass probe).answered with
      | none =>
          left
          rw [Run.stepPing_eq, Run.stepPing_eq, hstopped]
          refine ⟨rfl, fun _ => ?_⟩
          have hsame :=
            (Run.phase_afterAnswer world state pass probe).trans hphase.symm
          obtain ⟨entries, hturn⟩ :=
            turn_answer monitor hsame probe
              (Run.callOf world state pass).safeMode
              (Run.watchOf world state pass probe).outcome
          simp only [Run.stoppedBefore_none]
          rw [hturn.writes.now]
          exact hawake hstopped
      | some moment =>
          right
          obtain ⟨entries, hstride⟩ :=
            stride_stepPing world (some time) hphase hprobe
          refine ⟨entries, hstride, ?_⟩
          rw [Run.stepPing_eq, hstopped]
          rfl

end Rest

/-! ## A run that nobody disturbs -/

theorem Run.play_add
    (monitor : Monitor σ) (world : World) (stop : Option Nat)
    (steps more : Nat) (run : Run σ) :
    play monitor world stop (steps + more) run =
      play monitor world stop more (play monitor world stop steps run) := by
  induction steps generalizing run with
  | zero => rw [Nat.zero_add, play]
  | succ steps ih => rw [Nat.succ_add, play_succ, play_succ, ih]

/-- A run from `origin` that nobody stops, after some steps. -/
def Monitor.undisturbed
    (monitor : Monitor σ) (world : World) (origin : State σ) (steps : Nat) :
    Run σ :=
  Run.play monitor world none steps (Run.begin monitor origin)

section Undisturbed

variable {monitor : Monitor σ} {world : World} {origin : State σ}
  {run next : Run σ} {entries : List Entry} {time : Nat}

theorem undisturbed_succ (steps : Nat) :
    monitor.undisturbed world origin (steps + 1) =
      Run.step monitor world none
        (monitor.undisturbed world origin steps) := by
  rw [Monitor.undisturbed, Run.play_add, Run.play_succ]
  rfl

theorem undisturbed_of_ended
    {steps fuel : Nat} {exit : RunExit}
    (hended : (monitor.undisturbed world origin steps).control = .ended exit)
    (hle : steps ≤ fuel) :
    monitor.undisturbed world origin fuel =
      monitor.undisturbed world origin steps := by
  obtain ⟨more, rfl⟩ := Nat.exists_eq_add_of_le hle
  rw [Monitor.undisturbed, Run.play_add]
  exact Run.play_of_ended hended more

theorem undisturbed_journey
    (monitor : Monitor σ) (world : World) (origin : State σ) (steps : Nat) :
    ∃ entries,
      Journey monitor world none origin
        (monitor.undisturbed world origin steps) entries := by
  obtain ⟨first, hopens⟩ := opens_begin monitor origin
  have hbegun : Journey monitor world none origin (Run.begin monitor origin)
      first := .opened hopens
  obtain ⟨more, hjourney⟩ := hbegun.play steps
  exact ⟨_, hjourney⟩

/-- Until it is over, a run leaves a monitor as closed as it was. -/
theorem closed_undisturbed
    {steps : Nat}
    (hrunning : ∀ exit,
      (monitor.undisturbed world origin steps).control ≠ .ended exit) :
    (monitor.undisturbed world origin steps).state.closed = origin.closed := by
  obtain ⟨entries, haccounts⟩ :=
    accounted_play none steps
      (accounted_begin :
        Accounted monitor world origin (Run.begin monitor origin))
  rw [Monitor.undisturbed] at hrunning ⊢
  generalize Run.play monitor world none steps (Run.begin monitor origin) =
    played at haccounts hrunning ⊢
  cases haccounts with
  | ping _ hclosed _ _ => exact hclosed
  | pause _ hclosed _ _ => exact hclosed
  | ended _ _ => exact absurd rfl (hrunning _)

/-- An entry about something that has begun by some instant. -/
def Entry.HasBegunBy (instant : Nat) : Entry → Prop
  | told time _ _ => time ≤ instant
  | pinged ping => ping.started ≤ instant
  | _ => True

theorem Entry.hasBegunBy_of_isAt
    {instant : Nat} {entry : Entry} (hentry : entry.IsAt instant) :
    entry.HasBegunBy instant := by
  cases entry with
  | told time callback verdict => exact Nat.le_of_eq hentry
  | pinged ping => exact hentry.elim
  | prepared position => trivial
  | beganBootstrap position => trivial
  | endedBootstrap position => trivial

theorem Entry.HasBegunBy.mono
    {instant later : Nat} {entry : Entry} (hentry : entry.HasBegunBy instant)
    (hle : instant ≤ later) : entry.HasBegunBy later := by
  cases entry with
  | told time callback verdict => exact Nat.le_trans hentry hle
  | pinged ping => exact Nat.le_trans hentry hle
  | prepared position => trivial
  | beganBootstrap position => trivial
  | endedBootstrap position => trivial

theorem Writes.hasBegunBy
    {state other : State σ} (hwrites : Writes state other entries) :
    ∀ entry ∈ entries, entry.HasBegunBy other.now.instant := by
  intro entry hmem
  rw [hwrites.now]
  exact Entry.hasBegunBy_of_isAt (hwrites.instants entry hmem)

theorem Stride.hasBegunBy
    (hstride : Stride monitor world none run next entries) :
    ∀ entry ∈ entries, entry.HasBegunBy next.state.now.instant := by
  have hle := hstride.now_le
  cases hstride with
  | woken _ hturn => exact hturn.writes.hasBegunBy
  | answered _ _ _ hturn =>
      rw [List.forall_mem_cons]
      exact ⟨hle, hturn.writes.hasBegunBy⟩
  | broken _ _ hstopped _ _ =>
      exact absurd hstopped (Run.stoppedBefore_none_ne _ _ _)
  | stopped _ _ hstop _ =>
      obtain ⟨wake, hstop⟩ := hstop
      exact absurd hstop (Run.stoppedBefore_none_ne _ _ _)

theorem Journey.hasBegunBy
    (hjourney : Journey monitor world none origin run entries) :
    ∀ entry ∈ entries, entry.HasBegunBy run.state.now.instant := by
  induction hjourney with
  | opened hopens => exact hopens.writes.hasBegunBy
  | strode _ hstride ih =>
      rw [List.forall_mem_append]
      refine ⟨?_, hstride.hasBegunBy⟩
      intro entry hmem
      exact (ih entry hmem).mono hstride.now_le

/-- A run that is asked to stop at `time` goes as if nobody asked, up to a step
in which it ends by itself or is broken off. -/
theorem play_asked
    (hinterval : 0 < monitor.timing.probeInterval)
    (halone : ∀ steps,
      (monitor.undisturbed world origin steps).state.now.instant ≠ time)
    (fuel : Nat) {steps : Nat}
    (hbefore :
      (monitor.undisturbed world origin steps).state.now.instant < time)
    (hfuel :
      (monitor.undisturbed world origin steps).distance monitor time < fuel) :
    ∃ last, last ≤ steps + fuel ∧
      (monitor.undisturbed world origin last).state.now.instant < time ∧
      ((∃ exit,
          (monitor.undisturbed world origin last).control = .ended exit ∧
          Run.play monitor world (some time) fuel
              (monitor.undisturbed world origin steps) =
            monitor.undisturbed world origin last) ∨
        ∃ entries,
          Stride monitor world (some time)
            (monitor.undisturbed world origin last)
            (Run.play monitor world (some time) fuel
              (monitor.undisturbed world origin steps)) entries ∧
          (Run.play monitor world (some time) fuel
            (monitor.undisturbed world origin steps)).control =
              .ended .shutdown) := by
  -- The two runs keep in step until the end, and each step lessens the distance
  -- to `time`, so the fuel does not run out before.
  induction fuel generalizing steps with
  | zero => exact absurd hfuel (Nat.not_lt_zero _)
  | succ fuel ih =>
      by_cases hended :
          ∃ exit, (monitor.undisturbed world origin steps).control = .ended exit
      · obtain ⟨exit, hended⟩ := hended
        exact ⟨steps, Nat.le_add_right _ _, hbefore,
          .inl ⟨exit, hended, Run.play_of_ended hended _⟩⟩
      · have hrunning : ∀ exit,
            (monitor.undisturbed world origin steps).control ≠ .ended exit :=
          fun exit hexit => hended ⟨exit, hexit⟩
        obtain ⟨entries, hjourney⟩ :=
          undisturbed_journey monitor world origin steps
        rw [Run.play_succ]
        rcases lockstep world time hjourney.sound hrunning with
          ⟨hsame, hle⟩ | ⟨more, hstride, hstopped⟩
        · obtain ⟨more, hstride⟩ :=
            stride_step world none hjourney.sound hrunning
          rw [hsame, ← undisturbed_succ]
          rw [← undisturbed_succ] at hle hstride
          have hearly :
              (monitor.undisturbed world origin (steps + 1)).state.now.instant <
                time :=
            Nat.lt_of_le_of_ne (hle hbefore) (halone _)
          have hcloser := hstride.distance_lt hinterval hearly
          obtain ⟨last, hlast, hrest⟩ := ih hearly (by omega)
          exact ⟨last, by omega, hrest⟩
        · rw [Run.play_of_ended hstopped]
          exact ⟨steps, Nat.le_add_right _ _, hbefore,
            .inr ⟨more, hstride, hstopped⟩⟩

end Undisturbed

/-! ## The farewell -/

section Stopping

variable {monitor : Monitor σ} {world : World} {origin state : State σ}
  {run next : Run σ} {entries : List Entry} {time : Nat}

theorem State.closed_close (monitor : Monitor σ) (state : State σ) :
    (state.close monitor).closed = true := by
  unfold close
  split
  next hclosed => exact hclosed
  next => rfl

theorem State.close_of_closed (hclosed : state.closed = true) :
    state.close monitor = state :=
  if_pos hclosed

theorem State.iterate_close (hclosed : state.closed = true) (count : Nat) :
    (fun state => State.close state monitor)^[count] state = state :=
  Function.iterate_fixed (close_of_closed hclosed) count

theorem State.farewell_of_open
    (monitor : Monitor σ) (hopen : state.closed = false) :
    ∃ verdict,
      state.farewell monitor =
        [.told state.now.instant .unregister verdict] := by
  rw [farewell, hopen]
  exact ⟨_, rfl⟩

theorem Run.instant_of_stopped
    {now wake moment : Moment}
    (hstopped : Run.stoppedBefore (some time) now wake = some moment)
    (hbefore : now.instant < time) :
    moment.instant = time := by
  simp only [stoppedBefore, Option.ite_none_right_eq_some, Option.some.injEq]
    at hstopped
  obtain ⟨-, rfl⟩ := hstopped
  rw [Moment.seen, if_neg (Nat.not_le_of_lt hbefore)]

theorem Run.closed_afterBreak
    (world : World) (state : State σ) (pass : Pass) (moment : Moment) :
    (Run.afterBreak world state pass moment).closed = state.closed := by
  simp [Run.afterBreak, Run.recordPing, State.moveTo]

/-- A ping that was begun at `started` and cut short at `time`, if there was
one. -/
def IsCutShort (started time : Nat) (cut : List Entry) : Prop :=
  cut = [] ∨ ∃ ping, cut = [.pinged ping] ∧ ping.outcome = none ∧
    ping.started = started ∧ ping.answered = time

theorem Stride.stops
    (hstride : Stride monitor world (some time) run next entries)
    (hended : next.control = .ended .shutdown)
    (hbefore : run.state.now.instant < time)
    (hopen : run.state.closed = false) :
    next.state.now.instant = time ∧ next.state.closed = true ∧
      ∃ cut verdict, entries = cut ++ [.told time .unregister verdict] ∧
        IsCutShort run.state.now.instant time cut := by
  cases hstride with
  | woken _ hturn => exact absurd hended hturn.control_ne
  | answered _ _ _ hturn => exact absurd hended hturn.control_ne
  | @broken state pass probe moment _ _ hstopped _ _ =>
      have htime := Run.instant_of_stopped hstopped hbefore
      have hclosing :=
        stays_close monitor (Run.afterBreak world state pass moment)
      obtain ⟨verdict, hfarewell⟩ :=
        State.farewell_of_open monitor
          ((Run.closed_afterBreak world state pass moment).trans hopen)
      refine ⟨?_, State.closed_close _ _,
        [.pinged (Run.brokenPing world state pass moment)], verdict, ?_,
        .inr ⟨_, rfl, rfl, rfl, htime⟩⟩
      · exact (congrArg Moment.instant hclosing.now).trans htime
      · rw [hfarewell, ← htime]
        rfl
  | @stopped state control moment _ _ hstop _ =>
      obtain ⟨wake, hstopped⟩ := hstop
      have htime := Run.instant_of_stopped hstopped hbefore
      have hclosing := stays_close monitor (state.moveTo moment)
      have hstill : (state.moveTo moment).closed = false := hopen
      obtain ⟨verdict, hfarewell⟩ :=
        State.farewell_of_open monitor hstill
      refine ⟨?_, State.closed_close _ _, [], verdict, ?_, .inl rfl⟩
      · exact (congrArg Moment.instant hclosing.now).trans htime
      · rw [hfarewell, ← htime]
        rfl

end Stopping

/-! ## The record of a shutdown -/

/-- How a run ends that is shut down at `time`. -/
structure StopRecord
    (monitor : Monitor σ) (world : World) (origin : State σ) (time : Nat)
    (final : State σ) : Prop where
  now : final.now.instant = time
  /-- Up to `time` nothing differs from a run that nobody stops. -/
  undisturbed : ∃ steps cut verdict,
    (monitor.undisturbed world origin steps).state.now.instant < time ∧
      final.since origin =
        (monitor.undisturbed world origin steps).state.since origin ++ cut ++
          [.told time .unregister verdict] ∧
      IsCutShort
        (monitor.undisturbed world origin steps).state.now.instant time cut
  pings : ∀ ping ∈ pingsIn (final.since origin), ping.started < time
  /-- From `time` on there is one callback, the farewell. -/
  callbacks : ∃ before verdict,
    final.since origin = before ++ [.told time .unregister verdict] ∧
      ∀ instant callback verdict, .told instant callback verdict ∈ before →
        instant < time
  closed : ∀ count,
    (fun state => State.close state monitor)^[count] final = final

/-- The signal of a sender that goes away after all else it does. -/
def ShutdownSignal.drop (signal : ShutdownSignal) (gone : Nat) :
    ShutdownSignal :=
  { signal with events := signal.events ++ [(gone, .dropped)] }

/-- A run that is asked to stop while it goes on stops at once; one that is not
asked goes on. -/
structure ShutdownRecord
    (monitor : Monitor σ) (world : World) (origin : State σ) : Prop where
  prompt : ∀ (signal : ShutdownSignal) time,
    signal.stop? origin.now.instant = some time →
      origin.now.instant < time →
      (∀ steps,
        (monitor.undisturbed world origin steps).state.now.instant ≠ time) →
      ∀ fuel, monitor.stepsWithin (time - origin.now.instant) ≤ fuel →
        ∃ exit final,
          monitor.perform world fuel origin (.run signal) =
              (.exited (some exit), final) ∧
            ((final.now.instant < time ∧
                monitor.perform world fuel origin (.run {}) =
                  (.exited (some exit), final)) ∨
              (exit = .shutdown ∧
                StopRecord monitor world origin time final))
  /-- Without a `true` the sender may do what it likes, and go away. -/
  silent : ∀ (signal : ShutdownSignal), signal.initial = false →
    (∀ event ∈ signal.events, event.2 ≠ .sent true) →
      ∀ fuel,
        monitor.perform world fuel origin (.run signal) =
            monitor.perform world fuel origin (.run {}) ∧
          (monitor.perform world fuel origin (.run signal)).1 ≠
            .exited (some .shutdown)
  /-- That the sender goes away alters nothing, whatever it sent before. -/
  dropped : ∀ (signal : ShutdownSignal) gone fuel,
    monitor.perform world fuel origin (.run (signal.drop gone)) =
      monitor.perform world fuel origin (.run signal)
  /-- A wait that ends in the error of a closed channel stops no run. -/
  closed : ∀ (signal : ShutdownSignal) gone,
    signal.await origin.now.instant = .closed gone →
      ∀ fuel,
        monitor.perform world fuel origin (.run signal) =
            monitor.perform world fuel origin (.run {}) ∧
          (monitor.perform world fuel origin (.run signal)).1 ≠
            .exited (some .shutdown)

namespace ShutdownSignal

theorem awaitAmong_ne_seen
    {events : List (Nat × ChannelEvent)}
    (hsilent : ∀ event ∈ events, event.2 ≠ .sent true) (start instant : Nat) :
    awaitAmong start events ≠ .seen instant := by
  induction events with
  | nil => exact nofun
  | cons event events ih =>
      have hrest := List.forall_mem_cons.mp hsilent
      obtain ⟨after, what⟩ := event
      cases what with
      | dropped => exact nofun
      | sent value =>
          cases value with
          | true => exact absurd rfl hrest.1
          | false => exact ih hrest.2

theorem stop?_of_silent
    {signal : ShutdownSignal} (hinitial : signal.initial = false)
    (hsilent : ∀ event ∈ signal.events, event.2 ≠ .sent true) (start : Nat) :
    signal.stop? start = none := by
  have hunseen := awaitAmong_ne_seen hsilent start
  simp only [stop?, await, hinitial, Bool.false_eq_true, if_false]
  cases hawaited : awaitAmong start signal.events with
  | seen instant => exact absurd hawaited (hunseen instant)
  | closed gone => rfl
  | pending => rfl

/-- Waiting comes to the same when the sender goes away in the end, or to the
error instead of to nothing. -/
theorem awaitAmong_dropped
    (start gone : Nat) (events : List (Nat × ChannelEvent)) :
    awaitAmong start (events ++ [(gone, .dropped)]) =
      match awaitAmong start events with
      | .pending => .closed (start + gone)
      | awaited => awaited := by
  induction events with
  | nil => rfl
  | cons event events ih =>
      obtain ⟨after, what⟩ := event
      cases what with
      | dropped => rfl
      | sent value =>
          cases value with
          | true => rfl
          | false => exact ih

theorem stop?_drop (signal : ShutdownSignal) (gone start : Nat) :
    (signal.drop gone).stop? start = signal.stop? start := by
  unfold stop? await drop
  cases hinitial : signal.initial with
  | true => rfl
  | false =>
      simp only [Bool.false_eq_true, if_false]
      rw [awaitAmong_dropped]
      cases awaitAmong start signal.events with
      | seen instant => rfl
      | closed earlier => rfl
      | pending => rfl

end ShutdownSignal

section Recording

variable {monitor : Monitor σ} {world : World} {origin : State σ}

theorem perform_run
    (hstarted : origin.started = true) (signal : ShutdownSignal) (fuel : Nat) :
    monitor.perform world fuel origin (.run signal) =
      let played :=
        Run.play monitor world (signal.stop? origin.now.instant) fuel
          (Run.begin monitor origin)
      (.exited played.exit?, played.state) := by
  simp only [Monitor.perform, Monitor.run, if_pos hstarted]

theorem perform_run_of_ended
    (hstarted : origin.started = true) {signal : ShutdownSignal} {fuel : Nat}
    {run : Run σ} {exit : RunExit}
    (hplayed :
      Run.play monitor world (signal.stop? origin.now.instant) fuel
        (Run.begin monitor origin) = run)
    (hended : run.control = .ended exit) :
    monitor.perform world fuel origin (.run signal) =
      (.exited (some exit), run.state) := by
  rw [perform_run hstarted, hplayed]
  simp [Run.exit?, hended]

theorem perform_run_congr
    (hstarted : origin.started = true) {signal other : ShutdownSignal}
    (hstop :
      signal.stop? origin.now.instant = other.stop? origin.now.instant)
    (fuel : Nat) :
    monitor.perform world fuel origin (.run signal) =
      monitor.perform world fuel origin (.run other) := by
  rw [perform_run hstarted, perform_run hstarted, hstop]

/-- A run that nothing asks to stop is the one with a sender that does
nothing. -/
theorem perform_run_of_unasked
    (hstarted : origin.started = true) {signal : ShutdownSignal}
    (hunasked : signal.stop? origin.now.instant = none) (fuel : Nat) :
    monitor.perform world fuel origin (.run signal) =
        monitor.perform world fuel origin (.run {}) ∧
      (monitor.perform world fuel origin (.run signal)).1 ≠
        .exited (some .shutdown) := by
  refine ⟨perform_run_congr hstarted hunasked fuel, ?_⟩
  rw [perform_run hstarted, hunasked]
  obtain ⟨entries, hjourney⟩ := undisturbed_journey monitor world origin fuel
  intro hexited
  exact hjourney.control_ne
    (Run.control_of_exit? (Monitor.Answer.exited.inj hexited))

theorem stopRecord_of_stride
    {steps time : Nat} {final : Run σ} {entries : List Entry}
    (hopen : origin.closed = false)
    (hbefore :
      (monitor.undisturbed world origin steps).state.now.instant < time)
    (hstride :
      Stride monitor world (some time)
        (monitor.undisturbed world origin steps) final entries)
    (hended : final.control = .ended .shutdown) :
    StopRecord monitor world origin time final.state := by
  have hclosed := closed_undisturbed hstride.not_ended
  obtain ⟨earlier, hjourney⟩ := undisturbed_journey monitor world origin steps
  obtain ⟨hnow, hdone, cut, verdict, rfl, hcut⟩ :=
    hstride.stops hended hbefore (hclosed.trans hopen)
  have hearlier : (monitor.undisturbed world origin steps).state.since origin =
      earlier := State.since_eq hjourney.transcript
  have hsince : final.state.since origin =
      earlier ++ cut ++ [.told time .unregister verdict] := by
    apply State.since_eq
    rw [hstride.transcript, hjourney.transcript]
    simp
  have hbegun : ∀ entry ∈ earlier ++ cut,
      entry.HasBegunBy
        (monitor.undisturbed world origin steps).state.now.instant := by
    rw [List.forall_mem_append]
    refine ⟨hjourney.hasBegunBy, ?_⟩
    rcases hcut with rfl | ⟨ping, rfl, -, hstarted, -⟩
    · exact List.forall_mem_nil _
    · rw [List.forall_mem_singleton]
      exact Nat.le_of_eq hstarted
  constructor
  case now => exact hnow
  case undisturbed =>
    refine ⟨steps, cut, verdict, hbefore, ?_, hcut⟩
    rw [hsince, hearlier]
  case pings =>
    rw [hsince, pingsIn_append, pingsIn_told_cons, pingsIn_nil, List.append_nil]
    intro ping hmem
    obtain ⟨before, after, hping⟩ := List.append_of_mem hmem
    obtain ⟨front, back, hsplit, -, -⟩ := pingsIn_split hping
    have hstarted := hbegun (.pinged ping) (by simp [hsplit])
    exact Nat.lt_of_le_of_lt hstarted hbefore
  case callbacks =>
    refine ⟨earlier ++ cut, verdict, hsince, ?_⟩
    intro instant callback verdict hmem
    exact Nat.lt_of_le_of_lt (hbegun _ hmem) hbefore
  case closed => exact State.iterate_close hdone

end Recording

/-- A monitor that was built and started stops as soon as it is asked to, with
one farewell, and never without being asked. -/
theorem fresh_run_shutdown
    {monitor : Monitor σ} {world : World} {origin : State σ}
    (hfresh : monitor.Fresh origin) (hstarted : origin.started = true) :
    ShutdownRecord monitor world origin := by
  have hinterval : 0 < monitor.timing.probeInterval := hfresh.reachable.valid.1
  constructor
  case prompt =>
    intro signal time hstop hafter halone fuel hfuel
    obtain ⟨first, hopens⟩ := opens_begin monitor origin
    have hnow : (Run.begin monitor origin).state.now.instant =
        origin.now.instant := congrArg Moment.instant hopens.writes.now
    have hbefore :
        (monitor.undisturbed world origin 0).state.now.instant < time :=
      hnow ▸ hafter
    have hdistance := Nat.lt_of_lt_of_le
      (distance_begin_lt monitor origin time) hfuel
    obtain ⟨last, hlast, hearly, hend⟩ :=
      play_asked hinterval halone fuel hbefore hdistance
    have hplayed :
        Run.play monitor world (signal.stop? origin.now.instant) fuel
            (Run.begin monitor origin) =
          Run.play monitor world (some time) fuel
            (monitor.undisturbed world origin 0) := by
      rw [hstop]
      rfl
    rcases hend with ⟨exit, hended, hsame⟩ | ⟨entries, hstride, hended⟩
    · have hsilent : monitor.undisturbed world origin fuel = _ :=
        undisturbed_of_ended hended (by omega)
      exact ⟨exit, _, perform_run_of_ended hstarted (hplayed.trans hsame) hended,
        .inl ⟨hearly, perform_run_of_ended hstarted hsilent hended⟩⟩
    · exact ⟨.shutdown, _, perform_run_of_ended hstarted hplayed hended,
        .inr ⟨rfl,
          stopRecord_of_stride hfresh.closed hearly hstride hended⟩⟩
  case silent =>
    intro signal hinitial hsilent
    exact perform_run_of_unasked hstarted
      (ShutdownSignal.stop?_of_silent hinitial hsilent _)
  case dropped =>
    intro signal gone
    exact perform_run_congr hstarted (signal.stop?_drop gone _)
  case closed =>
    intro signal gone hclosed
    apply perform_run_of_unasked hstarted
    rw [ShutdownSignal.stop?, hclosed]

/-! ## An example -/

namespace Sample

/-- A status check that takes two seconds, asked to stop in its first ping. -/
def hasty : ShutdownSignal where
  events := [(100, .sent false), (500, .sent true), (600, .dropped)]

theorem check_fresh : check.Fresh checkStart :=
  .performed (.built rfl) recovery 0 rfl

theorem hasty_alone (steps : Nat) :
    (check.undisturbed slowWorld checkStart steps).state.now.instant ≠ 500 := by
  match steps with
  | 0 => decide
  | 1 => decide
  | more + 2 =>
      have hended :
          (check.undisturbed slowWorld checkStart 2).control =
            .ended .cycleCompleted := rfl
      rw [undisturbed_of_ended hended (Nat.le_add_left 2 more)]
      decide

end Sample

theorem fresh_run_shutdown_sample :
    ShutdownRecord Sample.check Sample.slowWorld Sample.checkStart ∧
      ∃ final,
        Sample.check.perform Sample.slowWorld 1503 Sample.checkStart
            (.run Sample.hasty) =
          (.exited (some .shutdown), final) ∧
        StopRecord Sample.check Sample.slowWorld Sample.checkStart 500
          final := by
  have hrecord :
      ShutdownRecord Sample.check Sample.slowWorld Sample.checkStart :=
    fresh_run_shutdown Sample.check_fresh rfl
  refine ⟨hrecord, ?_⟩
  obtain ⟨exit, final, hrun, hend⟩ :=
    hrecord.prompt Sample.hasty 500 rfl (by decide) Sample.hasty_alone 1503
      (by decide)
  have hnow : final.now.instant = 500 :=
    congrArg (·.2.now.instant) hrun.symm
  rcases hend with ⟨hearly, -⟩ | ⟨rfl, hstopped⟩
  · omega
  · exact ⟨final, hrun, hstopped⟩

end HealthMonitor
