import HealthMonitor.Proofs.CourseRuns

/-!
# The order of the probes

Monitors with the same probes in another order run the same course.  When each
probe is pinged differs, but not when phases are entered, when passes begin and
end, when a cycle is complete, or when the time of a phase is used up.  A stop
breaks either run off after all it told before.  The main statement is
`run_sameCourse`.
-/

namespace HealthMonitor

variable {σ : Type}

/-! ## Before the stop -/

/-- Whether an instant comes before a run is asked to stop. -/
def comesBefore (stop : Option Nat) (instant : Nat) : Bool :=
  stop.all (instant < ·)

/-- The milestones that some entries tell of, up to the stop. -/
def milestonesBefore
    (monitor : Monitor σ) (stop : Option Nat) (entries : List Entry) :
    List (Nat × Milestone) :=
  (milestonesIn monitor entries).filter fun mark => comesBefore stop mark.1

def State.milestonesBefore
    (monitor : Monitor σ) (stop : Option Nat) (state : State σ) :
    List (Nat × Milestone) :=
  HealthMonitor.milestonesBefore monitor stop state.transcript.reverse

section Before

variable {monitor : Monitor σ} {world : World} {stop : Option Nat}
  {time : Nat} {state other : State σ} {run next : Run σ}
  {entries : List Entry}

theorem comesBefore_some (time instant : Nat) :
    comesBefore (some time) instant = decide (instant < time) := rfl

/-- An entry that is written while no time passes tells of that instant. -/
theorem Entry.instant_of_isAt
    {instant : Nat} {entry : Entry} (hentry : entry.IsAt instant) :
    ∀ mark ∈ entry.milestones monitor, mark.1 = instant := by
  cases entry with
  | told time callback verdict =>
      obtain rfl : time = instant := hentry
      cases callback with
      | timedOut phase probe last now =>
          by_cases hlive : phase = .live
          · simp [milestones, hlive]
          · simp [milestones, hlive]
      | _ => simp [milestones]
  | pinged ping => exact hentry.elim
  | _ => simp [milestones]

/-- No milestone of a ping is from before it started. -/
theorem Entry.started_le
    {ping : Ping} (hanswered : ping.started ≤ ping.answered) :
    ∀ mark ∈ (Entry.pinged ping).milestones monitor,
      ping.started ≤ mark.1 := by
  intro mark hmark
  simp only [milestones, List.mem_append] at hmark
  rcases hmark with hbegan | hended
  · split at hbegan
    next =>
      rw [List.mem_singleton.mp hbegan]
    next => exact absurd hbegan List.not_mem_nil
  · split at hended
    next =>
      rw [List.mem_singleton.mp hended]
      exact hanswered
    next => exact absurd hended List.not_mem_nil

theorem Writes.instant_milestones
    (hwrites : Writes state other entries) :
    ∀ mark ∈ milestonesIn monitor entries, mark.1 = state.now.instant := by
  intro mark hmark
  obtain ⟨entry, hmem, hmark⟩ := List.mem_flatMap.mp hmark
  exact Entry.instant_of_isAt (hwrites.instants entry hmem) mark hmark

/-- A step of a run that nobody stops tells of nothing from before it. -/
theorem Stride.now_le_milestones
    (hstride : Stride monitor world none run next entries) :
    ∀ mark ∈ milestonesIn monitor entries,
      run.state.now.instant ≤ mark.1 := by
  intro mark hmark
  cases hstride with
  | @woken state _ _ _ hturn =>
      rw [hturn.writes.instant_milestones mark hmark]
      exact Moment.instant_le (Moment.le_timer _ _)
  | @answered state pass probe _ _ _ _ _ hturn =>
      have hanswered : state.now.instant ≤
          (Run.watchOf world state pass probe).answered.instant :=
        Watchdog.le_answered_race _ _ _ _
      rw [milestonesIn_cons, List.mem_append] at hmark
      rcases hmark with hpinged | hlater
      · exact Entry.started_le hanswered mark hpinged
      · rw [hturn.writes.instant_milestones mark hlater]
        exact hanswered
  | broken _ _ hstopped _ _ =>
      exact absurd hstopped (Run.stoppedBefore_none_ne _ _ _)
  | stopped _ _ hstop _ =>
      obtain ⟨wake, hstop⟩ := hstop
      exact absurd hstop (Run.stoppedBefore_none_ne _ _ _)

theorem State.milestonesBefore_eq :
    state.milestonesBefore monitor stop =
      (state.milestones monitor).filter fun mark => comesBefore stop mark.1 :=
  rfl

theorem State.milestonesBefore_of_transcript
    (htranscript : other.transcript = entries.reverse ++ state.transcript) :
    other.milestonesBefore monitor stop =
      state.milestonesBefore monitor stop ++
        HealthMonitor.milestonesBefore monitor stop entries := by
  rw [milestonesBefore_eq, milestones_of_transcript htranscript,
    List.filter_append]
  rfl

theorem milestonesBefore_of_late
    (hlate : ∀ mark ∈ milestonesIn monitor entries, time ≤ mark.1) :
    milestonesBefore monitor (some time) entries = [] := by
  rw [milestonesBefore, List.filter_eq_nil_iff]
  intro mark hmark
  have hle := hlate mark hmark
  simp [comesBefore_some, hle]

end Before

/-! ## Runs that are broken off -/

/-- A run that was stopped at `time`, with what the `whole` run told before. -/
structure BrokenOff
    (monitor : Monitor σ) (time : Nat) (whole cut : Run σ) : Prop where
  control : cut.control = .ended .shutdown
  late : time ≤ whole.state.now.instant
  milestones : cut.state.milestonesBefore monitor (some time) =
    whole.state.milestonesBefore monitor (some time)

section Breaking

variable {monitor : Monitor σ} {world : World} {time : Nat}
  {origin state : State σ} {run whole cut next : Run σ} {entries : List Entry}

theorem BrokenOff.stride
    (hcut : BrokenOff monitor time whole cut)
    (hstride : Stride monitor world none whole next entries) :
    BrokenOff monitor time next cut where
  control := hcut.control
  late := Nat.le_trans hcut.late hstride.now_le
  milestones := by
    have hlate : ∀ mark ∈ milestonesIn monitor entries, time ≤ mark.1 :=
      fun mark hmark =>
        Nat.le_trans hcut.late (hstride.now_le_milestones mark hmark)
    rw [State.milestonesBefore_of_transcript hstride.transcript,
      milestonesBefore_of_late hlate, List.append_nil, hcut.milestones]

/-- A farewell is no milestone. -/
theorem milestones_shutDown (state : State σ) :
    (Run.shutDown monitor state).state.milestones monitor =
      state.milestones monitor := by
  rw [Run.shutDown, State.milestones_of_transcript
    (stays_close monitor state).transcript]
  unfold State.farewell
  split
  next => exact List.append_nil _
  next => exact List.append_nil _

/-- When a stop is seen in a wait, it is seen at once or it cuts the wait
short. -/
theorem Run.stoppedBefore_cases
    {now wake moment : Moment}
    (hstopped : Run.stoppedBefore (some time) now wake = some moment) :
    (time ≤ now.instant ∧ moment = now) ∨
      (now.instant < time ∧ moment ≠ now ∧ time < wake.instant) := by
  simp only [stoppedBefore, Option.ite_none_right_eq_some, Option.some.injEq]
    at hstopped
  obtain ⟨hbefore, rfl⟩ := hstopped
  by_cases hle : time ≤ now.instant
  · exact .inl ⟨hle, if_pos hle⟩
  · refine .inr ⟨Nat.lt_of_not_le hle, ?_, hbefore.resolve_left hle⟩
    rw [Moment.seen, if_neg hle]
    rintro rfl
    exact hle (Nat.le_refl _)

/-- A run that is stopped before it tells anything more. -/
theorem brokenOff_of_silent
    (htranscript :
      whole.state.transcript = entries.reverse ++ state.transcript)
    (hlate : ∀ mark ∈ milestonesIn monitor entries, time ≤ mark.1)
    (hnow : time ≤ whole.state.now.instant) (moment : Moment) :
    BrokenOff monitor time whole
      (Run.shutDown monitor (state.moveTo moment)) where
  control := rfl
  late := hnow
  milestones := by
    rw [State.milestonesBefore_of_transcript htranscript,
      milestonesBefore_of_late hlate, List.append_nil,
      State.milestonesBefore_eq, milestones_shutDown]
    rfl

/-- A ping that is cut short tells what it tells otherwise, but for its end. -/
theorem milestonesBefore_brokenPing
    {pass : Pass} {probe : Probe} (moment : Moment)
    (hcut : time < (Run.watchOf world state pass probe).answered.instant) :
    milestonesBefore monitor (some time)
        [.pinged (Run.brokenPing world state pass moment)] =
      milestonesBefore monitor (some time)
        [.pinged (Run.answeredPing world state pass probe)] := by
  have hlate : comesBefore (some time)
      (Run.answeredPing world state pass probe).answered = false :=
    decide_eq_false (Nat.not_lt_of_gt hcut)
  have hnone : (Run.brokenPing world state pass moment).outcome = none := rfl
  have hsame : (Run.brokenPing world state pass moment).phase =
      (Run.answeredPing world state pass probe).phase := rfl
  simp only [milestonesBefore, milestonesIn, List.flatMap_singleton,
    Entry.milestones, List.filter_append, hnone, hsame]
  congr 1
  rw [if_neg fun hboth => hboth.2 rfl]
  split
  next => simp [hlate]
  next => rfl

theorem brokenOff_stepPause
    {moment : Moment}
    (hstopped : Run.stoppedBefore (some time) state.now
      (Run.wake monitor state) = some moment) :
    BrokenOff monitor time
      (Run.resume monitor (state.moveTo (Run.wake monitor state)))
      (Run.shutDown monitor (state.moveTo moment)) := by
  have hwake : time ≤ (Run.wake monitor state).instant := by
    rcases Run.stoppedBefore_cases hstopped with ⟨hle, -⟩ | ⟨-, -, hlt⟩
    · exact Nat.le_trans hle (Moment.instant_le (Moment.le_timer _ _))
    · exact Nat.le_of_lt hlt
  obtain ⟨entries, hturn⟩ :=
    turn_resume monitor (state.moveTo (Run.wake monitor state))
  have htranscript :
      (Run.resume monitor
        (state.moveTo (Run.wake monitor state))).state.transcript =
          entries.reverse ++ state.transcript :=
    hturn.writes.transcript
  apply brokenOff_of_silent htranscript
  case hlate =>
    intro mark hmark
    rw [hturn.writes.instant_milestones mark hmark]
    exact hwake
  case hnow =>
    rw [hturn.writes.now]
    exact hwake

/-- The same for a ping that is broken off. -/
theorem brokenOff_afterBreak
    {pass : Pass} {probe : Probe} (moment : Moment)
    (hcut : time < (Run.watchOf world state pass probe).answered.instant)
    (hwrites :
      Writes (Run.afterAnswer world state pass probe) whole.state entries) :
    BrokenOff monitor time whole
      (Run.shutDown monitor (Run.afterBreak world state pass moment)) where
  control := rfl
  late := by
    rw [hwrites.now]
    exact Nat.le_of_lt hcut
  milestones := by
    have hlate : ∀ mark ∈ milestonesIn monitor entries, time ≤ mark.1 := by
      intro mark hmark
      rw [hwrites.instant_milestones mark hmark]
      exact Nat.le_of_lt hcut
    have hbroken :
        (Run.afterBreak world state pass moment).transcript =
          [.pinged (Run.brokenPing world state pass moment)].reverse ++
            state.transcript := by
      simp [Run.afterBreak, Run.recordPing, State.moveTo, State.note]
    have hanswered :
        (Run.afterAnswer world state pass probe).transcript =
          [.pinged (Run.answeredPing world state pass probe)].reverse ++
            state.transcript :=
      (recorded_afterAnswer world state pass probe).transcript
    rw [State.milestonesBefore_eq, milestones_shutDown,
      ← State.milestonesBefore_eq,
      State.milestonesBefore_of_transcript hbroken,
      milestonesBefore_brokenPing moment hcut,
      State.milestonesBefore_of_transcript hwrites.transcript,
      State.milestonesBefore_of_transcript hanswered,
      milestonesBefore_of_late hlate, List.append_nil]

/-- A run takes the step it takes when nobody stops it, or it is broken off. -/
theorem step_asked
    (world : World) (time : Nat) (hsound : run.Sound monitor)
    (hrunning : ∀ exit, run.control ≠ .ended exit) :
    Run.step monitor world (some time) run = Run.step monitor world none run ∨
      BrokenOff monitor time (Run.step monitor world none run)
        (Run.step monitor world (some time) run) := by
  obtain ⟨entries, hstride⟩ := stride_step world none hsound hrunning
  have hmarks := hstride.now_le_milestones
  have hnow := hstride.now_le
  obtain ⟨state, control⟩ := run
  cases control with
  | ended exit => exact absurd rfl (hrunning exit)
  | pause =>
      cases hstopped :
          Run.stoppedBefore (some time) state.now (Run.wake monitor state) with
      | none =>
          left
          simp only [Run.step, Run.stepPause_eq, hstopped,
            Run.stoppedBefore_none]
      | some moment =>
          right
          simp only [Run.step, Run.stepPause_eq, hstopped,
            Run.stoppedBefore_none]
          exact brokenOff_stepPause hstopped
  | ping pass =>
      obtain ⟨hphase, probe, hprobe⟩ := hsound pass rfl
      simp only [Run.step, hprobe, Run.stepPing_eq, Run.stoppedBefore_none]
        at hstride hnow ⊢
      cases hstopped :
          Run.stoppedBefore (some time) state.now
            (Run.watchOf world state pass probe).answered with
      | none => exact .inl rfl
      | some moment =>
          right
          rcases Run.stoppedBefore_cases hstopped with
            ⟨hle, hsame⟩ | ⟨-, hne, hcut⟩
          · simp only [if_pos hsame]
            have hlate : ∀ mark ∈ milestonesIn monitor entries,
                time ≤ mark.1 :=
              fun mark hmark => Nat.le_trans hle (hmarks mark hmark)
            exact brokenOff_of_silent hstride.transcript hlate
              (Nat.le_trans hle hnow) moment
          · simp only [if_neg hne]
            have hkept :=
              (Run.phase_afterAnswer world state pass probe).trans hphase.symm
            obtain ⟨_, hturn⟩ :=
              turn_answer monitor hkept probe
                (Run.callOf world state pass).safeMode
                (Run.watchOf world state pass probe).outcome
            exact brokenOff_afterBreak moment hcut hturn.writes

/-- A run that is asked to stop goes as if nobody asked, or it is broken off. -/
theorem play_brokenOff
    (monitor : Monitor σ) (world : World) (origin : State σ) (time steps : Nat) :
    Run.play monitor world (some time) steps (Run.begin monitor origin) =
        monitor.undisturbed world origin steps ∨
      BrokenOff monitor time (monitor.undisturbed world origin steps)
        (Run.play monitor world (some time) steps
          (Run.begin monitor origin)) := by
  -- Once the one run is broken off it stands still, and what the other still
  -- tells is later than the stop.
  induction steps with
  | zero => exact .inl rfl
  | succ steps ih =>
      rw [Run.play_add, undisturbed_succ]
      obtain ⟨entries, hjourney⟩ :=
        undisturbed_journey monitor world origin steps
      by_cases hended :
          ∃ exit, (monitor.undisturbed world origin steps).control = .ended exit
      · obtain ⟨exit, hended⟩ := hended
        have hstays : Run.step monitor world none
            (monitor.undisturbed world origin steps) =
              monitor.undisturbed world origin steps := by
          simp only [Run.step, hended]
        rw [hstays]
        rcases ih with hsame | hcut
        · rw [hsame, Run.play_of_ended hended]
          exact .inl rfl
        · rw [Run.play_of_ended hcut.control]
          exact .inr hcut
      · have hrunning : ∀ exit,
            (monitor.undisturbed world origin steps).control ≠ .ended exit :=
          fun exit hexit => hended ⟨exit, hexit⟩
        rcases ih with hsame | hcut
        · rw [hsame, Run.play_succ]
          exact step_asked world time hjourney.sound hrunning
        · obtain ⟨more, hstride⟩ :=
            stride_step world none hjourney.sound hrunning
          rw [Run.play_of_ended hcut.control]
          exact .inr (hcut.stride hstride)

end Breaking

/-! ## Two orders -/

/-- A run used up the time of a phase, before it was asked to stop. -/
def HitsLimit
    (stop : Option Nat) (exit : Option RunExit) (final : State σ)
    (phase : Phase) (elapsed : Nat) : Prop :=
  comesBefore stop final.now.instant = true ∧
    ∃ probe last, exit = some (.bootstrapTimedOut phase probe elapsed last)

section Ordering

variable {monitor : Monitor σ} {world : World} {origin : State σ}
  {run : Run σ} {leg : Leg}

theorem AtLeg.milestones_eq
    (hleg : AtLeg monitor world leg run) :
    run.state.milestones monitor = leg.log := by
  cases hleg with
  | pinging _ hlap _ _ _ => exact hlap.log
  | pausing hlap => exact hlap.log
  | ended hlog => exact hlog

theorem AtLeg.hitsLimit_iff
    (hleg : AtLeg monitor world leg run) (stop : Option Nat) (phase : Phase)
    (elapsed : Nat) :
    HitsLimit stop run.exit? run.state phase elapsed ↔
      ∃ now, comesBefore stop now = true ∧
        leg.stage = .ended phase elapsed now := by
  cases hleg with
  | pinging _ _ _ _ _ => simp [HitsLimit, Run.exit?]
  | pausing _ => simp [HitsLimit, Run.exit?]
  | ended _ =>
      simp only [HitsLimit, Run.exit?, Option.some.injEq,
        RunExit.bootstrapTimedOut.injEq, Stage.ended.injEq]
      constructor
      · rintro ⟨hbefore, _, _, rfl, -, rfl, -⟩
        exact ⟨_, hbefore, rfl, rfl, rfl⟩
      · rintro ⟨_, hbefore, rfl, rfl, rfl⟩
        exact ⟨hbefore, _, _, rfl, rfl, rfl, rfl⟩

/-- A stop takes nothing from what a run told before. -/
theorem milestonesBefore_play
    (monitor : Monitor σ) (world : World) (stop : Option Nat) (fuel : Nat)
    (origin : State σ) :
    (Run.play monitor world stop fuel
        (Run.begin monitor origin)).state.milestonesBefore monitor stop =
      (monitor.undisturbed world origin fuel).state.milestonesBefore monitor
        stop := by
  cases stop with
  | none => rfl
  | some time =>
      rcases play_brokenOff monitor world origin time fuel with hsame | hcut
      · rw [hsame]
      · exact hcut.milestones

/-- A run that is broken off hits no time limit before, and neither does the
whole run. -/
theorem hitsLimit_play
    (monitor : Monitor σ) (world : World) (stop : Option Nat) (fuel : Nat)
    (origin : State σ) {played whole : Run σ}
    (hplayed :
      Run.play monitor world stop fuel (Run.begin monitor origin) = played)
    (hwhole : monitor.undisturbed world origin fuel = whole)
    (phase : Phase) (elapsed : Nat) :
    HitsLimit stop played.exit? played.state phase elapsed ↔
      HitsLimit stop whole.exit? whole.state phase elapsed := by
  cases stop with
  | none =>
      obtain rfl : played = whole := hplayed.symm.trans hwhole
      exact Iff.rfl
  | some time =>
      have hend := play_brokenOff monitor world origin time fuel
      rw [hplayed, hwhole] at hend
      rcases hend with rfl | hcut
      · exact Iff.rfl
      · constructor
        · rintro ⟨-, probe, last, hexit⟩
          have hcontrol := Run.control_of_exit? hexit
          rw [hcut.control] at hcontrol
          exact nomatch hcontrol
        · rintro ⟨hbefore, -⟩
          exact absurd (of_decide_eq_true hbefore) (Nat.not_lt_of_ge hcut.late)

end Ordering

/-- The same probes with the same calls, each list in another order, under the
same timing. -/
structure Reordered
    (monitor other : Monitor σ) (world twinWorld : World) : Prop where
  timing : other.timing = monitor.timing
  scripts : ∀ phase,
    (other.scripts twinWorld phase).Perm (monitor.scripts world phase)

section Reordering

variable {monitor other : Monitor σ} {world twinWorld : World}

theorem Reordered.course_eq
    (hreordered : Reordered monitor other world twinWorld) :
    other.course twinWorld = monitor.course world := by
  unfold Monitor.course
  rw [hreordered.timing]
  exact Course.ofScripts_perm hreordered.scripts

theorem Reordered.neverAborts
    (hreordered : Reordered monitor other world twinWorld)
    (hnever : monitor.NeverAborts world) : other.NeverAborts twinWorld :=
  fun phase script hscript =>
    hnever phase script ((hreordered.scripts phase).mem_iff.mp hscript)

end Reordering

/-- What two runs tell before they are asked to stop is the same, but for the
probes. -/
structure SameCourse
    (monitor other : Monitor σ) (stop : Option Nat)
    (origin final twin last : State σ) (exit twinExit : Option RunExit) :
    Prop where
  /-- Phases are entered, passes begin and end and cycles are completed at the
  same instants. -/
  milestones : milestonesBefore other stop (last.since twin) =
    milestonesBefore monitor stop (final.since origin)
  /-- The one runs out of time before live if the other does. -/
  limit : ∀ phase elapsed,
    HitsLimit stop twinExit last phase elapsed ↔
      HitsLimit stop exit final phase elapsed

theorem milestones_since
    {monitor : Monitor σ} {world : World} {stop : Option Nat} {fuel : Nat}
    {origin final : State σ} {exit : Option RunExit}
    (hfresh : monitor.Fresh origin)
    (hrun : monitor.run world stop fuel origin = (.ok exit, final)) :
    milestonesBefore monitor stop (final.since origin) =
      final.milestonesBefore monitor stop := by
  obtain ⟨control, -, hjourney⟩ := run_journey hrun
  have hsilent : origin.milestonesBefore monitor stop = [] := by
    rw [State.milestonesBefore_eq, hfresh.milestones, List.filter_nil]
  rw [State.milestonesBefore_of_transcript hjourney.transcript, hsilent,
    List.nil_append]

/-- In which order the probes of a monitor stand does not decide when its run
gets where, nor whether it runs out of time. -/
theorem run_sameCourse
    {monitor other : Monitor σ} {world twinWorld : World}
    {origin final twin : State σ} {stop : Option Nat} {fuel : Nat}
    {exit : Option RunExit}
    (hreordered : Reordered monitor other world twinWorld)
    (hnever : monitor.NeverAborts world)
    (hlenient : monitor.reporter.NeverStops)
    (htwinLenient : other.reporter.NeverStops)
    (hfresh : monitor.Fresh origin) (htwin : other.Fresh twin)
    (hnow : twin.now.instant = origin.now.instant)
    (hstarted : twin.started = true)
    (hrun : monitor.run world stop fuel origin = (.ok exit, final)) :
    ∃ twinExit last,
      other.run twinWorld stop fuel twin = (.ok twinExit, last) ∧
        SameCourse monitor other stop origin final twin last exit twinExit := by
  have hleg := atLeg_undisturbed hlenient hnever hfresh fuel
  have htwinLeg := atLeg_undisturbed htwinLenient
    (hreordered.neverAborts hnever) htwin fuel
  rw [hreordered.course_eq, hnow] at htwinLeg
  have htwinRun : other.run twinWorld stop fuel twin =
      (.ok (Run.play other twinWorld stop fuel (Run.begin other twin)).exit?,
        (Run.play other twinWorld stop fuel (Run.begin other twin)).state) :=
    if_pos hstarted
  refine ⟨_, _, htwinRun, ?_⟩
  obtain ⟨control, hplayed, hexit⟩ := played_of_run hrun
  constructor
  case milestones =>
    have htold := milestonesBefore_play monitor world stop fuel origin
    rw [hplayed] at htold
    rw [milestones_since htwin htwinRun, milestones_since hfresh hrun, htold,
      milestonesBefore_play, State.milestonesBefore_eq,
      State.milestonesBefore_eq, htwinLeg.milestones_eq, hleg.milestones_eq]
  case limit =>
    intro phase elapsed
    have hhit := hitsLimit_play monitor world stop fuel origin hplayed rfl phase
      elapsed
    rw [hexit] at hhit
    rw [hhit, hitsLimit_play other twinWorld stop fuel twin rfl rfl,
      htwinLeg.hitsLimit_iff, hleg.hitsLimit_iff]

/-! ## An example -/

namespace Sample

def refusedLate (_ : Nat) : Call :=
  { takes := some 10, ending := .status (.down "slow" "refused") }

def refused (_ : Nat) : Call :=
  { takes := some 0, ending := .status (.down "quick" "refused") }

/-- A service that does not come up in 30 ms. -/
def pair : Monitor Unit where
  name := "pair"
  primaries := [{ name := "slow" }, { name := "quick" }]
  timing := { probeInterval := 10, bootstrapLimit := some 30 }
  reporter := .stateless fun _ => false

def pairWorld : World where
  call
    | .primary 0 => refusedLate
    | _ => refused

def swapped : Monitor Unit :=
  { pair with primaries := [{ name := "quick" }, { name := "slow" }] }

def swappedWorld : World where
  call
    | .primary 0 => refused
    | _ => refusedLate

def pairStart : State Unit :=
  (pair.perform pairWorld 0 (.initial pair ()) .start).2

def swappedStart : State Unit :=
  (swapped.perform swappedWorld 0 (.initial swapped ()) .start).2

theorem swapped_reordered : Reordered pair swapped pairWorld swappedWorld where
  timing := rfl
  scripts
    | .dependencyWait => .nil
    | .bootstrap | .live => .swap _ _ []

theorem pair_neverAborts : pair.NeverAborts pairWorld := by
  intro phase script hscript number abort
  cases phase with
  | dependencyWait => simp [Monitor.scripts, Monitor.probesIn, pair] at hscript
  | bootstrap | live =>
      simp only [Monitor.scripts, Monitor.probesIn, pair, List.mapIdx_cons,
        List.mapIdx_nil, List.mem_cons, List.not_mem_nil, or_false] at hscript
      rcases hscript with rfl | rfl
      · simp [pairWorld, refusedLate, Phase.place]
      · simp [pairWorld, refused, Phase.place]

theorem pair_neverStops : pair.reporter.NeverStops :=
  fun _ _ _ => rfl

theorem pair_fresh : pair.Fresh pairStart :=
  .performed (.built rfl) pairWorld 0 rfl

theorem swapped_fresh : swapped.Fresh swappedStart :=
  .performed (.built rfl) swappedWorld 0 rfl

def pairEnd : State Unit :=
  (pair.run pairWorld (some 31) 10 pairStart).2

/-- The time is up after the second pass, and the first probe is blamed. -/
def pairExit : RunExit :=
  .bootstrapTimedOut .bootstrap "slow" 30
    (some ((Status.down "slow" "refused").inPhase .bootstrap))

theorem pair_run_eq :
    pair.run pairWorld (some 31) 10 pairStart =
      (.ok (some pairExit), pairEnd) := rfl

theorem pair_hitsLimit :
    HitsLimit (some 31) (some pairExit) pairEnd .bootstrap 30 :=
  ⟨rfl, _, _, rfl⟩

end Sample

/-- Whichever probe stands first, the time is up after 30 ms. -/
theorem run_sameCourse_sample :
    ∃ exit last,
      Sample.swapped.run Sample.swappedWorld (some 31) 10
          Sample.swappedStart = (.ok exit, last) ∧
        SameCourse Sample.pair Sample.swapped (some 31) Sample.pairStart
          Sample.pairEnd Sample.swappedStart last (some Sample.pairExit) exit ∧
        HitsLimit (some 31) exit last .bootstrap 30 := by
  obtain ⟨exit, last, hrun, hsame⟩ :=
    run_sameCourse Sample.swapped_reordered Sample.pair_neverAborts
      Sample.pair_neverStops Sample.pair_neverStops Sample.pair_fresh
      Sample.swapped_fresh rfl rfl Sample.pair_run_eq
  exact ⟨exit, last, hrun, hsame,
    (hsame.limit .bootstrap 30).mpr Sample.pair_hitsLimit⟩

-- At the instant of the stop itself the order does show: a run may still take
-- in one answer, and only the last of a pass brings it further.
example :
    (Sample.pair.run Sample.pairWorld (some 30) 10 Sample.pairStart).1 =
        .ok (some .shutdown) ∧
      (Sample.swapped.run Sample.swappedWorld (some 30) 10
          Sample.swappedStart).1 =
        .ok (some (.bootstrapTimedOut .bootstrap "quick" 30
          (some ((Status.down "quick" "refused").inPhase .bootstrap)))) :=
  ⟨rfl, rfl⟩

end HealthMonitor
