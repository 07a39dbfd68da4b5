import HealthMonitor.Proofs.Laps
import HealthMonitor.Proofs.Shutdown

/-!
# Runs keep to their course

A run that nobody stops, whose reporter lets it go on and whose calls never
abort it, passes the milestones of its course: after as many steps it is at the
same stage with the same log.  Each step is taken apart as the schedule takes
it, down to the probe whose ping is answered.  The main statement is
`atLeg_undisturbed`.
-/

namespace HealthMonitor

variable {σ : Type}

/-! ## What a run has to keep to its course -/

/-- The reporter lets a run go on, whatever it is asked. -/
def Reporter.NeverStops (reporter : Reporter σ) : Prop :=
  ∀ state callback, callback.isAsked = true →
    (reporter.react state callback).1 = .proceed

theorem Reporter.NeverStops.verdict_eq
    {monitor : Monitor σ} (hlenient : monitor.reporter.NeverStops)
    (state : State σ) {callback : Callback} (hasked : callback.isAsked = true) :
    state.verdict monitor callback = .proceed :=
  hlenient _ _ hasked

/-- Where the probes before `index` bring a lap. -/
def Monitor.legAt
    (monitor : Monitor σ) (world : World) (log : List (Nat × Milestone))
    (lap : Lap)
    (finish : List (Nat × Milestone) → Lap → Nat → Bool → Leg) (index : Nat) :
    Leg :=
  (monitor.course world).goOn log lap finish index
    (lap.start + monitor.spanUpTo world lap index)
    (monitor.clearUpTo world lap index)

/-- Nothing was in the way so far in a pass. -/
def Pass.isClear : Pass → Bool
  | dependencies _ blocker => blocker.isNone
  | bootstrap _ blocker _ => blocker.isNone
  | live _ clean => clean

/-- A run is where a leg of its course says. -/
inductive AtLeg (monitor : Monitor σ) (world : World) : Leg → Run σ → Prop
  | pinging {log : List (Nat × Milestone)} {lap : Lap} {state : State σ}
      (pass : Pass)
      (hlap : InLap monitor world log lap pass.index state)
      (hphase : pass.phase = lap.phase)
      (hrange : pass.index < monitor.countIn lap.phase)
      (hclear : pass.isClear = monitor.clearUpTo world lap pass.index) :
      AtLeg monitor world ⟨log, .pinging lap pass.index⟩ ⟨state, .ping pass⟩
  | pausing {log : List (Nat × Milestone)} {lap : Lap} {state : State σ}
      (hlap : InLap monitor world log lap 0 state) :
      AtLeg monitor world ⟨log, .pausing lap⟩ ⟨state, .pause⟩
  | ended {log : List (Nat × Milestone)} {phase : Phase} {elapsed : Nat}
      {probe : String} {last : Option Status} {state : State σ}
      (hlog : state.milestones monitor = log) :
      AtLeg monitor world ⟨log, .ended phase elapsed state.now.instant⟩
        ⟨state, .ended (.bootstrapTimedOut phase probe elapsed last)⟩

/-! ## On to the next wait -/

section Leading

variable {monitor : Monitor σ} {world : World} {state : State σ}
  {log : List (Nat × Milestone)} {lap : Lap} {index : Nat}

theorem isNone_eq_clearUpTo :
    (none : Option Nat).isNone = monitor.clearUpTo world lap 0 :=
  clearUpTo_zero.symm

section Legs

variable (finish : List (Nat × Milestone) → Lap → Nat → Bool → Leg)

theorem legAt_zero :
    monitor.legAt world log lap finish 0 =
      (monitor.course world).goOn log lap finish 0 lap.start true := by
  rw [Monitor.legAt, spanUpTo_zero, clearUpTo_zero, Nat.add_zero]

theorem legAt_of_lt (hrange : index < monitor.countIn lap.phase) :
    monitor.legAt world log lap finish index = ⟨log, .pinging lap index⟩ := by
  rw [Monitor.legAt, Course.goOn, count_course, if_pos hrange]

theorem InLap.legAt_of_full
    (hlap : InLap monitor world log lap (monitor.countIn lap.phase) state) :
    monitor.legAt world log lap finish (monitor.countIn lap.phase) =
      finish log lap state.now.instant
        (monitor.clearUpTo world lap (monitor.countIn lap.phase)) := by
  rw [Monitor.legAt, Course.goOn, count_course, if_neg (Nat.lt_irrefl _),
    ← hlap.now]

/-- Only at the end of a lap it matters how long it took and whether it was
clear. -/
theorem legAt_of_le (hle : index ≤ monitor.countIn lap.phase) :
    monitor.legAt world log lap finish index =
      (monitor.course world).goOn log lap finish index
        (lap.start + (monitor.course world).span lap.phase lap.number)
        ((monitor.course world).clear lap.phase lap.number) := by
  rcases Nat.lt_or_eq_of_le hle with hrange | rfl
  · rw [legAt_of_lt finish hrange, Course.goOn, count_course, if_pos hrange]
  · rw [Monitor.legAt, spanUpTo_count, clearUpTo_count]

end Legs

theorem atLeg_blocked
    (hlap : InLap monitor world log lap (monitor.countIn lap.phase) state)
    (hearly : lap.phase ≠ .live) (blocker : Position) :
    AtLeg monitor world
      ((monitor.course world).blocked log lap state.now.instant)
      (Run.blocked monitor state blocker) := by
  have hlimit : (monitor.course world).limit = monitor.timing.bootstrapLimit :=
    rfl
  unfold Run.blocked Course.blocked
  rw [hlimit]
  cases monitor.timing.bootstrapLimit with
  | none => exact .pausing hlap.next
  | some limit =>
      simp only [hlap.entered, hlap.phase]
      by_cases hspan : state.now.instant - lap.entered < limit
      · rw [if_pos hspan, if_pos hspan]
        exact .pausing hlap.next
      · rw [if_neg hspan, if_neg hspan]
        have hlog (last : Option Status) :
            (state.tell monitor (.timedOut lap.phase
                (monitor.probeName blocker) last state.now.instant)).milestones
              monitor = log ++ [(state.now.instant, .limit lap.phase)] := by
          rw [State.milestones_tell, hlap.log]
          simp [Entry.milestones, hearly]
        exact .ended (hlog _)

theorem atLeg_endLive
    (hlenient : monitor.reporter.NeverStops)
    (hlap : InLap monitor world log lap (monitor.countIn lap.phase) state)
    (clean : Bool) :
    AtLeg monitor world (Course.endLive log lap state.now.instant clean)
      (Run.endLive monitor state clean) := by
  have hmarked := hlap.mark clean
  have hproceed : State.verdict { state with cleanBefore := clean } monitor
      .cycle = .proceed :=
    hlenient _ _ rfl
  unfold Run.endLive Course.endLive
  simp only [hlap.cleanBefore]
  by_cases hcompleted : (clean && lap.cleanBefore) = true
  · simp only [if_pos hcompleted, State.ask_eq, hproceed, Verdict.stops,
      Bool.false_eq_true, if_false]
    have htold : InLap monitor world (log ++ [(state.now.instant, .cycle)])
        { lap with cleanBefore := clean } (monitor.countIn lap.phase)
        (State.tell { state with cleanBefore := clean } monitor .cycle) := by
      refine hmarked.congr ?_ rfl rfl rfl rfl rfl (State.slot?_congr rfl rfl)
      rw [State.milestones_tell, hmarked.log]
      rfl
    exact .pausing htold.next
  · simp only [if_neg hcompleted]
    exact .pausing hmarked.next

theorem atLeg_goOnLive
    (hlenient : monitor.reporter.NeverStops)
    (hlap : InLap monitor world log lap index state)
    (hphase : lap.phase = .live) (hle : index ≤ monitor.countIn lap.phase)
    {clean : Bool} (hclear : clean = monitor.clearUpTo world lap index) :
    AtLeg monitor world (monitor.legAt world log lap Course.endLive index)
      (Run.goOnLive monitor state index clean) := by
  have hcount : monitor.primaries.length = monitor.countIn lap.phase := by
    rw [hphase]
    rfl
  unfold Run.goOnLive
  rw [hcount]
  rcases Nat.lt_or_eq_of_le hle with hrange | rfl
  · rw [if_pos hrange, legAt_of_lt _ hrange]
    exact .pinging (.live index clean) hlap hphase.symm hrange hclear
  · rw [if_neg (Nat.lt_irrefl _), hlap.legAt_of_full, ← hclear]
    exact atLeg_endLive hlenient hlap clean

theorem atLeg_enterLive
    (hlenient : monitor.reporter.NeverStops)
    (hlap : InLap monitor world log lap (monitor.countIn lap.phase) state)
    (hphase : lap.phase = .bootstrap) :
    AtLeg monitor world
      ((monitor.course world).enter log Course.endLive .live (lap.number + 1)
        state.now.instant lap.cleanBefore)
      (Run.enterLive monitor state) := by
  have hcalled : state.HasCalled monitor world .live fun _ =>
      lap.number + 1 := by
    intro place script hscript
    have hnext := hlap.next.called
    rw [hphase] at hnext
    obtain ⟨slot, hslot, hcalls, -⟩ := hnext place script hscript
    exact ⟨slot, hslot, hcalls, nofun⟩
  have hentered := hlap.enter .live hcalled nofun
  have hgone := atLeg_goOnLive hlenient hentered rfl (Nat.zero_le _)
    clearUpTo_zero.symm
  rw [legAt_zero] at hgone
  exact hgone

theorem atLeg_goOnBootstrap
    (hlenient : monitor.reporter.NeverStops)
    (hlap : InLap monitor world log lap index state)
    (hphase : lap.phase = .bootstrap) (hle : index ≤ monitor.countIn lap.phase)
    {blocker : Option Nat} (seen : List Status)
    (hclear : blocker.isNone = monitor.clearUpTo world lap index) :
    AtLeg monitor world
      (monitor.legAt world log lap (monitor.course world).endBootstrap index)
      (Run.goOnBootstrap monitor state index blocker seen) := by
  have hcount : monitor.primaries.length = monitor.countIn lap.phase := by
    rw [hphase]
    rfl
  unfold Run.goOnBootstrap
  rw [hcount]
  rcases Nat.lt_or_eq_of_le hle with hrange | rfl
  · rw [if_pos hrange, legAt_of_lt _ hrange]
    exact .pinging (.bootstrap index blocker seen) hlap hphase.symm hrange
      hclear
  · rw [if_neg (Nat.lt_irrefl _), hlap.legAt_of_full, ← hclear]
    cases blocker with
    | some blocker =>
        have hearly : lap.phase ≠ .live := by
          rw [hphase]
          exact nofun
        exact atLeg_blocked hlap hearly (.primary blocker)
    | none =>
        have hended := hlap.foldl
          (fun state position => state.note (.endedBootstrap position))
          (fun _ _ hkept => hkept.note _ rfl)
          monitor.primaryPositions
        have htold := hended.foldl
          (fun state status => state.tell monitor (.booted status))
          (fun _ _ hkept => hkept.tell _ fun _ _ => rfl) seen
        have hgone := atLeg_enterLive hlenient htold hphase
        rw [htold.now, ← hlap.now] at hgone
        exact hgone

theorem atLeg_enterBootstrap
    (hlenient : monitor.reporter.NeverStops)
    (hlap : InLap monitor world log lap index state)
    (hcalled : state.HasCalled monitor world .bootstrap fun _ => 0) :
    AtLeg monitor world
      ((monitor.course world).enter log (monitor.course world).endBootstrap
        .bootstrap 0 state.now.instant lap.cleanBefore)
      (Run.enterBootstrap monitor state) := by
  have hentered := hlap.enter .bootstrap hcalled nofun
  have hbegan := hentered.foldl
    (fun state position => state.note (.beganBootstrap position))
    (fun _ _ hkept => hkept.note _ rfl) monitor.primaryPositions
  have hgone := atLeg_goOnBootstrap hlenient hbegan rfl (Nat.zero_le _) []
    isNone_eq_clearUpTo
  rw [legAt_zero] at hgone
  exact hgone

theorem atLeg_goOnDependencies
    (hlenient : monitor.reporter.NeverStops)
    (hlap : InLap monitor world log lap index state)
    (hphase : lap.phase = .dependencyWait)
    (hle : index ≤ monitor.countIn lap.phase) {blocker : Option Nat}
    (hclear : blocker.isNone = monitor.clearUpTo world lap index) :
    AtLeg monitor world
      (monitor.legAt world log lap (monitor.course world).endWait index)
      (Run.goOnDependencies monitor state index blocker) := by
  have hcount : monitor.dependencies.length = monitor.countIn lap.phase := by
    rw [hphase]
    rfl
  unfold Run.goOnDependencies
  rw [hcount]
  rcases Nat.lt_or_eq_of_le hle with hrange | rfl
  · rw [if_pos hrange, legAt_of_lt _ hrange]
    exact .pinging (.dependencies index blocker) hlap hphase.symm hrange hclear
  · rw [if_neg (Nat.lt_irrefl _), hlap.legAt_of_full, ← hclear]
    cases blocker with
    | some blocker =>
        have hearly : lap.phase ≠ .live := by
          rw [hphase]
          exact nofun
        exact atLeg_blocked hlap hearly (.dependency blocker)
    | none => exact atLeg_enterBootstrap hlenient hlap (hlap.uncalled hphase)

theorem atLeg_resume
    (hlenient : monitor.reporter.NeverStops)
    (hlap : InLap monitor world log lap 0 state) :
    AtLeg monitor world
      ((monitor.course world).goOn log lap (monitor.course world).endLap 0
        lap.start true)
      (Run.resume monitor state) := by
  rw [← legAt_zero]
  unfold Run.resume Monitor.legAt
  rw [hlap.phase]
  cases hphase : lap.phase with
  | dependencyWait =>
      rw [Course.goOn_endWait hphase]
      exact atLeg_goOnDependencies hlenient hlap hphase (Nat.zero_le _)
        isNone_eq_clearUpTo
  | bootstrap =>
      rw [Course.goOn_endBootstrap hphase]
      exact atLeg_goOnBootstrap hlenient hlap hphase (Nat.zero_le _) []
        isNone_eq_clearUpTo
  | live =>
      rw [Course.goOn_endLive hphase]
      exact atLeg_goOnLive hlenient hlap hphase (Nat.zero_le _)
        clearUpTo_zero.symm

end Leading

/-! ## Beginnings -/

section Beginning

variable {monitor : Monitor σ} {world : World} {origin : State σ}

theorem atLeg_begin
    (hlenient : monitor.reporter.NeverStops) (hfresh : monitor.Fresh origin) :
    AtLeg monitor world ((monitor.course world).start origin.now.instant)
      (Run.begin monitor origin) := by
  have hbefore : InLap monitor world [] _ 0 origin := hfresh.inLap
  unfold Run.begin Course.start
  rw [count_course]
  by_cases hempty : monitor.dependencies = []
  · have hnone : monitor.countIn .dependencyWait = 0 := by
      simp [Monitor.countIn, hempty]
    rw [if_pos hnone, if_pos (List.isEmpty_iff.mpr hempty)]
    exact atLeg_enterBootstrap hlenient hbefore (hfresh.hasCalled .bootstrap)
  · have hsome : monitor.countIn .dependencyWait ≠ 0 := by
      simpa [Monitor.countIn] using hempty
    rw [if_neg hsome, if_neg fun hnone => hempty (List.isEmpty_iff.mp hnone)]
    have hentered := hbefore.enter .dependencyWait
      (hfresh.hasCalled .dependencyWait) fun _ => hfresh.hasCalled .bootstrap
    have hgone := atLeg_goOnDependencies hlenient hentered rfl (Nat.zero_le _)
      isNone_eq_clearUpTo
    rw [legAt_zero] at hgone
    exact hgone

end Beginning

/-! ## Answers -/

theorem isNone_hold (ready : Bool) (blocker : Option Nat) (index : Nat) :
    (if ready then blocker else blocker.or (some index)).isNone =
      (blocker.isNone && ready) := by
  cases ready with
  | true => simp
  | false => cases blocker <;> rfl

section Answers

variable {monitor : Monitor σ} {world : World} {state : State σ}
  {log : List (Nat × Milestone)} {lap : Lap} {pass : Pass} {probe : Probe}

variable (hlenient : monitor.reporter.NeverStops)
  (hlap : InLap monitor world log lap pass.index state)
  (hphase : pass.phase = lap.phase)
  (hprobe : monitor.probe? pass.position = some probe)
  (hrange : pass.index < monitor.countIn lap.phase)
  (hclear : pass.isClear = monitor.clearUpTo world lap pass.index)
  (hnever : ∀ abort,
    (Run.watchOf world state pass probe).outcome ≠ .aborted abort)

include hlenient hlap hphase hprobe hrange hclear hnever

theorem atLeg_answerDependencies
    {index : Nat} {blocker : Option Nat}
    (hpass : pass = .dependencies index blocker) :
    AtLeg monitor world
      (monitor.legAt world
        (log ++ (monitor.course world).marks lap pass.index) lap
        (monitor.course world).endLap (pass.index + 1))
      (Run.answer monitor (Run.afterAnswer world state pass probe) pass probe
        (Run.callOf world state pass).safeMode
        (Run.watchOf world state pass probe).outcome) := by
  have hwait : lap.phase = .dependencyWait := by
    rw [← hphase, hpass]
    rfl
  have hscript := Pass.scripts_getElem? world hphase hprobe
  have hnext := clearUpTo_succ hscript
  have houtcome := hlap.outcome hphase hprobe
  have hcall := hlap.callOf hphase hprobe
  obtain ⟨slot, hslot, -, hleft⟩ := hlap.called _ _ hscript
  replace hleft := hleft hwait
  simp only [Nat.lt_irrefl, if_false] at hleft
  -- Whether the dependency lets the run go on is decided before its answer is
  -- remembered.
  have hslotAfter :
      (Run.afterAnswer world state pass probe).slot? pass.position =
        some { slot with calls := slot.calls + 1 } := by
    rw [← hphase, ← pass.position_eq] at hslot
    rw [(recorded_afterAnswer world state pass probe).slot?, hslot]
    exact if_pos rfl
  rw [Monitor.legAt, Course.goOn_endWait hwait]
  cases hcame : (Run.watchOf world state pass probe).outcome with
  | aborted abort => exact absurd hcame (hnever abort)
  | timedOut =>
      rw [hcame] at houtcome
      have hlate := Script.succeeds_of_timedOut houtcome.symm
      have hanswered := hlap.afterAnswer hphase hprobe fun _ => by
        simp [Script.frees, hlate]
      subst hpass
      apply atLeg_goOnDependencies hlenient hanswered hwait hrange
      rw [hnext, ← hclear]
      simp [Script.clears, hlate]
  | completed status =>
      rw [hcame] at houtcome
      subst hpass
      have hlearned := hlap.learnDependency hphase hprobe rfl houtcome.symm
      have hready := Script.satisfied_eq_clears houtcome.symm hleft state.phase
      rw [hcall]
      apply atLeg_goOnDependencies hlenient hlearned hwait hrange
      rw [hnext, ← hclear, isNone_hold, hwait, ← hready]
      simp only [Pass.position] at hslotAfter
      rw [hslotAfter]
      rfl

theorem atLeg_answerBootstrap
    {index : Nat} {blocker : Option Nat} {seen : List Status}
    (hpass : pass = .bootstrap index blocker seen) :
    AtLeg monitor world
      (monitor.legAt world
        (log ++ (monitor.course world).marks lap pass.index) lap
        (monitor.course world).endLap (pass.index + 1))
      (Run.answer monitor (Run.afterAnswer world state pass probe) pass probe
        (Run.callOf world state pass).safeMode
        (Run.watchOf world state pass probe).outcome) := by
  have hboot : lap.phase = .bootstrap := by
    rw [← hphase, hpass]
    rfl
  have hnext := clearUpTo_succ
    (Pass.scripts_getElem? world hphase hprobe)
  have houtcome := hlap.outcome hphase hprobe
  have hanswered := hlap.afterAnswer hphase hprobe fun hwait =>
    nomatch hwait.symm.trans hboot
  rw [Monitor.legAt, Course.goOn_endBootstrap hboot]
  cases hcame : (Run.watchOf world state pass probe).outcome with
  | aborted abort => exact absurd hcame (hnever abort)
  | timedOut =>
      rw [hcame] at houtcome
      have hlate := Script.succeeds_of_timedOut houtcome.symm
      subst hpass
      apply atLeg_goOnBootstrap hlenient hanswered hboot hrange
      rw [hnext, ← hclear]
      simp [Script.clears, hlate]
  | completed status =>
      rw [hcame] at houtcome
      have hsuccess := Script.succeeds_of_completed houtcome.symm
      subst hpass
      apply atLeg_goOnBootstrap hlenient (hanswered.learn index _) hboot hrange
      rw [hnext, ← hclear, isNone_hold, hboot]
      simp [Script.clears, hsuccess, Pass.isClear]

theorem atLeg_answerLive
    {index : Nat} {clean : Bool} (hpass : pass = .live index clean) :
    AtLeg monitor world
      (monitor.legAt world
        (log ++ (monitor.course world).marks lap pass.index) lap
        (monitor.course world).endLap (pass.index + 1))
      (Run.answer monitor (Run.afterAnswer world state pass probe) pass probe
        (Run.callOf world state pass).safeMode
        (Run.watchOf world state pass probe).outcome) := by
  have hlive : lap.phase = .live := by
    rw [← hphase, hpass]
    rfl
  have hnext := clearUpTo_succ
    (Pass.scripts_getElem? world hphase hprobe)
  have houtcome := hlap.outcome hphase hprobe
  have hanswered := hlap.afterAnswer hphase hprobe fun hwait =>
    nomatch hwait.symm.trans hlive
  have hafter : (Run.afterAnswer world state pass probe).phase = .live :=
    hanswered.phase.trans hlive
  rw [Monitor.legAt, Course.goOn_endLive hlive]
  cases hcame : (Run.watchOf world state pass probe).outcome with
  | aborted abort => exact absurd hcame (hnever abort)
  | timedOut =>
      rw [hcame] at houtcome
      have hlate := Script.succeeds_of_timedOut houtcome.symm
      subst hpass
      have hplain (last : Option Status) (now : Nat) :
          Callback.IsPlain monitor (.timedOut
            (Run.afterAnswer world state (.live index clean) probe).phase
            probe.name last now) :=
        fun _ _ => if_pos hafter
      have hproceed (last : Option Status) (now : Nat) :
          (Run.afterAnswer world state (.live index clean) probe).verdict
            monitor (.timedOut
              (Run.afterAnswer world state (.live index clean) probe).phase
              probe.name last now) = .proceed :=
        hlenient.verdict_eq _ rfl
      simp only [Run.answer, Run.answerLive, State.ask_eq, hproceed,
        Verdict.stops, Bool.false_eq_true, if_false]
      apply atLeg_goOnLive hlenient
        (hanswered.tell _ (hplain _ _)).heartbeat hlive hrange
      rw [hnext, ← hclear]
      simp [Script.clears, hlate]
  | completed status =>
      rw [hcame] at houtcome
      have hsuccess := Script.succeeds_of_completed houtcome.symm
      subst hpass
      have htold := hanswered.takeResult index (status.inPhase .live)
      have hproceed (told : State σ) :
          told.verdict monitor (.failure (status.inPhase .live)) = .proceed :=
        hlenient.verdict_eq _ rfl
      simp only [Run.answer, Run.answerLive_completed hafter, State.ask_eq,
        hproceed, Verdict.stops, Bool.false_eq_true, if_false]
      by_cases hup : status.success = true
      · rw [if_pos hup]
        apply atLeg_goOnLive hlenient htold.heartbeat hlive hrange
        rw [hnext, ← hclear, hlive]
        simp [Script.clears, hsuccess, hup, Pass.isClear]
      · rw [if_neg hup]
        have hfailed := htold.tell (.failure (status.inPhase .live))
          fun _ _ => rfl
        apply atLeg_goOnLive hlenient hfailed.heartbeat hlive hrange
        rw [hnext, ← hclear]
        simp [Script.clears, hsuccess, hup]

end Answers

/-! ## Steps -/

def Script.NeverAborts (script : Script) : Prop :=
  ∀ number abort, (script.call number).ending ≠ .abort abort

def Monitor.NeverAborts (monitor : Monitor σ) (world : World) : Prop :=
  ∀ phase, ∀ script ∈ monitor.scripts world phase, script.NeverAborts

section Stepping

variable {monitor : Monitor σ} {world : World} {origin : State σ}
  {run : Run σ} {leg : Leg}

theorem Script.NeverAborts.outcome_ne
    {script : Script} (hnever : script.NeverAborts)
    (timeout number : Nat) (abort : Abort) :
    script.outcome timeout number ≠ .aborted abort := by
  have hending := hnever number abort
  unfold Script.outcome Call.answer
  split
  next wait _ =>
    by_cases hwait : wait < timeout
    · rw [if_pos hwait]
      cases hfound : (script.call number).ending with
      | status found => exact nofun
      | abort request =>
          rintro ⟨rfl⟩
          exact hending hfound
      | panic text => exact nofun
    · rw [if_neg hwait]
      exact nofun
  next => exact nofun

theorem atLeg_step
    (hlenient : monitor.reporter.NeverStops) (hnever : monitor.NeverAborts world)
    (hleg : AtLeg monitor world leg run) :
    AtLeg monitor world ((monitor.course world).step leg)
      (Run.step monitor world none run) := by
  cases hleg with
  | @pinging log lap state pass hlap hphase hrange hclear =>
      obtain ⟨probe, hprobe⟩ := Monitor.exists_probe_of_lt lap.phase hrange
      rw [← hphase, ← pass.position_eq] at hprobe
      have hscript := Pass.scripts_getElem? world hphase hprobe
      have hending (abort : Abort) :
          (Run.watchOf world state pass probe).outcome ≠ .aborted abort := by
        rw [hlap.outcome hphase hprobe]
        exact (hnever _ _ (List.mem_of_getElem? hscript)).outcome_ne _ _ _
      have hleg :
          (monitor.course world).step ⟨log, .pinging lap pass.index⟩ =
            monitor.legAt world
              (log ++ (monitor.course world).marks lap pass.index) lap
              (monitor.course world).endLap (pass.index + 1) :=
        (legAt_of_le _ (Nat.succ_le_of_lt hrange)).symm
      simp only [Run.step, hprobe, Run.stepPing_eq, Run.stoppedBefore_none,
        hleg]
      cases hpass : pass with
      | dependencies index blocker =>
          subst hpass
          exact atLeg_answerDependencies hlenient hlap hphase hprobe hrange
            hclear hending rfl
      | bootstrap index blocker seen =>
          subst hpass
          exact atLeg_answerBootstrap hlenient hlap hphase hprobe hrange hclear
            hending rfl
      | live index clean =>
          subst hpass
          exact atLeg_answerLive hlenient hlap hphase hprobe hrange hclear hending
            rfl
  | @pausing log lap state hlap =>
      have hstart : lap.start = state.now.instant := by
        rw [hlap.now, spanUpTo_zero, Nat.add_zero]
      have hwoken := hlap.wait (Run.wake monitor state)
      have hwake : (Run.wake monitor state).instant =
          lap.start + (monitor.course world).interval := by
        rw [hstart]
        exact Moment.instant_timer _ _
      rw [hwake] at hwoken
      exact atLeg_resume hlenient hwoken
  | ended hlog => exact .ended hlog

/-- A run that nobody stops is at the leg of its course. -/
theorem atLeg_undisturbed
    (hlenient : monitor.reporter.NeverStops) (hnever : monitor.NeverAborts world)
    (hfresh : monitor.Fresh origin) (steps : Nat) :
    AtLeg monitor world
      ((monitor.course world).after origin.now.instant steps)
      (monitor.undisturbed world origin steps) := by
  induction steps with
  | zero => exact atLeg_begin hlenient hfresh
  | succ steps ih =>
      rw [undisturbed_succ]
      exact atLeg_step hlenient hnever ih

end Stepping

end HealthMonitor
