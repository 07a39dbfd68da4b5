import HealthMonitor.Proofs.Answers

/-!
# Every run keeps a chronicle

A step is one ping or one pause, and a shutdown may come in either.  Each step
keeps the account of a run, and so does a run of any length.  The main
statement is `run_log`: whatever the probes, the reporter and the shutdown do,
the entries of a run follow the grammar.
-/

namespace HealthMonitor

variable {σ : Type}

section Steps

variable {monitor : Monitor σ} {world : World} {origin state : State σ}
  {entries : List Entry}

theorem accounted_shutDown
    (hcontinues : Continues monitor world origin state entries)
    (hclosed : state.closed = origin.closed)
    (hend : ∀ tail, IsFarewell origin tail →
      RunLog monitor world origin (some .shutdown) (entries ++ tail)) :
    Accounted monitor world origin (Run.shutDown monitor state) := by
  unfold Run.shutDown State.close
  split
  next halready =>
    have hfarewell : IsFarewell origin [] := by
      rw [IsFarewell, if_pos (hclosed.symm.trans halready)]
    have hlog := hend [] hfarewell
    rw [List.append_nil] at hlog
    exact ⟨entries, .ended hcontinues hlog⟩
  next hopen =>
    have hopenOrigin : ¬origin.closed = true := by
      rw [← hclosed]
      exact hopen
    have hmarked :
        Continues monitor world origin { state with closed := true } entries :=
      hcontinues.congr rfl (State.slot?_congr rfl rfl) rfl
    have hfarewell : IsFarewell origin
        [.told state.now.instant .unregister
          (State.verdict { state with closed := true } monitor
            .unregister)] := by
      rw [IsFarewell, if_neg hopenOrigin]
      exact ⟨_, _, rfl⟩
    exact ⟨_, .ended (hmarked.tell .unregister) (hend _ hfarewell)⟩

theorem accounted_stepPause
    (stop : Option Nat) {pass : Pass}
    (hcontinues : Continues monitor world origin state entries)
    (hclosed : state.closed = origin.closed)
    (hstanding : Standing monitor world origin state pass entries)
    (hfirst : pass = Pass.first state.phase) :
    Accounted monitor world origin (Run.stepPause monitor stop state) := by
  unfold Run.stepPause
  simp only
  split
  next moment hstopped =>
    apply accounted_shutDown (hcontinues.moveTo moment) hclosed
    intro tail htail
    exact hstanding.interrupted (.shutDown htail)
  next hwoken =>
    exact accounted_resume (hcontinues.moveTo _) hclosed
      (hstanding.congr rfl rfl) hfirst

theorem accounted_stepPing
    (stop : Option Nat) {pass : Pass}
    (hcontinues : Continues monitor world origin state entries)
    (hclosed : state.closed = origin.closed)
    (hstanding : Standing monitor world origin state pass entries)
    {probe : Probe} (hprobe : monitor.probe? pass.position = some probe) :
    Accounted monitor world origin
      (Run.stepPing monitor world stop state pass probe) := by
  unfold Run.stepPing
  have hnumber : ∀ slot, state.slot? pass.position = some slot →
      ((state.slot? pass.position).map (·.calls)).getD 0 = slot.calls := by
    intro slot hslot
    rw [hslot]
    rfl
  generalize ((state.slot? pass.position).map (·.calls)).getD 0 = number
    at hnumber ⊢
  have hrace := Watchdog.fst_ping state.watchdog state.now probe
    (world.call pass.position number)
  have htimeout := Watchdog.timeout_snd_ping state.watchdog state.now probe
    (world.call pass.position number)
  simp only
  generalize state.watchdog.ping state.now probe
    (world.call pass.position number) = watched at hrace htimeout ⊢
  obtain ⟨watch, watchdog⟩ := watched
  simp only at hrace htimeout ⊢
  split
  next moment hstopped =>
    split
    next hsame =>
      apply accounted_shutDown (hcontinues.moveTo moment) hclosed
      intro tail htail
      exact hstanding.interrupted (.shutDown htail)
    next hlater =>
      have hrecorded : Recorded state
          (Run.cutPing state pass number (world.call pass.position number)
            moment.instant) _ :=
        recorded_recordPing hnumber
      have hfaithful : Ping.Faithful monitor world origin.watchdog.timeout
          (Run.cutPing state pass number (world.call pass.position number)
            moment.instant) :=
        ⟨probe, hprobe, fun outcome houtcome => nomatch houtcome⟩
      have hcut := hcontinues.recorded hrecorded hfaithful rfl
      apply accounted_shutDown (hcut.moveTo moment)
        (hrecorded.closed.trans hclosed)
      intro tail htail
      rw [List.append_assoc]
      exact hstanding.interrupted (.cutShort rfl rfl rfl htail)
  next hanswered =>
    have hwritten : Recorded state (Run.pingOf state pass number watch) _ :=
      recorded_recordPing hnumber
    have hrecorded := hwritten.later watch.answered htimeout
    have houtcome :
        watch.outcome =
          (world.call pass.position number).answer origin.watchdog.timeout
            probe := by
      rw [hrace, Watchdog.outcome_race, hcontinues.timeout]
    have hfaithful : Ping.Faithful monitor world origin.watchdog.timeout
        (Run.pingOf state pass number watch) := by
      refine ⟨probe, hprobe, ?_⟩
      intro outcome heq
      exact (Option.some.inj heq).symm.trans houtcome
    exact accounted_answer hcontinues hclosed hstanding hrecorded hfaithful
      rfl rfl rfl hprobe

end Steps

section Runs

variable {monitor : Monitor σ} {world : World} {origin : State σ}

theorem accounted_step
    (stop : Option Nat) {run : Run σ}
    (hrun : Accounted monitor world origin run) :
    Accounted monitor world origin (Run.step monitor world stop run) := by
  obtain ⟨entries, haccounts⟩ := hrun
  cases haccounts with
  | ping hcontinues hclosed hstanding hprobe =>
      obtain ⟨probe, hprobe⟩ := hprobe
      simp only [Run.step, hprobe]
      exact accounted_stepPing stop hcontinues hclosed hstanding hprobe
  | pause hcontinues hclosed hstanding hfirst =>
      exact accounted_stepPause stop hcontinues hclosed hstanding hfirst
  | ended hcontinues hlog => exact ⟨entries, .ended hcontinues hlog⟩

theorem accounted_play
    (stop : Option Nat) (fuel : Nat) {run : Run σ}
    (hrun : Accounted monitor world origin run) :
    Accounted monitor world origin (Run.play monitor world stop fuel run) := by
  induction fuel generalizing run with
  | zero => exact hrun
  | succ fuel ih =>
      rw [Run.play_succ]
      exact ih (accounted_step stop hrun)

/-- A run that was not refused is its steps played. -/
theorem played_of_run
    {stop : Option Nat} {fuel : Nat} {exit : Option RunExit} {final : State σ}
    (hrun : monitor.run world stop fuel origin = (.ok exit, final)) :
    ∃ control,
      Run.play monitor world stop fuel (Run.begin monitor origin) =
          ⟨final, control⟩ ∧
        Run.exit? ⟨final, control⟩ = exit := by
  unfold Monitor.run at hrun
  split at hrun
  next hstarted =>
    obtain ⟨hexit, rfl⟩ := Prod.mk.inj hrun
    exact ⟨_, rfl, Except.ok.inj hexit⟩
  next hidle => exact nomatch hrun

/-- Where a run stands is accounted for by what it has written. -/
theorem run_accounts
    {stop : Option Nat} {fuel : Nat} {exit : Option RunExit} {final : State σ}
    (hrun : monitor.run world stop fuel origin = (.ok exit, final)) :
    ∃ control,
      Run.play monitor world stop fuel (Run.begin monitor origin) =
          ⟨final, control⟩ ∧
        Run.exit? ⟨final, control⟩ = exit ∧
          Accounts monitor world origin ⟨final, control⟩
            (final.since origin) := by
  obtain ⟨control, hplayed, hexit⟩ := played_of_run hrun
  obtain ⟨entries, haccounts⟩ :=
    accounted_play stop fuel
      (accounted_begin :
        Accounted monitor world origin (Run.begin monitor origin))
  rw [hplayed] at haccounts
  refine ⟨control, hplayed, hexit, ?_⟩
  rw [State.since_eq haccounts.continues.transcript]
  exact haccounts

/-- The entries of a run, whatever it met with, follow the grammar. -/
theorem run_log
    {stop : Option Nat} {fuel : Nat} {exit : Option RunExit} {final : State σ}
    (hrun : monitor.run world stop fuel origin = (.ok exit, final)) :
    Continues monitor world origin final (final.since origin) ∧
      RunLog monitor world origin exit (final.since origin) := by
  obtain ⟨control, -, rfl, haccounts⟩ := run_accounts hrun
  refine ⟨haccounts.continues, ?_⟩
  cases haccounts with
  | ping hcontinues _ hstanding =>
      have hlog := hstanding.interrupted .underway
      rwa [List.append_nil] at hlog
  | pause hcontinues _ hstanding =>
      have hlog := hstanding.interrupted .underway
      rwa [List.append_nil] at hlog
  | ended hcontinues hlog => exact hlog

end Runs

end HealthMonitor
