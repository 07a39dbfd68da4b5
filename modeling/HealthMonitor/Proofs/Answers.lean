import HealthMonitor.Proofs.Account

/-!
# Answers

What a run makes of the answer to a ping, in each of the three phases: it
writes the ping, and in live the block of callbacks that belongs to it, and it
keeps its account.
-/

namespace HealthMonitor

variable {σ : Type}

section Answers

variable {monitor : Monitor σ} {world : World} {origin state : State σ}
  {entries : List Entry}

/-- The gate looks at nothing of a slot but its latch, and at nothing of a
status but its success. -/
theorem Run.satisfied_congr
    {policy : SafeModePolicy} {probe : Probe} {slot other : Slot}
    {status found : Status} {safeMode : Bool}
    (hslot : slot.leftSafeMode = other.leftSafeMode)
    (hstatus : status.success = found.success) :
    Run.satisfied policy probe slot status safeMode =
      Run.satisfied policy probe other found safeMode := by
  simp [satisfied, hslot, hstatus]

/-- The schedule asks the slot that has absorbed the whole log; for the gate it
is enough to know the passes before, since no other ping of this pass was of
the same dependency. -/
theorem opensGate_eq_satisfied
    {before : State σ} {passes : List (List Ping)} {current : List Ping}
    (hcontinues : Continues monitor world origin before entries)
    (hlog : WaitLog monitor world origin passes current entries)
    {ping : Ping} (hrecorded : Recorded before ping state)
    (hposition : ping.position = .dependency current.length)
    {probe : Probe}
    (hprobe : monitor.probe? (.dependency current.length) = some probe)
    {status : Status} (houtcome : ping.outcome = some (.completed status))
    (phase : Phase) :
    ping.opensGate monitor world origin passes.flatten =
      Run.satisfied monitor.timing.policy probe
        ((state.slot? (.dependency current.length)).getD {})
        (status.inPhase phase)
        (world.call ping.position ping.number).safeMode := by
  have hother : ∀ other ∈ current,
      other.position ≠ .dependency current.length := by
    intro other hmem heq
    obtain ⟨index, hindex, hplace⟩ := hlog.sweep.exists_place hmem
    rw [hplace, Position.dependency.injEq] at heq
    omega
  unfold Ping.opensGate
  rw [hposition, hprobe, Ping.status?_of_completed houtcome]
  apply Run.satisfied_congr
  · rw [hrecorded.slot?, if_pos hposition, hcontinues.slot?, hlog.pingsIn_eq]
    cases origin.slot? (.dependency current.length) with
    | none => rfl
    | some slot =>
        simp only [Option.map_some, Option.getD_some]
        rw [Slot.absorbAll_append, Slot.absorbAll_of_forall_ne hother]
  · rfl

/-- An answered ping of a dependency takes the pass one place on.  What the
schedule goes by is then the pass with that ping. -/
theorem answerDependencies_goesOn
    {before : State σ} {passes : List (List Ping)} {current : List Ping}
    (hcontinues : Continues monitor world origin before entries)
    (hlog : WaitLog monitor world origin passes current entries)
    (hphase : state.phase = .dependencyWait)
    {ping : Ping} (hrecorded : Recorded before ping state)
    (hfaithful : ping.Faithful monitor world origin.watchdog.timeout)
    (hposition : ping.position = .dependency current.length)
    {outcome : PingOutcome} (houtcome : ping.outcome = some outcome)
    {probe : Probe}
    (hprobe : monitor.probe? (.dependency current.length) = some probe)
    (hanswered : ping.Answered) :
    ∃ learned,
      Continues monitor world origin learned (entries ++ [.pinged ping]) ∧
        learned.phase = state.phase ∧ learned.closed = state.closed ∧
        learned.cleanBefore = state.cleanBefore ∧
        Run.answerDependencies monitor state current.length
            (gateBlocker monitor world origin passes.flatten current) probe
            (world.call ping.position ping.number).safeMode outcome =
          Run.goOnDependencies monitor learned (current.length + 1)
            (gateBlocker monitor world origin passes.flatten
              (current ++ [ping])) := by
  rcases hanswered with ⟨status, hcompleted⟩ | hhung
  · obtain rfl := Option.some.inj (houtcome.symm.trans hcompleted)
    have hopen := opensGate_eq_satisfied hcontinues hlog hrecorded hposition
      hprobe houtcome .dependencyWait
    have hlearned := hcontinues.learned hrecorded hfaithful hposition
      (Run.recordDependency probe (status.inPhase .dependencyWait)
        (world.call ping.position ping.number).safeMode)
      (Slot.recordDependency_eq_absorb hposition hprobe houtcome)
    refine ⟨_, hlearned, by simp, by simp, by simp, ?_⟩
    rw [gateBlocker_append, hopen]
    simp [Run.answerDependencies, hphase]
  · obtain rfl := Option.some.inj (houtcome.symm.trans hhung)
    have hstatus := Ping.status?_of_timedOut houtcome
    have hopen :
        ping.opensGate monitor world origin passes.flatten = false := by
      simp [Ping.opensGate, hstatus]
    refine ⟨state, hcontinues.recorded hrecorded hfaithful hstatus, rfl, rfl,
      rfl, ?_⟩
    rw [gateBlocker_append, hopen]
    simp [Run.answerDependencies]

theorem accounted_answerDependencies
    {before : State σ} {passes : List (List Ping)} {current : List Ping}
    (hcontinues : Continues monitor world origin before entries)
    (hclosed : before.closed = origin.closed)
    (hlog : WaitLog monitor world origin passes current entries)
    (hphase : before.phase = .dependencyWait)
    (hclean : before.cleanBefore = origin.cleanBefore)
    {ping : Ping} (hrecorded : Recorded before ping state)
    (hfaithful : ping.Faithful monitor world origin.watchdog.timeout)
    (hposition : ping.position = .dependency current.length)
    (hlive : ping.live = false) {outcome : PingOutcome}
    (houtcome : ping.outcome = some outcome) {probe : Probe}
    (hprobe : monitor.probe? (.dependency current.length) = some probe) :
    Accounted monitor world origin
      (Run.answerDependencies monitor state current.length
        (gateBlocker monitor world origin passes.flatten current) probe
        (world.call ping.position ping.number).safeMode outcome) := by
  have hrange : current.length < monitor.dependencies.length := by
    obtain ⟨hrange, -⟩ := List.getElem?_eq_some_iff.mp hprobe
    exact hrange
  have hphaseState : state.phase = .dependencyWait :=
    hrecorded.phase.trans hphase
  have hgone : ping.Answered → Accounted monitor world origin
      (Run.answerDependencies monitor state current.length
        (gateBlocker monitor world origin passes.flatten current) probe
        (world.call ping.position ping.number).safeMode outcome) := by
    intro hanswered
    obtain ⟨learned, hlearned, hsame, hclosedSame, hcleanSame, hgoes⟩ :=
      answerDependencies_goesOn hcontinues hlog hphaseState hrecorded hfaithful
        hposition houtcome hprobe hanswered
    have hnext := accounted_goOnDependencies hlearned
      (hclosedSame.trans (hrecorded.closed.trans hclosed))
      (hlog.append hposition hlive hanswered hrange)
      (hsame.trans hphaseState)
      (hcleanSame.trans (hrecorded.cleanBefore.trans hclean))
    rw [List.length_append, List.length_singleton] at hnext
    rw [hgoes]
    exact hnext
  cases outcome with
  | completed status => exact hgone (.inl ⟨status, houtcome⟩)
  | timedOut => exact hgone (.inr houtcome)
  | aborted abort =>
      have hstatus : ping.status? = none := by
        simp [Ping.status?, houtcome]
      exact ⟨_, .ended (hcontinues.recorded hrecorded hfaithful hstatus)
        (.waiting hlog hrange (.aborted hposition hlive houtcome))⟩

/-- The same before live for an answered ping of a primary. -/
theorem answerBootstrap_goesOn
    {before : State σ} {current : List Ping}
    (hcontinues : Continues monitor world origin before entries)
    (hphase : state.phase = .bootstrap)
    {ping : Ping} (hrecorded : Recorded before ping state)
    (hfaithful : ping.Faithful monitor world origin.watchdog.timeout)
    (hposition : ping.position = .primary current.length)
    (hlive : ping.live = false) {outcome : PingOutcome}
    (houtcome : ping.outcome = some outcome) (hanswered : ping.Answered) :
    ∃ learned,
      Continues monitor world origin learned (entries ++ [.pinged ping]) ∧
        learned.phase = state.phase ∧ learned.closed = state.closed ∧
        learned.cleanBefore = state.cleanBefore ∧
        Run.answerBootstrap monitor state current.length (downBlocker current)
            (statusesIn .bootstrap current) outcome =
          Run.goOnBootstrap monitor learned (current.length + 1)
            (downBlocker (current ++ [ping]))
            (statusesIn .bootstrap (current ++ [ping])) := by
  rcases hanswered with ⟨status, hcompleted⟩ | hhung
  · obtain rfl := Option.some.inj (houtcome.symm.trans hcompleted)
    have hphasePing : ping.phase = .bootstrap := by
      simp [Ping.phase, hposition, hlive]
    have hlearned := hcontinues.learned hrecorded hfaithful hposition
      (fun slot => { slot with last := some (status.inPhase ping.phase) })
      (Slot.recordPrimary_eq_absorb hposition houtcome)
    refine ⟨_, hlearned, by simp, by simp, by simp, ?_⟩
    rw [downBlocker_append, statusesIn_append,
      Ping.succeeded_of_completed houtcome,
      Ping.status?_of_completed houtcome, hphasePing]
    simp [Run.answerBootstrap, hphase]
  · obtain rfl := Option.some.inj (houtcome.symm.trans hhung)
    have hstatus := Ping.status?_of_timedOut houtcome
    refine ⟨state, hcontinues.recorded hrecorded hfaithful hstatus, rfl, rfl,
      rfl, ?_⟩
    rw [downBlocker_append, statusesIn_append,
      Ping.succeeded_of_timedOut houtcome, hstatus]
    simp [Run.answerBootstrap]

theorem accounted_answerBootstrap
    {before : State σ} {wait : List Entry} {passes : List (List Ping)}
    {current : List Ping}
    (hcontinues : Continues monitor world origin before entries)
    (hclosed : before.closed = origin.closed)
    (hlog : BootLog monitor world origin wait passes current entries)
    (hphase : before.phase = .bootstrap)
    (hclean : before.cleanBefore = origin.cleanBefore)
    {ping : Ping} (hrecorded : Recorded before ping state)
    (hfaithful : ping.Faithful monitor world origin.watchdog.timeout)
    (hposition : ping.position = .primary current.length)
    (hlive : ping.live = false) {outcome : PingOutcome}
    (houtcome : ping.outcome = some outcome)
    (hrange : current.length < monitor.primaries.length) :
    Accounted monitor world origin
      (Run.answerBootstrap monitor state current.length (downBlocker current)
        (statusesIn .bootstrap current) outcome) := by
  have hphaseState : state.phase = .bootstrap := hrecorded.phase.trans hphase
  have hgone : ping.Answered → Accounted monitor world origin
      (Run.answerBootstrap monitor state current.length (downBlocker current)
        (statusesIn .bootstrap current) outcome) := by
    intro hanswered
    obtain ⟨learned, hlearned, hsame, hclosedSame, hcleanSame, hgoes⟩ :=
      answerBootstrap_goesOn hcontinues hphaseState hrecorded hfaithful
        hposition hlive houtcome hanswered
    have hnext := accounted_goOnBootstrap hlearned
      (hclosedSame.trans (hrecorded.closed.trans hclosed))
      (hlog.append hposition hlive hanswered hrange)
      (hsame.trans hphaseState)
      (hcleanSame.trans (hrecorded.cleanBefore.trans hclean))
    rw [List.length_append, List.length_singleton] at hnext
    rw [hgoes]
    exact hnext
  cases outcome with
  | completed status => exact hgone (.inl ⟨status, houtcome⟩)
  | timedOut => exact hgone (.inr houtcome)
  | aborted abort =>
      have hstatus : ping.status? = none := by
        simp [Ping.status?, houtcome]
      exact ⟨_, .ended (hcontinues.recorded hrecorded hfaithful hstatus)
        (.booting hlog hrange (.aborted hposition hlive houtcome))⟩

@[simp] theorem Run.phase_heartbeat :
    (Run.heartbeat monitor state).phase = state.phase := by
  unfold Run.heartbeat
  simp only
  split
  next => rfl
  next => rfl

@[simp] theorem Run.closed_heartbeat :
    (Run.heartbeat monitor state).closed = state.closed := by
  unfold Run.heartbeat
  simp only
  split
  next => rfl
  next => rfl

@[simp] theorem Run.cleanBefore_heartbeat :
    (Run.heartbeat monitor state).cleanBefore = state.cleanBefore := by
  unfold Run.heartbeat
  simp only
  split
  next => rfl
  next => rfl

/-- A heartbeat, due or not, writes at most that one callback. -/
theorem Continues.heartbeat
    (hcontinues : Continues monitor world origin state entries) :
    ∃ beat, IsBeat beat ∧
      Continues monitor world origin (Run.heartbeat monitor state)
        (entries ++ beat) := by
  unfold Run.heartbeat
  simp only
  split
  next status hdue hlatest =>
    have htold := hcontinues.tell (.heartbeat status)
    exact ⟨_, .inr ⟨_, _, _, rfl⟩,
      htold.congr rfl (State.slot?_congr rfl rfl) rfl⟩
  next => exact ⟨[], .inl rfl, by simpa using hcontinues⟩

/-- Once the reporter has heard of a live ping and lets the run go on, a
heartbeat may follow, and then the next primary. -/
theorem accounted_reported
    {boot : List Entry} {passes : List LivePass} {current : List Block}
    (hlog : LiveLog monitor world origin boot passes current entries)
    {ping : Ping} {reports : List Entry}
    (hposition : ping.position = .primary current.length)
    (hlive : ping.live = true) (hanswered : ping.Answered)
    (hsettled :
      ∀ beat, IsBeat beat → Block.Settled monitor ⟨ping, reports ++ beat⟩)
    (hrange : current.length < monitor.primaries.length)
    (hcontinues :
      Continues monitor world origin state (entries ++ .pinged ping :: reports))
    (hclosed : state.closed = origin.closed) (hphase : state.phase = .live)
    (hclean : state.cleanBefore = cleanAfter origin.cleanBefore passes) :
    Accounted monitor world origin
      (Run.goOnLive monitor (Run.heartbeat monitor state) (current.length + 1)
        (cleanIn current && ping.succeeded)) := by
  obtain ⟨beat, hbeat, hbeaten⟩ := hcontinues.heartbeat
  have hgrown :=
    hlog.append hposition hlive hanswered (hsettled beat hbeat) hrange
  have hblock :
      Continues monitor world origin (Run.heartbeat monitor state)
        (entries ++ Block.entries ⟨ping, reports ++ beat⟩) := by
    simpa [Block.entries] using hbeaten
  have hgone := accounted_goOnLive hblock (by simpa using hclosed) hgrown
    (by simpa using hphase) (by simpa using hclean)
  rw [cleanIn_append] at hgone
  simpa using hgone

/-- The state once a status of a live ping was taken in and reported. -/
def Run.takeResult
    (monitor : Monitor σ) (state : State σ) (index : Nat) (status : Status) :
    State σ :=
  State.tell
    { state.modifySlot (.primary index)
        (fun slot => { slot with last := some status }) with
      latest := some status }
    monitor (.result .live status)

theorem Continues.takeResult
    {before : State σ}
    (hcontinues : Continues monitor world origin before entries)
    {ping : Ping} (hrecorded : Recorded before ping state)
    (hfaithful : ping.Faithful monitor world origin.watchdog.timeout)
    {index : Nat} (hposition : ping.position = .primary index)
    (hlive : ping.live = true) {status : Status}
    (houtcome : ping.outcome = some (.completed status)) :
    ∃ told verdict,
      told = Run.takeResult monitor state index (status.inPhase .live) ∧
        Continues monitor world origin told
          (entries ++ .pinged ping ::
            [.told told.now.instant (.result .live (status.inPhase .live))
              verdict]) := by
  have hphase : ping.phase = .live := by
    simp [Ping.phase, hposition, hlive]
  have hlearned := hcontinues.learned hrecorded hfaithful hposition
    (fun slot => { slot with last := some (status.inPhase ping.phase) })
    (Slot.recordPrimary_eq_absorb hposition houtcome)
  rw [hphase] at hlearned
  have hlatest :
      Continues monitor world origin
        { state.modifySlot (.primary index)
            (fun slot => { slot with last := some (status.inPhase .live) }) with
          latest := some (status.inPhase .live) }
        (entries ++ [.pinged ping]) :=
    hlearned.congr rfl (State.slot?_congr rfl rfl) rfl
  have htold := hlatest.tell (.result .live (status.inPhase .live))
  rw [List.append_assoc] at htold
  exact ⟨_, _, rfl, htold⟩

theorem Run.answerLive_completed
    (hphase : state.phase = .live) (index : Nat) (clean : Bool) (probe : Probe)
    (status : Status) :
    Run.answerLive monitor state index clean probe (.completed status) =
      let told := Run.takeResult monitor state index (status.inPhase .live)
      if status.success then
        Run.goOnLive monitor (Run.heartbeat monitor told) (index + 1) clean
      else
        let (verdict, asked) :=
          told.ask monitor (.failure (status.inPhase .live))
        if verdict.stops then
          ⟨asked, .ended (.probeFailed (status.inPhase .live))⟩
        else
          Run.goOnLive monitor (Run.heartbeat monitor asked) (index + 1)
            false := by
  simp only [Run.answerLive, hphase]
  rfl

/-- A live ping that came in is reported, and so is its failure; the failure
may end the run. -/
theorem accounted_completedLive
    {before : State σ} {boot : List Entry} {passes : List LivePass}
    {current : List Block}
    (hcontinues : Continues monitor world origin before entries)
    (hclosed : state.closed = origin.closed)
    (hlog : LiveLog monitor world origin boot passes current entries)
    (hphase : state.phase = .live)
    (hclean : state.cleanBefore = cleanAfter origin.cleanBefore passes)
    {ping : Ping} (hrecorded : Recorded before ping state)
    (hfaithful : ping.Faithful monitor world origin.watchdog.timeout)
    (hposition : ping.position = .primary current.length)
    (hlive : ping.live = true) {status : Status}
    (houtcome : ping.outcome = some (.completed status))
    (hrange : current.length < monitor.primaries.length) (probe : Probe) :
    Accounted monitor world origin
      (Run.answerLive monitor state current.length (cleanIn current) probe
        (.completed status)) := by
  obtain ⟨told, heard, htaken, htold⟩ :=
    hcontinues.takeResult hrecorded hfaithful hposition hlive houtcome
  have hphaseTold : told.phase = .live := by
    rw [htaken]
    exact hphase
  have hclosedTold : told.closed = origin.closed := by
    rw [htaken]
    exact hclosed
  have hcleanTold :
      told.cleanBefore = cleanAfter origin.cleanBefore passes := by
    rw [htaken]
    exact hclean
  rw [Run.answerLive_completed hphase, ← htaken]
  simp only
  split
  next hsuccess =>
    have hgone := accounted_reported hlog hposition hlive
      (.inl ⟨status, houtcome⟩)
      (fun beat hbeat => .up houtcome hsuccess hbeat) hrange htold
      hclosedTold hphaseTold hcleanTold
    rw [Ping.succeeded_of_completed houtcome, hsuccess, Bool.and_true] at hgone
    exact hgone
  next hfailed =>
    have hsuccess : status.success = false := by simpa using hfailed
    rcases hask : told.ask monitor (.failure (status.inPhase .live))
      with ⟨verdict, asked⟩
    have hheard := htold.ask hask
    rw [List.append_assoc] at hheard
    obtain ⟨hphaseAsked, hclosedAsked, hcleanAsked⟩ := State.ask_keeps hask
    cases verdict with
    | stop =>
        exact ⟨_, .ended hheard
          (.living hlog (.failed hposition hlive houtcome hsuccess))⟩
    | proceed =>
        have hgone := accounted_reported hlog hposition hlive
          (.inl ⟨status, houtcome⟩)
          (fun beat hbeat => .down houtcome hsuccess hbeat) hrange hheard
          (hclosedAsked.trans hclosedTold) (hphaseAsked.trans hphaseTold)
          (hcleanAsked.trans hcleanTold)
        rw [Ping.succeeded_of_completed houtcome, hsuccess,
          Bool.and_false] at hgone
        exact hgone

/-- A live ping that hung is reported, and that may end the run. -/
theorem accounted_hungLive
    {before : State σ} {boot : List Entry} {passes : List LivePass}
    {current : List Block}
    (hcontinues : Continues monitor world origin before entries)
    (hclosed : state.closed = origin.closed)
    (hlog : LiveLog monitor world origin boot passes current entries)
    (hphase : state.phase = .live)
    (hclean : state.cleanBefore = cleanAfter origin.cleanBefore passes)
    {ping : Ping} (hrecorded : Recorded before ping state)
    (hfaithful : ping.Faithful monitor world origin.watchdog.timeout)
    (hposition : ping.position = .primary current.length)
    (hlive : ping.live = true) (houtcome : ping.outcome = some .timedOut)
    {probe : Probe}
    (hprobe : monitor.probe? (.primary current.length) = some probe)
    (hrange : current.length < monitor.primaries.length) :
    Accounted monitor world origin
      (Run.answerLive monitor state current.length (cleanIn current) probe
        .timedOut) := by
  have hname : probe.name = monitor.probeName ping.position := by
    rw [hposition, Monitor.probeName, hprobe]
    rfl
  have hpinged := hcontinues.recorded hrecorded hfaithful
    (Ping.status?_of_timedOut houtcome)
  simp only [Run.answerLive, hphase, hname]
  rcases hask : State.ask state monitor
    (.timedOut .live (monitor.probeName ping.position)
      (state.lastStatus (.primary current.length)) state.now.instant)
    with ⟨verdict, asked⟩
  have hheard := hpinged.ask hask
  rw [List.append_assoc] at hheard
  obtain ⟨hphaseAsked, hclosedAsked, hcleanAsked⟩ := State.ask_keeps hask
  have hphaseEnd : asked.phase = .live := hphaseAsked.trans hphase
  cases verdict with
  | stop =>
      simp only [Verdict.stops, if_true, hphaseEnd]
      exact ⟨_, .ended hheard
        (.living hlog (.hung hposition hlive houtcome))⟩
  | proceed =>
      have hgone := accounted_reported hlog hposition hlive (.inr houtcome)
        (fun beat hbeat => .hung houtcome hbeat) hrange hheard
        (hclosedAsked.trans hclosed) hphaseEnd (hcleanAsked.trans hclean)
      rw [Ping.succeeded_of_timedOut houtcome, Bool.and_false] at hgone
      exact hgone

theorem accounted_answerLive
    {before : State σ} {boot : List Entry} {passes : List LivePass}
    {current : List Block}
    (hcontinues : Continues monitor world origin before entries)
    (hclosed : before.closed = origin.closed)
    (hlog : LiveLog monitor world origin boot passes current entries)
    (hphase : before.phase = .live)
    (hclean : before.cleanBefore = cleanAfter origin.cleanBefore passes)
    {ping : Ping} (hrecorded : Recorded before ping state)
    (hfaithful : ping.Faithful monitor world origin.watchdog.timeout)
    (hposition : ping.position = .primary current.length)
    (hlive : ping.live = true) {outcome : PingOutcome}
    (houtcome : ping.outcome = some outcome) {probe : Probe}
    (hprobe : monitor.probe? (.primary current.length) = some probe) :
    Accounted monitor world origin
      (Run.answerLive monitor state current.length (cleanIn current) probe
        outcome) := by
  obtain ⟨hrange, -⟩ := List.getElem?_eq_some_iff.mp hprobe
  have hphaseState : state.phase = .live := hrecorded.phase.trans hphase
  have hclosedState := hrecorded.closed.trans hclosed
  have hcleanState := hrecorded.cleanBefore.trans hclean
  cases outcome with
  | completed status =>
      exact accounted_completedLive hcontinues hclosedState hlog hphaseState
        hcleanState hrecorded hfaithful hposition hlive houtcome hrange probe
  | timedOut =>
      exact accounted_hungLive hcontinues hclosedState hlog hphaseState
        hcleanState hrecorded hfaithful hposition hlive houtcome hprobe hrange
  | aborted abort =>
      have hstatus : ping.status? = none := by
        simp [Ping.status?, houtcome]
      exact ⟨_, .ended (hcontinues.recorded hrecorded hfaithful hstatus)
        (.living hlog
          (.stopped (.inr hrange) (.aborted hposition hlive houtcome)))⟩

theorem accounted_answer
    {before : State σ} {pass : Pass}
    (hcontinues : Continues monitor world origin before entries)
    (hclosed : before.closed = origin.closed)
    (hstanding : Standing monitor world origin before pass entries)
    {ping : Ping} (hrecorded : Recorded before ping state)
    (hfaithful : ping.Faithful monitor world origin.watchdog.timeout)
    (hposition : ping.position = pass.position)
    (hlive : ping.live = pass.isLive) {outcome : PingOutcome}
    (houtcome : ping.outcome = some outcome) {probe : Probe}
    (hprobe : monitor.probe? pass.position = some probe) :
    Accounted monitor world origin
      (Run.answer monitor state pass probe
        (world.call ping.position ping.number).safeMode outcome) := by
  cases hstanding with
  | waiting hlog hroom hphase hclean =>
      exact accounted_answerDependencies hcontinues hclosed hlog hphase hclean
        hrecorded hfaithful hposition hlive houtcome hprobe
  | booting hlog hroom hphase hclean =>
      obtain ⟨hrange, -⟩ := List.getElem?_eq_some_iff.mp hprobe
      exact accounted_answerBootstrap hcontinues hclosed hlog hphase hclean
        hrecorded hfaithful hposition hlive houtcome hrange
  | living hlog hroom hphase hclean =>
      exact accounted_answerLive hcontinues hclosed hlog hphase hclean
        hrecorded hfaithful hposition hlive houtcome hprobe

end Answers

end HealthMonitor
