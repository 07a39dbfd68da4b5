import HealthMonitor.Proofs.AbandonedCalls
import HealthMonitor.Proofs.Origins
import HealthMonitor.Proofs.Strides

/-!
# The calls that outlive a run

When a run returns, each call that it waited for to the end has returned, was
stopped, or is counted by the watchdog.  The call of a ping that a shutdown cut
short is none of these: nobody stops it and nobody counts it, and it returns
when it would have (`run_flightRecord`).
-/

namespace HealthMonitor

variable {σ : Type}

/-- Every ping a monitor ever made, the newest first. -/
def State.pingsMade (state : State σ) : List Ping :=
  pingsIn state.transcript

/-! ## The watchdog of a monitor -/

/-- The watchdog of a monitor counts what its pings left running. -/
structure State.Audited (monitor : Monitor σ) (state : State σ) : Prop where
  timeout : 0 < state.watchdog.timeout
  counts :
    state.watchdog.Counts state.now (owedBy monitor.probe? state.pingsMade)
  returned : ∀ ping ∈ state.pingsMade, ping.outcome ≠ none →
    ping.outcome ≠ some .timedOut → ping.hasReturned state.now = true

namespace State.Audited

variable {monitor : Monitor σ} {world : World} {state other : State σ}
  {pass : Pass} {probe : Probe} {entries : List Entry} {moment : Moment}

theorem initial (hvalid : monitor.timing.Valid) (reporter : σ) :
    (State.initial monitor reporter).Audited monitor where
  timeout := hvalid.2
  counts := Watchdog.counts_new _ _
  returned := List.forall_mem_nil _

theorem moveTo
    (haudited : state.Audited monitor) (hle : state.now ≤ moment) :
    (state.moveTo moment).Audited monitor where
  timeout := haudited.timeout
  counts := haudited.counts.settle hle
  returned := by
    intro ping hping hanswered hinTime
    exact Ping.hasReturned_of_le hle
      (haudited.returned ping hping hanswered hinTime)

theorem writes
    (haudited : state.Audited monitor) (hwrites : Writes state other entries) :
    other.Audited monitor := by
  have hpings : other.pingsMade = state.pingsMade := by
    have hquiet : pingsIn entries.reverse = [] := by
      rw [pingsIn, List.filterMap_reverse, ← pingsIn, hwrites.pingsIn_eq]
      rfl
    rw [pingsMade, hwrites.transcript, pingsIn_append, hquiet]
    rfl
  constructor
  · rw [hwrites.watchdog]
    exact haudited.timeout
  · rw [hwrites.watchdog, hwrites.now, hpings]
    exact haudited.counts
  · rw [hwrites.now, hpings]
    exact haudited.returned

theorem pingsMade_recordPing (state : State σ) (ping : Ping) :
    (Run.recordPing state ping).pingsMade = ping :: state.pingsMade := by
  simp [pingsMade, Run.recordPing, State.note]

theorem answered
    (haudited : state.Audited monitor)
    (hprobe : monitor.probe? pass.position = some probe) :
    (Run.afterAnswer world state pass probe).Audited monitor := by
  have hle : state.now ≤ (Run.watchOf world state pass probe).answered :=
    Watchdog.le_answered _ _ _ _
  have hpings :
      (Run.afterAnswer world state pass probe).pingsMade =
        Run.answeredPing world state pass probe :: state.pingsMade :=
    pingsMade_recordPing state _
  have hready : state.watchdog.timeout = 0 → state.now.settled = false := by
    intro hzero
    exact absurd haudited.timeout (Nat.not_lt_of_le (Nat.le_of_eq hzero))
  constructor
  · rw [Run.afterAnswer, Watchdog.timeout_snd_ping]
    exact haudited.timeout
  · rw [hpings]
    exact haudited.counts.answered hready hprobe rfl rfl
  · rw [hpings, List.forall_mem_cons]
    constructor
    · intro _ hinTime
      apply Watchdog.returned_of_inTime
      intro hlate
      exact hinTime (congrArg some hlate)
    · intro ping hping hanswered hinTime
      exact Ping.hasReturned_of_le hle
        (haudited.returned ping hping hanswered hinTime)

/-- A ping that was cut short changes nothing that the watchdog counts. -/
theorem broken
    (haudited : state.Audited monitor)
    (hlater : state.now.instant < moment.instant) :
    (Run.afterBreak world state pass moment).Audited monitor := by
  have hle : state.now ≤ moment := Moment.le_of_instant_lt hlater
  have hrecorded :
      (Run.recordPing state
        (Run.brokenPing world state pass moment)).Audited monitor := by
    have hwatchdog :
        (Run.recordPing state
          (Run.brokenPing world state pass moment)).watchdog =
            state.watchdog := by
      simp [Run.recordPing, State.note]
    have howed :
        owedBy monitor.probe?
            (Run.brokenPing world state pass moment :: state.pingsMade) =
          owedBy monitor.probe? state.pingsMade :=
      owedBy_cons_of_not_detached rfl
    constructor
    · rw [hwatchdog]
      exact haudited.timeout
    · rw [hwatchdog, Run.now_recordPing, pingsMade_recordPing, howed]
      exact haudited.counts
    · rw [Run.now_recordPing, pingsMade_recordPing, List.forall_mem_cons]
      refine ⟨?_, haudited.returned⟩
      intro hanswered
      exact absurd rfl hanswered
  apply hrecorded.moveTo
  rw [Run.now_recordPing]
  exact hle

theorem shutDown (haudited : state.Audited monitor) :
    (Run.shutDown monitor state).state.Audited monitor :=
  haudited.writes (stays_close monitor state).toWrites

end State.Audited

section Runs

variable {monitor : Monitor σ} {world : World} {stop : Option Nat}
  {origin state : State σ} {run next : Run σ} {entries : List Entry}

theorem Stride.audited
    (hstride : Stride monitor world stop run next entries)
    (haudited : run.state.Audited monitor) :
    next.state.Audited monitor := by
  cases hstride with
  | woken _ hturn =>
      exact (haudited.moveTo (Moment.le_timer _ _)).writes hturn.writes
  | answered _ hprobe _ hturn =>
      exact (haudited.answered hprobe).writes hturn.writes
  | broken _ _ _ hlater _ => exact (haudited.broken hlater).shutDown
  | stopped _ hle _ _ => exact (haudited.moveTo hle).shutDown

theorem Journey.audited
    (hjourney : Journey monitor world stop origin run entries)
    (haudited : origin.Audited monitor) :
    run.state.Audited monitor := by
  induction hjourney with
  | opened hopens => exact haudited.writes hopens.writes
  | strode _ hstride ih => exact hstride.audited ih

theorem Journey.mem_pingsMade
    (hjourney : Journey monitor world stop origin run entries)
    {ping : Ping} (hping : ping ∈ pingsIn entries) :
    ping ∈ run.state.pingsMade := by
  rw [State.pingsMade, hjourney.transcript, pingsIn_append]
  apply List.mem_append_left
  rw [pingsIn, List.filterMap_reverse, List.mem_reverse]
  exact hping

theorem writes_prepareFrom
    (world : World) (positions : List Position) (state : State σ) :
    ∃ entries,
      Writes state (monitor.prepareFrom world positions state).2 entries := by
  induction positions generalizing state with
  | nil => exact ⟨[], Stays.refl.toWrites⟩
  | cons position positions ih =>
      have hnoted : Stays state (state.note (.prepared position)) _ :=
        Stays.refl.note trivial rfl
      simp only [Monitor.prepareFrom]
      split
      next => exact ⟨_, hnoted.toWrites⟩
      next =>
        obtain ⟨entries, hmore⟩ := ih (state.note (.prepared position))
        exact ⟨_, hnoted.toWrites.trans hmore⟩

theorem Monitor.Reachable.audited (hreachable : monitor.Reachable state) :
    state.Audited monitor := by
  induction hreachable with
  | @built reporter state hbuilt =>
      have hvalid := (Monitor.Reachable.built hbuilt).valid
      rw [Monitor.build?_eq_ok hbuilt]
      exact .initial hvalid reporter
  | @performed state hreachable world fuel operation ih =>
      cases operation with
      | prepare =>
          rw [Monitor.perform_prepare_snd]
          obtain ⟨entries, hwrites⟩ :=
            writes_prepareFrom world monitor.positions state
          exact ih.writes hwrites
      | start =>
          have hsame : Stays state state [] := .refl
          have htold :=
            hsame.tell monitor (.start monitor.name monitor.description) nofun
          have hstarted : Stays state (monitor.start state).2 _ :=
            htold.congr rfl rfl rfl rfl rfl
          exact ih.writes hstarted.toWrites
      | sleep wait => exact ih.moveTo (Moment.le_timer _ _)
      | close => exact ih.writes (stays_close monitor state).toWrites
      | run signal =>
          simp only [Monitor.perform]
          split
          next exit final hrun =>
            obtain ⟨control, -, hjourney⟩ := run_journey hrun
            exact hjourney.audited ih
          next error final hrun =>
            rw [Monitor.run_refused hrun]
            exact ih

end Runs

/-! ## What a run leaves behind -/

def AllCounted
    (monitor : Monitor σ) (state : State σ) (pings : List Ping) : Prop :=
  ∀ ping ∈ pings, ping.isInFlight monitor.probe? state.now = true →
    ping.isAbandoned monitor.probe? state.now = true

/-- The calls of a run at the moment it returns. -/
structure FlightRecord
    (monitor : Monitor σ) (world : World) (origin : State σ) (exit : RunExit)
    (final : State σ) : Prop where
  /-- The watchdog counts the calls left running, of this and every earlier
  run. -/
  counted :
    final.watchdog.abandoned =
      final.pingsMade.countP (·.isAbandoned monitor.probe? final.now)
  /-- Of an answered ping the call has returned, was stopped, or is counted. -/
  settled : ∀ ping ∈ pingsIn (final.since origin), ping.outcome ≠ none →
    ping.hasReturned final.now = true ∨
      (ping.isStopped monitor.probe? = true ∧ ping.returns = none) ∨
      ping.isAbandoned monitor.probe? final.now = true
  /-- Once answered, a call that can be stopped is over, for good. -/
  stopped : ∀ ping ∈ pingsIn (final.since origin), ping.outcome ≠ none →
    ∀ probe, monitor.probe? ping.position = some probe →
      probe.cancellable = true →
        ping.isInFlight monitor.probe? final.now = false ∧
          ∀ later, ping.hasReturned later = true →
            ping.hasReturned final.now = true
  quiet : final.watchdog.abandoned = 0 →
    ∀ ping ∈ pingsIn (final.since origin), ping.outcome ≠ none →
      ping.isInFlight monitor.probe? final.now = false
  /-- A ping without an answer is the last one of a run that was shut down; its
  call goes on uncounted and returns by itself. -/
  cut : ∀ ping ∈ pingsIn (final.since origin), ping.outcome = none →
    exit = .shutdown ∧
      (pingsIn (final.since origin)).getLast? = some ping ∧
      ping.answered = final.now.instant ∧
      ping.begins = some ping.started ∧
      ping.returns =
        (world.call ping.position ping.number).takes.map (ping.started + ·) ∧
      ping.isInFlight monitor.probe? final.now = true ∧
      ping.isAbandoned monitor.probe? final.now = false
  /-- So all calls in flight are counted exactly if no ping was cut short. -/
  accounted :
    AllCounted monitor final (pingsIn (final.since origin)) ↔
      ∀ ping ∈ pingsIn (final.since origin), ping.outcome ≠ none

section Leaving

variable {monitor : Monitor σ} {world : World} {state : State σ} {ping : Ping}
  {timeout : Nat}

theorem Ping.not_inFlight_of_returned
    {probes : Position → Option Probe} {now : Moment}
    (hreturned : ping.hasReturned now = true) :
    ping.isInFlight probes now = false := by
  simp [isInFlight, hreturned]

theorem Ping.not_inFlight_of_stopped
    {probes : Position → Option Probe} {now : Moment}
    (hstopped : ping.isStopped probes = true) :
    ping.isInFlight probes now = false := by
  simp [isInFlight, hstopped]

theorem State.Audited.settled
    (haudited : state.Audited monitor) (hping : ping ∈ state.pingsMade)
    (htraced : ping.IsTraced monitor world timeout)
    (hanswered : ping.outcome ≠ none) :
    ping.hasReturned state.now = true ∨
      (ping.isStopped monitor.probe? = true ∧ ping.returns = none) ∨
      ping.isAbandoned monitor.probe? state.now = true := by
  by_cases hlate : ping.outcome = some .timedOut
  · obtain ⟨probe, hprobe, htraces⟩ := htraced
    cases hcancellable : probe.cancellable with
    | true =>
        have hstopped : ping.isStopped monitor.probe? = true := by
          rw [Ping.isStopped_eq hprobe, hlate, hcancellable]
          rfl
        have hnever : ping.returns = none := by
          rw [htraces.returns, if_pos ⟨hlate, hcancellable⟩]
        exact .inr (.inl ⟨hstopped, hnever⟩)
    | false =>
        have hdetached : ping.isDetached monitor.probe? = true := by
          rw [Ping.isDetached_eq hprobe, hlate, hcancellable]
          rfl
        cases hreturned : ping.hasReturned state.now with
        | true => exact .inl rfl
        | false =>
            right; right
            rw [Ping.isAbandoned, hdetached, hreturned]
            rfl
  · exact .inl (haudited.returned ping hping hanswered hlate)

theorem State.Audited.counted_of_inFlight
    (haudited : state.Audited monitor) (hping : ping ∈ state.pingsMade)
    (htraced : ping.IsTraced monitor world timeout)
    (hanswered : ping.outcome ≠ none)
    (hflight : ping.isInFlight monitor.probe? state.now = true) :
    ping.isAbandoned monitor.probe? state.now = true := by
  rcases haudited.settled hping htraced hanswered with
    hreturned | ⟨hstopped, -⟩ | habandoned
  · rw [Ping.not_inFlight_of_returned hreturned] at hflight
    exact absurd hflight Bool.false_ne_true
  · rw [Ping.not_inFlight_of_stopped hstopped] at hflight
    exact absurd hflight Bool.false_ne_true
  · exact habandoned

theorem Ping.inFlight_of_cut
    (htraced : ping.IsTraced monitor world timeout)
    (hcut : ping.outcome = none) {now : Moment}
    (hnow : now.instant ≤ ping.answered) :
    ping.isInFlight monitor.probe? now = true ∧
      ping.isAbandoned monitor.probe? now = false := by
  obtain ⟨probe, hprobe, htraces⟩ := htraced
  have hrunning := htraces.not_returned_of_cut hcut hnow
  constructor
  · rw [isInFlight, isStopped_eq hprobe, hcut, hrunning]
    rfl
  · rw [isAbandoned, isDetached_eq hprobe, hcut]
    rfl

end Leaving

/-- Whatever ends a run, each call it waited for to the end has returned, was
stopped, or is counted; at most one is none of these, that of a ping which a
shutdown cut short. -/
theorem run_flightRecord
    {monitor : Monitor σ} {world : World} {stop : Option Nat} {fuel : Nat}
    {origin final : State σ} {exit : RunExit}
    (hreachable : monitor.Reachable origin)
    (hrun : monitor.run world stop fuel origin = (.ok (some exit), final)) :
    FlightRecord monitor world origin exit final := by
  obtain ⟨control, hexit, hjourney⟩ := run_journey hrun
  have hcontrol : control = .ended exit := Run.control_of_exit? hexit
  have haudited : final.Audited monitor := hjourney.audited hreachable.audited
  have htimeout : 0 < origin.watchdog.timeout := hreachable.audited.timeout
  have htraced := hjourney.isTraced
  have hmade : ∀ ping ∈ pingsIn (final.since origin),
      ping ∈ final.pingsMade := fun ping => hjourney.mem_pingsMade
  have hsettled := fun ping hping =>
    haudited.settled (hmade ping hping) (htraced ping hping)
  have hcounted := fun ping hping =>
    haudited.counted_of_inFlight (hmade ping hping) (htraced ping hping)
  have hcut : ∀ ping ∈ pingsIn (final.since origin), ping.outcome = none →
      exit = .shutdown ∧
        (pingsIn (final.since origin)).getLast? = some ping ∧
        ping.answered = final.now.instant := by
    intro ping hping hnone
    obtain ⟨hlast, hended, hanswered⟩ := hjourney.endsCut hping hnone
    have hsame := hcontrol.symm.trans hended
    exact ⟨Control.ended.inj hsame, hlast, hanswered⟩
  constructor
  case counted => exact haudited.counts.abandoned_eq
  case settled => exact hsettled
  case stopped =>
    intro ping hping hanswered probe hprobe hcancellable
    rcases hsettled ping hping hanswered with
      hreturned | ⟨hstopped, hnever⟩ | habandoned
    · exact ⟨Ping.not_inFlight_of_returned hreturned, fun _ _ => hreturned⟩
    · refine ⟨Ping.not_inFlight_of_stopped hstopped, ?_⟩
      intro later hlater
      rw [Ping.hasReturned, hnever] at hlater
      exact absurd hlater Bool.false_ne_true
    · rw [Ping.isAbandoned, Ping.isDetached_eq hprobe, hcancellable]
        at habandoned
      simp at habandoned
  case quiet =>
    intro hzero ping hping hanswered
    rw [haudited.counts.abandoned_eq, List.countP_eq_zero] at hzero
    rw [Bool.eq_false_iff]
    intro hflight
    exact hzero ping (hmade ping hping)
      (hcounted ping hping hanswered hflight)
  case cut =>
    intro ping hping hnone
    obtain ⟨hshutdown, hlast, hanswered⟩ := hcut ping hping hnone
    have hflight :=
      Ping.inFlight_of_cut (htraced ping hping) hnone
        (Nat.le_of_eq hanswered.symm)
    obtain ⟨probe, -, htraces⟩ := htraced ping hping
    exact ⟨hshutdown, hlast, hanswered, htraces.begins htimeout,
      htraces.returns_of_cut hnone, hflight⟩
  case accounted =>
    constructor
    · intro hall ping hping hnone
      obtain ⟨-, -, hanswered⟩ := hcut ping hping hnone
      obtain ⟨hflight, huncounted⟩ :=
        Ping.inFlight_of_cut (htraced ping hping) hnone
          (Nat.le_of_eq hanswered.symm)
      have habandoned := hall ping hping hflight
      exact Bool.false_ne_true (huncounted.symm.trans habandoned)
    · intro hall ping hping
      exact hcounted ping hping (hall ping hping)

theorem run_flightRecord_sample :
    FlightRecord Sample.monitor Sample.world Sample.started .shutdown
        Sample.final ∧
      ∀ ping ∈ pingsIn (Sample.final.since Sample.started),
        ping.outcome ≠ none :=
  ⟨run_flightRecord Sample.reachable Sample.run_eq, by decide⟩

/-! ## A call that nobody waits for -/

namespace Sample

def slow : Monitor Unit where
  name := "service"
  primaries := [{ name := "http" }]
  timing := { probeTimeout := 5000 }
  reporter := .default

def slowWorld : World where
  call _ _ := { takes := some 1000, ending := .status (.up "http" "ok") }

def slowStart : State Unit :=
  (slow.perform slowWorld 0 (.initial slow ()) .start).2

/-- The monitor after a shutdown in the middle of its first ping. -/
def slowEnd : State Unit :=
  (slow.run slowWorld (some 100) 2 slowStart).2

end Sample

/-- A shutdown leaves a call running that could have been stopped.  The watchdog
counts nothing, and the call returns after the run. -/
theorem shutdown_leaves_call :
    Sample.slow.run Sample.slowWorld (some 100) 2 Sample.slowStart =
        (.ok (some .shutdown), Sample.slowEnd) ∧
      ¬AllCounted Sample.slow Sample.slowEnd
        (pingsIn (Sample.slowEnd.since Sample.slowStart)) ∧
      Sample.slowEnd.watchdog.abandoned = 0 ∧
      ∃ ping ∈ pingsIn (Sample.slowEnd.since Sample.slowStart),
        (Sample.slow.probe? ping.position).any (·.cancellable) = true ∧
          ping.isInFlight Sample.slow.probe? Sample.slowEnd.now = true ∧
          ping.hasReturned { instant := 1001 } = true := by
  refine ⟨rfl, ?_, rfl, ?_⟩
  · unfold AllCounted
    decide
  · decide

end HealthMonitor
