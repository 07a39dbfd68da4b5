import HealthMonitor.Proofs.Instants
import HealthMonitor.Proofs.Runs

/-!
# The timeline of a run

A ping begins at the instant at which the ping before it was answered, and one
interval later if it begins a further pass of its phase.  Callbacks are made at
the instant of the ping before them.  A further pass of a phase before live is
made only while the phase is within its limit.  The main statement is
`run_timed`, which says so of every run, and counts its steps.
-/

namespace HealthMonitor

variable {σ : Type}

/-! ## The clock of a list of pings -/

/-- The instant at which some pings leave a run that began at `start`. -/
def clockAfter (start : Nat) (pings : List Ping) : Nat :=
  (pings.getLast?.map (·.answered)).getD start

/-- Whether the ping of number `index` in `phase` begins a further pass, when
`earlier` are the pings before it. -/
def resumes (earlier : List Ping) (phase : Phase) (index : Nat) : Bool :=
  index == 0 && earlier.getLast?.any (·.phase == phase)

def passesBegun (pings : List Ping) : Nat :=
  pings.countP (·.position.index == 0)

@[simp] theorem clockAfter_nil (start : Nat) : clockAfter start [] = start :=
  rfl

@[simp] theorem clockAfter_concat (start : Nat) (pings : List Ping) (ping : Ping) :
    clockAfter start (pings ++ [ping]) = ping.answered := by
  simp [clockAfter]

theorem clockAfter_append (start : Nat) (pings more : List Ping) :
    clockAfter start (pings ++ more) =
      clockAfter (clockAfter start pings) more := by
  rcases List.eq_nil_or_concat more with rfl | ⟨front, last, rfl⟩
  · simp
  · rw [List.concat_eq_append, ← List.append_assoc, clockAfter_concat,
      clockAfter_concat]

@[simp] theorem resumes_succ
    (earlier : List Ping) (phase : Phase) (index : Nat) :
    resumes earlier phase (index + 1) = false :=
  rfl

theorem resumes_concat (earlier : List Ping) (ping : Ping) (phase : Phase) :
    resumes (earlier ++ [ping]) phase 0 = (ping.phase == phase) := by
  simp [resumes]

theorem passesBegun_concat (pings : List Ping) (ping : Ping) :
    passesBegun (pings ++ [ping]) =
      passesBegun pings + if ping.position.index = 0 then 1 else 0 := by
  simp [passesBegun, List.countP_append, List.countP_singleton]

/-! ## Entries in time -/

/-- How a ping lies in time after the entries before it. -/
structure Ping.Timely
    (monitor : Monitor σ) (origin : State σ) (before : List Entry)
    (ping : Ping) : Prop where
  started :
    ping.started =
      clockAfter origin.now.instant (pingsIn before) +
        if resumes (pingsIn before) ping.phase ping.position.index then
          monitor.timing.probeInterval
        else 0
  started_le : ping.started ≤ ping.answered
  answered_le : ping.answered ≤ ping.started + origin.watchdog.timeout
  early :
    resumes (pingsIn before) ping.phase ping.position.index = true →
      ping.phase ≠ .live →
        ∀ limit, monitor.timing.bootstrapLimit = some limit →
          clockAfter origin.now.instant (pingsIn before) -
            enteredAfter origin.phaseEntered before < limit

/-- How an entry lies in time after those before it.  A shutdown can come in a
pause, and without primaries a cycle is complete right after one. -/
def Entry.Timely
    (monitor : Monitor σ) (origin : State σ) (before : List Entry) :
    Entry → Prop
  | pinged ping => ping.Timely monitor origin before
  | told instant callback _ =>
      callback ≠ .unregister →
        (callback = .cycle → monitor.primaries ≠ []) →
          instant = clockAfter origin.now.instant (pingsIn before)
  | _ => True

def Timeline
    (monitor : Monitor σ) (origin : State σ) (entries : List Entry) : Prop :=
  ∀ before entry after, entries = before ++ entry :: after →
    entry.Timely monitor origin before

theorem Timeline.append
    {monitor : Monitor σ} {origin : State σ} {entries more : List Entry}
    (htimeline : Timeline monitor origin entries)
    (hmore : ∀ before entry after, more = before ++ entry :: after →
      entry.Timely monitor origin (entries ++ before)) :
    Timeline monitor origin (entries ++ more) :=
  forall_split_append htimeline hmore

theorem Timeline.writes
    {monitor : Monitor σ} {origin state other : State σ}
    {entries more : List Entry}
    (htimeline : Timeline monitor origin entries)
    (hwrites : Writes state other more)
    (hnow : state.now.instant =
      clockAfter origin.now.instant (pingsIn entries)) :
    Timeline monitor origin (entries ++ more) := by
  apply htimeline.append
  intro before entry after hsplit
  have hquiet : pingsIn (entries ++ before) = pingsIn entries := by
    have hnone := hwrites.pingsIn_eq
    rw [hsplit, pingsIn_append, List.append_eq_nil_iff] at hnone
    rw [pingsIn_append, hnone.1, List.append_nil]
  have hinstant := hwrites.instants entry (by simp [hsplit])
  cases entry with
  | told instant callback verdict =>
      intro _ _
      rw [hquiet, ← hnow]
      exact hinstant
  | pinged ping => exact hinstant.elim
  | prepared position => trivial
  | beganBootstrap position => trivial
  | endedBootstrap position => trivial

/-- The clock does not go back. -/
theorem Timeline.clock_le
    {monitor : Monitor σ} {origin : State σ} {before more : List Entry}
    (htimeline : Timeline monitor origin (before ++ more)) :
    clockAfter origin.now.instant (pingsIn before) ≤
      clockAfter origin.now.instant (pingsIn (before ++ more)) := by
  induction more generalizing before with
  | nil => simp
  | cons entry more ih =>
      have htimely := htimeline before entry more rfl
      rw [List.append_cons] at htimeline ⊢
      apply Nat.le_trans _ (ih htimeline)
      cases hping : entry.ping? with
      | none =>
          have hsame : pingsIn (before ++ [entry]) = pingsIn before := by
            simp [pingsIn, hping]
          exact Nat.le_of_eq (by rw [hsame])
      | some ping =>
          obtain rfl := Entry.eq_pinged hping
          have hstarted := htimely.started
          have hle := htimely.started_le
          rw [pingsIn_append, pingsIn_pinged_cons, pingsIn_nil,
            clockAfter_concat]
          omega

theorem Timeline.of_append
    {monitor : Monitor σ} {origin : State σ} {before more : List Entry}
    (htimeline : Timeline monitor origin (before ++ more)) :
    Timeline monitor origin before := by
  intro front entry rest hsplit
  exact htimeline front entry (rest ++ more) (by simp [hsplit])

/-- A ping begins no earlier than any ping before it ended. -/
theorem Timeline.answered_le_started
    {monitor : Monitor σ} {origin : State σ} {entries : List Entry}
    {before middle after : List Ping} {first second : Ping}
    (htimeline : Timeline monitor origin entries)
    (hsplit :
      pingsIn entries = before ++ first :: (middle ++ second :: after)) :
    first.answered ≤ second.started := by
  obtain ⟨front, rest, rfl, hfront, hrest⟩ := pingsIn_split hsplit
  obtain ⟨between, back, rfl, -, -⟩ := pingsIn_split hrest
  rw [List.append_cons, ← List.append_assoc] at htimeline
  have hsecond : second.Timely monitor origin _ :=
    htimeline _ (.pinged second) back rfl
  have hstarted := hsecond.started
  have hclock := htimeline.of_append.clock_le
  have hended :
      clockAfter origin.now.instant (pingsIn (front ++ [.pinged first])) =
        first.answered := by
    rw [pingsIn_append, pingsIn_pinged_cons, pingsIn_nil, clockAfter_concat]
  omega

theorem Timeline.told_le_started
    {monitor : Monitor σ} {origin : State σ} {before after : List Entry}
    {ping : Ping} {instant : Nat} {callback : Callback} {verdict : Verdict}
    (htimeline : Timeline monitor origin (before ++ .pinged ping :: after))
    (hmem : .told instant callback verdict ∈ before)
    (hunregister : callback ≠ .unregister)
    (hcycle : callback = .cycle → monitor.primaries ≠ []) :
    instant ≤ ping.started := by
  obtain ⟨earlier, later, rfl⟩ := List.append_of_mem hmem
  have htold : instant = clockAfter origin.now.instant (pingsIn earlier) :=
    htimeline earlier (.told instant callback verdict)
      (later ++ .pinged ping :: after) (by simp) hunregister hcycle
  have hping := htimeline _ (.pinged ping) after rfl
  have hstarted := hping.started
  have hclock := htimeline.of_append.clock_le
  omega

/-! ## Where a run stands -/

/-- `state` is what a timeline of entries since `origin` has led to. -/
structure Stands
    (monitor : Monitor σ) (origin state : State σ) (entries : List Entry) :
    Prop where
  transcript : state.transcript = entries.reverse ++ origin.transcript
  timeline : Timeline monitor origin entries
  entered : state.phaseEntered = enteredAfter origin.phaseEntered entries
  timeout : state.watchdog.timeout = origin.watchdog.timeout

/-- If a run has ended by a time limit, the limit was reached then. -/
def LimitReached
    (monitor : Monitor σ) (origin : State σ) (entries : List Entry)
    (exit : RunExit) : Prop :=
  ∀ phase probe elapsed last,
    exit = .bootstrapTimedOut phase probe elapsed last →
      elapsed =
          clockAfter origin.now.instant (pingsIn entries) -
            enteredAfter origin.phaseEntered entries ∧
        ∃ limit, monitor.timing.bootstrapLimit = some limit ∧ limit ≤ elapsed

/-- A run that is still in the phase of its last ping, which has ended a pass
before live, is within the limit of that phase. -/
def WithinLimit
    (monitor : Monitor σ) (origin : State σ) (entries : List Entry) : Prop :=
  ∀ last, (pingsIn entries).getLast? = some last → last.Answered →
    last.position.index + 1 = monitor.countIn last.phase →
      last.phase ≠ .live →
        (∀ next, last.phase.rank < next.rank →
          .phase next ∉ callbacksIn entries) →
          ∀ limit, monitor.timing.bootstrapLimit = some limit →
            clockAfter origin.now.instant (pingsIn entries) -
              enteredAfter origin.phaseEntered entries < limit

/-- A run after `steps` steps, as it stands in time.  Each step is a ping or a
pause, and a pause comes only before a pass. -/
inductive Timed
    (monitor : Monitor σ) (origin : State σ) (steps : Nat) :
    Run σ → List Entry → Prop
  | ping {state : State σ} {pass : Pass} {entries : List Entry}
      (hstands : Stands monitor origin state entries)
      (hphase : pass.phase = state.phase)
      (hprobe : ∃ probe, monitor.probe? pass.position = some probe)
      (hnow : state.now.instant =
        clockAfter origin.now.instant (pingsIn entries) +
          if resumes (pingsIn entries) pass.phase pass.index then
            monitor.timing.probeInterval
          else 0)
      (hearly :
        resumes (pingsIn entries) pass.phase pass.index = true →
          pass.phase ≠ .live →
            ∀ limit, monitor.timing.bootstrapLimit = some limit →
              clockAfter origin.now.instant (pingsIn entries) -
                enteredAfter origin.phaseEntered entries < limit)
      (hwithin : WithinLimit monitor origin entries)
      (hsteps : steps + (if pass.index = 0 then 0 else 1) ≤
        (pingsIn entries).length + passesBegun (pingsIn entries)) :
      Timed monitor origin steps ⟨state, .ping pass⟩ entries
  | pause {state : State σ} {entries : List Entry}
      (hstands : Stands monitor origin state entries)
      (hprobes : 0 < monitor.countIn state.phase)
      (hlast : resumes (pingsIn entries) state.phase 0 = true)
      (hnow : state.now.instant =
        clockAfter origin.now.instant (pingsIn entries))
      (hearly : state.phase ≠ .live →
        ∀ limit, monitor.timing.bootstrapLimit = some limit →
          clockAfter origin.now.instant (pingsIn entries) -
            enteredAfter origin.phaseEntered entries < limit)
      (hsteps : steps + 1 ≤
        (pingsIn entries).length + passesBegun (pingsIn entries)) :
      Timed monitor origin steps ⟨state, .pause⟩ entries
  | idle {state : State σ} {entries : List Entry}
      (hstands : Stands monitor origin state entries)
      (hphase : state.phase = .live) (hempty : monitor.primaries = [])
      (hlive : .phase .live ∈ callbacksIn entries) :
      Timed monitor origin steps ⟨state, .pause⟩ entries
  | ended {state : State σ} {exit : RunExit} {entries : List Entry}
      (hstands : Stands monitor origin state entries)
      (hlimit : LimitReached monitor origin entries exit)
      (hwithin : exit = .shutdown → WithinLimit monitor origin entries) :
      Timed monitor origin steps ⟨state, .ended exit⟩ entries

def IsTimed
    (monitor : Monitor σ) (origin : State σ) (steps : Nat)
    (run : Run σ) : Prop :=
  ∃ entries, Timed monitor origin steps run entries

section Standing

variable {monitor : Monitor σ} {origin state other : State σ}
  {entries more : List Entry}

theorem Stands.refl : Stands monitor origin origin [] where
  transcript := rfl
  timeline := by
    intro before entry after hsplit
    simp at hsplit
  entered := rfl
  timeout := rfl

theorem Stands.moveTo
    (hstands : Stands monitor origin state entries) (moment : Moment) :
    Stands monitor origin (state.moveTo moment) entries where
  transcript := hstands.transcript
  timeline := hstands.timeline
  entered := hstands.entered
  timeout := hstands.timeout

theorem Stands.writes
    (hstands : Stands monitor origin state entries)
    (hwrites : Writes state other more)
    (htimeline : Timeline monitor origin (entries ++ more)) :
    Stands monitor origin other (entries ++ more) where
  transcript := by simp [hwrites.transcript, hstands.transcript]
  timeline := htimeline
  entered := by rw [hwrites.entered, hstands.entered, enteredAfter_append]
  timeout := hwrites.timeout.trans hstands.timeout

theorem LimitReached.of_not_limit
    {exit : RunExit}
    (hexit : ∀ phase probe elapsed last,
      exit ≠ .bootstrapTimedOut phase probe elapsed last) :
    LimitReached monitor origin entries exit :=
  fun phase probe elapsed last heq => absurd heq (hexit phase probe elapsed last)

theorem withinLimit_of_entered
    {phase : Phase} (hentered : .phase phase ∈ callbacksIn entries)
    (hearlier : ∀ last, (pingsIn entries).getLast? = some last →
      last.phase ≠ .live → last.phase.rank < phase.rank) :
    WithinLimit monitor origin entries := by
  intro last hlast _ _ hbefore hnext
  exact absurd hentered (hnext phase (hearlier last hlast hbefore))

theorem withinLimit_of_live
    (hlive : .phase .live ∈ callbacksIn entries) :
    WithinLimit monitor origin entries := by
  apply withinLimit_of_entered hlive
  intro last _ hphase
  cases hlast : last.phase with
  | dependencyWait => exact Nat.zero_lt_two
  | bootstrap => exact Nat.one_lt_two
  | live => exact absurd hlast hphase

theorem withinLimit_of_index_lt
    {last : Ping} (hlast : (pingsIn entries).getLast? = some last)
    (hindex : last.position.index + 1 < monitor.countIn last.phase) :
    WithinLimit monitor origin entries := by
  intro other hother _ hfull
  rw [hlast, Option.some.injEq] at hother
  subst other
  exact absurd hfull (Nat.ne_of_lt hindex)

theorem withinLimit_of_not_answered
    {last : Ping} (hlast : (pingsIn entries).getLast? = some last)
    (hunanswered : ¬last.Answered) : WithinLimit monitor origin entries := by
  intro other hother hanswered
  rw [hlast, Option.some.injEq] at hother
  subst other
  exact absurd hanswered hunanswered

theorem withinLimit_of_early
    {phase : Phase} (hlast : resumes (pingsIn entries) phase 0 = true)
    (hearly : phase ≠ .live →
      ∀ limit, monitor.timing.bootstrapLimit = some limit →
        clockAfter origin.now.instant (pingsIn entries) -
          enteredAfter origin.phaseEntered entries < limit) :
    WithinLimit monitor origin entries := by
  intro last hfound _ _ hphase _
  have hsame : last.phase = phase := by simpa [resumes, hfound] using hlast
  exact hearly (hsame ▸ hphase)

theorem WithinLimit.farewell
    (hwithin : WithinLimit monitor origin entries) (instant : Nat)
    (verdict : Verdict) :
    WithinLimit monitor origin
      (entries ++ [.told instant .unregister verdict]) := by
  have hpings :
      pingsIn (entries ++ [.told instant .unregister verdict]) =
        pingsIn entries := by
    simp
  have hentered :
      enteredAfter origin.phaseEntered
          (entries ++ [.told instant .unregister verdict]) =
        enteredAfter origin.phaseEntered entries := by
    rw [enteredAfter_append]
    rfl
  unfold WithinLimit
  rw [hpings, hentered]
  intro last hlast hanswered hfull hphase hnext
  apply hwithin last hlast hanswered hfull hphase
  intro next hrank hmem
  exact hnext next hrank (by simp [hmem])

/-- A run that has opened a phase at the instant of the last ping is in time,
if that ping was made in an earlier phase. -/
theorem Opens.isTimed
    {run : Run σ} {earliest : Phase}
    (hopens : Opens monitor state earliest run more)
    (hstands : Stands monitor origin state entries)
    (hnow : state.now.instant =
      clockAfter origin.now.instant (pingsIn entries))
    (hearlier : ∀ last, (pingsIn entries).getLast? = some last →
      last.phase.rank < earliest.rank)
    {steps : Nat}
    (hsteps : steps ≤
      (pingsIn entries).length + passesBegun (pingsIn entries)) :
    IsTimed monitor origin steps run := by
  cases hopens with
  | @ping other pass more hwrites hphase hlater hentered hfirst hprobe =>
      have hpings : pingsIn (entries ++ more) = pingsIn entries := by
        rw [pingsIn_append, hwrites.pingsIn_eq, List.append_nil]
      have hfresh : resumes (pingsIn entries) pass.phase pass.index = false := by
        unfold resumes
        cases hlast : (pingsIn entries).getLast? with
        | none => simp
        | some last =>
            have hrank := hearlier last hlast
            have hne : last.phase ≠ pass.phase := by
              intro heq
              rw [heq, hphase] at hrank
              omega
            simp [hne]
      refine ⟨entries ++ more,
        .ping (hstands.writes hwrites (hstands.timeline.writes hwrites hnow))
          hphase hprobe ?_ ?_ ?_ ?_⟩
      · rw [hpings, hfresh, hwrites.now, hnow]
        rfl
      · rw [hpings, hfresh]
        simp
      · have hopened : .phase other.phase ∈ callbacksIn (entries ++ more) := by
          simp [hentered]
        apply withinLimit_of_entered hopened
        rw [hpings]
        intro last hlast _
        exact Nat.lt_of_lt_of_le (hearlier last hlast) hlater
      · rw [hpings, hfirst]
        exact hsteps
  | idle hwrites hphase hempty hlive =>
      exact ⟨entries ++ more,
        .idle (hstands.writes hwrites (hstands.timeline.writes hwrites hnow))
          hphase hempty (by simp [hlive])⟩
  | completed hwrites =>
      exact ⟨entries ++ more,
        .ended (hstands.writes hwrites (hstands.timeline.writes hwrites hnow))
          (.of_not_limit (by simp)) nofun⟩

theorem Turn.isTimed
    {run : Run σ} {index : Nat}
    (hturn : Turn monitor state (index + 1) run more) {ping : Ping}
    (hstands : Stands monitor origin state (entries ++ [.pinged ping]))
    (hphase : ping.phase = state.phase) (hindex : ping.position.index = index)
    (hprobes : 0 < monitor.countIn state.phase)
    (hnow : state.now.instant = ping.answered) {steps : Nat}
    (hsteps : steps + 1 ≤
      (pingsIn (entries ++ [.pinged ping])).length +
        passesBegun (pingsIn (entries ++ [.pinged ping]))) :
    IsTimed monitor origin steps run := by
  have hlist : pingsIn (entries ++ [.pinged ping]) = pingsIn entries ++ [ping] := by
    simp
  have hclock : state.now.instant =
      clockAfter origin.now.instant
        (pingsIn (entries ++ [.pinged ping])) := by
    rw [hlist, clockAfter_concat, hnow]
  have hpings : ∀ {other : State σ} {more : List Entry},
      Stays state other more →
        pingsIn (entries ++ [.pinged ping] ++ more) =
          pingsIn (entries ++ [.pinged ping]) := by
    intro other more hstays
    rw [pingsIn_append, hstays.pingsIn_eq, List.append_nil]
  have hgrown : ∀ {other : State σ} {more : List Entry},
      Stays state other more →
        Stands monitor origin other (entries ++ [.pinged ping] ++ more) := by
    intro other more hstays
    exact hstands.writes hstays.toWrites
      (hstands.timeline.writes hstays.toWrites hclock)
  have hentered : ∀ {other : State σ} {more : List Entry},
      Stays state other more →
        enteredAfter origin.phaseEntered
            (entries ++ [.pinged ping] ++ more) =
          state.phaseEntered := by
    intro other more hstays
    rw [← (hgrown hstays).entered, hstays.phaseEntered]
  cases hturn with
  | @next other pass more hstays hpass hnext hprobe =>
      refine ⟨_, .ping (hgrown hstays) (hpass.trans hstays.phase.symm) hprobe
        ?_ ?_ ?_ ?_⟩
      · rw [hpings hstays, hnext, resumes_succ, hstays.now, hclock]
        rfl
      · rw [hnext, resumes_succ]
        simp
      · obtain ⟨probe, hprobe⟩ := hprobe
        have hrange := Monitor.index_lt_countIn hprobe
        rw [hnext, hpass, ← hphase, ← hindex] at hrange
        apply withinLimit_of_index_lt _ hrange
        rw [hpings hstays, hlist, List.getLast?_concat]
      · rw [hpings hstays, hnext]
        exact hsteps
  | @pause other more hstays _ hearly =>
      refine ⟨_, .pause (hgrown hstays) ?_ ?_ ?_ ?_ ?_⟩
      · rw [hstays.phase]
        exact hprobes
      · rw [hpings hstays, hlist, hstays.phase, resumes_concat, hphase]
        exact beq_self_eq_true _
      · rw [hpings hstays, hstays.now, hclock]
      · rw [hpings hstays, hentered hstays, ← hclock, hstays.phase]
        exact hearly
      · rw [hpings hstays]
        exact hsteps
  | opened hopens _ hlater =>
      apply hopens.isTimed hstands hclock _ (Nat.le_of_succ_le hsteps)
      intro last hlast
      rw [hlist, List.getLast?_concat, Option.some.injEq] at hlast
      subst last
      rw [hphase]
      exact hlater
  | @ended other exit more hstays hexit hlimit =>
      refine ⟨_, .ended (hgrown hstays) ?_ fun heq => absurd heq hexit⟩
      intro phase probe elapsed last heq
      rw [hpings hstays, hentered hstays, ← hclock]
      exact hlimit phase probe elapsed last heq

end Standing

/-! ## Steps -/

theorem Watchdog.le_answered_race
    (timeout : Nat) (now : Moment) (probe : Probe) (call : Call) :
    now.instant ≤ (race timeout now probe call).answered.instant := by
  unfold race
  split
  · split
    · simp
    · simp [late]
  · simp [late]

/-- A shutdown is seen at once, or while the run still waits. -/
theorem Run.stoppedBefore_bounds
    {stop : Option Nat} {now wake moment : Moment}
    (hstopped : Run.stoppedBefore stop now wake = some moment) :
    moment = now ∨
      (now.instant < moment.instant ∧ moment.instant < wake.instant) := by
  unfold Run.stoppedBefore at hstopped
  cases stop with
  | none => exact nomatch hstopped
  | some time =>
      simp only [Option.ite_none_right_eq_some, Option.some.injEq] at hstopped
      obtain ⟨hbefore, rfl⟩ := hstopped
      by_cases hle : time ≤ now.instant
      · exact .inl (if_pos hle)
      · have hseen : now.seen time = { instant := time, settled := true } :=
          if_neg hle
        rw [hseen]
        exact .inr ⟨by simpa using hle, hbefore.resolve_left hle⟩

section Steps

variable {monitor : Monitor σ} {world : World} {origin state : State σ}
  {entries : List Entry} {steps : Nat}

theorem isTimed_shutDown
    (hstands : Stands monitor origin state entries)
    (hwithin : WithinLimit monitor origin entries) :
    IsTimed monitor origin steps (Run.shutDown monitor state) := by
  unfold Run.shutDown State.close
  split
  next =>
    exact ⟨entries, .ended hstands (.of_not_limit (by simp)) fun _ => hwithin⟩
  next =>
    have htold :
        Stays state
          (State.tell { state with closed := true } monitor .unregister) _ :=
      (Stays.refl.congr rfl rfl rfl rfl rfl :
        Stays state { state with closed := true } []).tell monitor _ (by simp)
    refine ⟨_, .ended (hstands.writes htold.toWrites ?_)
      (.of_not_limit (by simp)) fun _ => hwithin.farewell _ _⟩
    apply forall_split_concat hstands.timeline
    intro hunregister
    exact absurd rfl hunregister

/-- A pause in live without a probe leads to the next. -/
theorem isTimed_endLive
    (hstands : Stands monitor origin state entries)
    (hphase : state.phase = .live) (hempty : monitor.primaries = [])
    (hlive : .phase .live ∈ callbacksIn entries) (clean : Bool) :
    IsTimed monitor origin steps (Run.endLive monitor state clean) := by
  obtain ⟨other, more, hstays, hmore, hend⟩ :=
    endLive_cases monitor state clean
  have htimeline : Timeline monitor origin (entries ++ more) := by
    rcases hmore with rfl | ⟨verdict, rfl⟩
    · rw [List.append_nil]
      exact hstands.timeline
    · apply forall_split_concat hstands.timeline
      intro _ hprimaries
      exact absurd hempty (hprimaries rfl)
  have hgrown := hstands.writes hstays.toWrites htimeline
  rcases hend with hpause | hended
  · rw [hpause]
    exact ⟨_, .idle hgrown (hstays.phase.trans hphase) hempty (by simp [hlive])⟩
  · rw [hended]
    exact ⟨_, .ended hgrown (.of_not_limit (by simp)) nofun⟩

theorem isTimed_stepPause
    (stop : Option Nat) (hstands : Stands monitor origin state entries)
    (hwithin : WithinLimit monitor origin entries)
    (hresume : ∀ wake : Moment,
      wake.instant = state.now.instant + monitor.timing.probeInterval →
        IsTimed monitor origin (steps + 1)
          (Run.resume monitor (state.moveTo wake))) :
    IsTimed monitor origin (steps + 1) (Run.stepPause monitor stop state) := by
  unfold Run.stepPause
  simp only
  split
  next moment hstopped => exact isTimed_shutDown (hstands.moveTo moment) hwithin
  next hwoken => exact hresume _ (Moment.instant_timer _ _)

@[simp] theorem Run.phaseEntered_recordPing (state : State σ) (ping : Ping) :
    (Run.recordPing state ping).phaseEntered = state.phaseEntered := by
  unfold Run.recordPing State.modifySlot
  cases ping.position with
  | dependency index => rfl
  | primary index => rfl

theorem Stands.pinged
    (hstands : Stands monitor origin state entries) {ping : Ping}
    (htimely : ping.Timely monitor origin entries) :
    Stands monitor origin (Run.recordPing state ping)
      (entries ++ [.pinged ping]) where
  transcript := by simp [Run.recordPing, State.note, hstands.transcript]
  timeline := forall_split_concat hstands.timeline htimely
  entered := by simp [hstands.entered]
  timeout := by simp [Run.recordPing, State.note, hstands.timeout]

/-- Every ping that is made in a pass begins now; only its end differs. -/
theorem timely_of_pass
    {pass : Pass} {ping : Ping}
    (hnow : state.now.instant =
      clockAfter origin.now.instant (pingsIn entries) +
        if resumes (pingsIn entries) pass.phase pass.index then
          monitor.timing.probeInterval
        else 0)
    (hearly :
      resumes (pingsIn entries) pass.phase pass.index = true →
        pass.phase ≠ .live →
          ∀ limit, monitor.timing.bootstrapLimit = some limit →
            clockAfter origin.now.instant (pingsIn entries) -
              enteredAfter origin.phaseEntered entries < limit)
    (hposition : ping.position = pass.position)
    (hlive : ping.live = pass.isLive)
    (hstarted : ping.started = state.now.instant)
    (hle : state.now.instant ≤ ping.answered)
    (hbound :
      ping.answered ≤ state.now.instant + origin.watchdog.timeout) :
    ping.Timely monitor origin entries := by
  have hphase := Ping.phase_eq_of_pass hposition hlive
  have hindex : ping.position.index = pass.index := by
    rw [hposition, Pass.index_position]
  constructor
  case started => rw [hstarted, hnow, hphase, hindex]
  case started_le =>
    rw [hstarted]
    exact hle
  case answered_le =>
    rw [hstarted]
    exact hbound
  case early =>
    rw [hphase, hindex]
    exact hearly

/-- A ping that was answered leads to a turn at that instant. -/
theorem isTimed_answered
    {pass : Pass} (hstands : Stands monitor origin state entries)
    (hphase : pass.phase = state.phase) {probe : Probe}
    (hprobe : monitor.probe? pass.position = some probe)
    (hsteps : steps + (if pass.index = 0 then 0 else 1) ≤
      (pingsIn entries).length + passesBegun (pingsIn entries))
    {number : Nat} {watch : Watch} {watchdog : Watchdog}
    (hping : (Run.pingOf state pass number watch).Timely monitor origin entries)
    (htimeout : watchdog.timeout = origin.watchdog.timeout)
    (safeMode : Bool) :
    IsTimed monitor origin (steps + 1)
      (Run.answer monitor
        { Run.recordPing state (Run.pingOf state pass number watch) with
          now := watch.answered, watchdog }
        pass probe safeMode watch.outcome) := by
  have hrecorded := hstands.pinged hping
  have hlater :
      Stands monitor origin
        { Run.recordPing state (Run.pingOf state pass number watch) with
          now := watch.answered, watchdog }
        (entries ++ [.pinged (Run.pingOf state pass number watch)]) :=
    { transcript := hrecorded.transcript
      timeline := hrecorded.timeline
      entered := hrecorded.entered
      timeout := htimeout }
  have hpassPhase :
      State.phase
          { Run.recordPing state (Run.pingOf state pass number watch) with
            now := watch.answered, watchdog } =
        pass.phase := by
    simp [Run.recordPing, hphase]
  have hindex :
      (Run.pingOf state pass number watch).position.index = pass.index :=
    pass.index_position
  obtain ⟨more, hturn⟩ :=
    turn_answer monitor hpassPhase probe safeMode watch.outcome
  apply hturn.isTimed hlater
  · exact (Ping.phase_eq_of_pass rfl rfl).trans hpassPhase.symm
  · exact hindex
  · exact hpassPhase.symm ▸ Nat.zero_lt_of_lt (Monitor.index_lt_countIn hprobe)
  · rfl
  · rw [pingsIn_append, pingsIn_pinged_cons, pingsIn_nil,
      passesBegun_concat, List.length_append, List.length_singleton, hindex]
    split at hsteps
    next hfirst =>
      rw [if_pos hfirst]
      omega
    next hfurther =>
      rw [if_neg hfurther]
      omega

/-- A ping that a shutdown cuts short is written down before the farewell. -/
theorem isTimed_cutShort
    (hstands : Stands monitor origin state entries) {ping : Ping}
    (hping : ping.Timely monitor origin entries) (houtcome : ping.outcome = none)
    (moment : Moment) :
    IsTimed monitor origin steps
      (Run.shutDown monitor ((Run.recordPing state ping).moveTo moment)) := by
  have hlast : (pingsIn (entries ++ [.pinged ping])).getLast? = some ping := by
    simp
  exact isTimed_shutDown ((hstands.pinged hping).moveTo moment)
    (withinLimit_of_not_answered hlast (Ping.not_answered_of_none houtcome))

theorem isTimed_stepPing
    (stop : Option Nat) {pass : Pass}
    (hstands : Stands monitor origin state entries)
    (hphase : pass.phase = state.phase) {probe : Probe}
    (hprobe : monitor.probe? pass.position = some probe)
    (hnow : state.now.instant =
      clockAfter origin.now.instant (pingsIn entries) +
        if resumes (pingsIn entries) pass.phase pass.index then
          monitor.timing.probeInterval
        else 0)
    (hearly :
      resumes (pingsIn entries) pass.phase pass.index = true →
        pass.phase ≠ .live →
          ∀ limit, monitor.timing.bootstrapLimit = some limit →
            clockAfter origin.now.instant (pingsIn entries) -
              enteredAfter origin.phaseEntered entries < limit)
    (hwithin : WithinLimit monitor origin entries)
    (hsteps : steps + (if pass.index = 0 then 0 else 1) ≤
      (pingsIn entries).length + passesBegun (pingsIn entries)) :
    IsTimed monitor origin (steps + 1)
      (Run.stepPing monitor world stop state pass probe) := by
  unfold Run.stepPing
  generalize ((state.slot? pass.position).map (·.calls)).getD 0 = number
  have hrace := Watchdog.fst_ping state.watchdog state.now probe
    (world.call pass.position number)
  have htimeout := Watchdog.timeout_snd_ping state.watchdog state.now probe
    (world.call pass.position number)
  have hle := Watchdog.le_answered_race state.watchdog.timeout state.now probe
    (world.call pass.position number)
  have hbound := Watchdog.answered_race_le state.watchdog.timeout state.now
    probe (world.call pass.position number)
  rw [← hrace] at hle hbound
  rw [hstands.timeout] at htimeout hbound
  simp only
  generalize state.watchdog.ping state.now probe
    (world.call pass.position number) = watched at hrace htimeout hle hbound ⊢
  obtain ⟨watch, watchdog⟩ := watched
  simp only at hrace htimeout hle hbound ⊢
  split
  next moment hstopped =>
    split
    next hsame => exact isTimed_shutDown (hstands.moveTo moment) hwithin
    next hlater =>
      obtain ⟨hafter, hbefore⟩ :=
        (Run.stoppedBefore_bounds hstopped).resolve_left hlater
      have hcut :
          (Run.cutPing state pass number (world.call pass.position number)
            moment.instant).Timely monitor origin entries :=
        timely_of_pass hnow hearly rfl rfl rfl (Nat.le_of_lt hafter)
          (by simp only [Run.cutPing]; omega)
      exact isTimed_cutShort hstands hcut rfl moment
  next hanswered =>
    have hping :
        (Run.pingOf state pass number watch).Timely monitor origin entries :=
      timely_of_pass hnow hearly rfl rfl rfl hle hbound
    exact isTimed_answered hstands hphase hprobe hsteps hping htimeout _

end Steps

section Runs

variable {monitor : Monitor σ} {world : World} {origin : State σ}

theorem isTimed_step
    (world : World) (stop : Option Nat) {steps : Nat} {run : Run σ}
    (hrun : IsTimed monitor origin steps run) :
    IsTimed monitor origin (steps + 1) (Run.step monitor world stop run) := by
  obtain ⟨entries, htimed⟩ := hrun
  cases htimed with
  | ping hstands hphase hprobe hnow hearly hwithin hsteps =>
      obtain ⟨probe, hprobe⟩ := hprobe
      simp only [Run.step, hprobe]
      exact isTimed_stepPing stop hstands hphase hprobe hnow hearly hwithin
        hsteps
  | @pause state entries hstands hprobes hlast hnow hearly hsteps =>
      have hwithin : WithinLimit monitor origin entries :=
        withinLimit_of_early hlast hearly
      apply isTimed_stepPause stop hstands hwithin
      intro wake hwake
      have hphase : (Pass.first state.phase).phase = state.phase := by
        cases state.phase <;> rfl
      have hindex : (Pass.first state.phase).index = 0 := by
        cases state.phase <;> rfl
      have hposition :
          (Pass.first state.phase).position = state.phase.place 0 := by
        cases state.phase <;> rfl
      have hresumed :
          Run.resume monitor (state.moveTo wake) =
            ⟨state.moveTo wake, .ping (Pass.first state.phase)⟩ :=
        resume_eq hprobes
      rw [hresumed]
      refine ⟨entries,
        .ping (hstands.moveTo wake) hphase ?_ ?_ ?_ hwithin ?_⟩
      · rw [hposition]
        exact Monitor.exists_probe_of_lt _ hprobes
      · rw [hphase, hindex, hlast, ← hnow]
        exact hwake
      · rw [hphase]
        exact fun _ => hearly
      · rw [hindex]
        exact hsteps
  | @idle state entries hstands hphase hempty hlive =>
      apply isTimed_stepPause stop hstands (withinLimit_of_live hlive)
      intro wake _
      have hresumed :
          Run.resume monitor (state.moveTo wake) =
            Run.endLive monitor (state.moveTo wake) true :=
        resume_idle hphase hempty
      rw [hresumed]
      exact isTimed_endLive (hstands.moveTo wake) hphase hempty hlive true
  | ended hstands hlimit hwithin =>
      exact ⟨entries, .ended hstands hlimit hwithin⟩

theorem isTimed_play
    (world : World) (stop : Option Nat) (fuel : Nat) {steps : Nat} {run : Run σ}
    (hrun : IsTimed monitor origin steps run) :
    IsTimed monitor origin (steps + fuel)
      (Run.play monitor world stop fuel run) := by
  induction fuel generalizing steps run with
  | zero => exact hrun
  | succ fuel ih =>
      have hnext := ih (isTimed_step world stop hrun)
      rw [Run.play_succ, Nat.add_comm fuel 1, ← Nat.add_assoc]
      exact hnext

theorem isTimed_begin (monitor : Monitor σ) (origin : State σ) :
    IsTimed monitor origin 0 (Run.begin monitor origin) := by
  obtain ⟨entries, hopens⟩ :=
    opens_begin monitor origin
  exact hopens.isTimed .refl rfl (by simp) (Nat.zero_le _)

/-- A run in time: its entries lie on a timeline, an end by a time limit tells
the time that has passed, and without such an end the limit was not reached.  A
run that has not ended and is not live yet has made as many steps as it can have
made pings and begun passes. -/
structure RunTimed
    (monitor : Monitor σ) (origin : State σ) (fuel : Nat)
    (exit : Option RunExit) (entries : List Entry) : Prop where
  timeline : Timeline monitor origin entries
  limit : ∀ found, exit = some found →
    LimitReached monitor origin entries found
  within : exit = none ∨ exit = some .shutdown →
    WithinLimit monitor origin entries
  progress : exit = none →
    .phase .live ∈ callbacksIn entries ∨
      fuel ≤ (pingsIn entries).length + passesBegun (pingsIn entries)

theorem run_timed
    {stop : Option Nat} {fuel : Nat} {exit : Option RunExit} {final : State σ}
    (hrun : monitor.run world stop fuel origin = (.ok exit, final)) :
    RunTimed monitor origin fuel exit (final.since origin) := by
  obtain ⟨control, hplayed, rfl⟩ := played_of_run hrun
  obtain ⟨entries, htimed⟩ :=
    isTimed_play world stop fuel (isTimed_begin monitor origin)
  rw [Nat.zero_add, hplayed] at htimed
  cases htimed with
  | ping hstands hphase hprobe hnow hearly hwithin hsteps =>
      rw [State.since_eq hstands.transcript]
      exact
        { timeline := hstands.timeline
          limit := fun _ hnone => nomatch hnone
          within := fun _ => hwithin
          progress := fun _ => .inr (Nat.le_of_add_right_le hsteps) }
  | pause hstands hprobes hlast hnow hearly hsteps =>
      rw [State.since_eq hstands.transcript]
      exact
        { timeline := hstands.timeline
          limit := fun _ hnone => nomatch hnone
          within := fun _ => withinLimit_of_early hlast hearly
          progress := fun _ => .inr (Nat.le_of_add_right_le hsteps) }
  | idle hstands hphase hempty hlive =>
      rw [State.since_eq hstands.transcript]
      exact
        { timeline := hstands.timeline
          limit := fun _ hnone => nomatch hnone
          within := fun _ => withinLimit_of_live hlive
          progress := fun _ => .inl hlive }
  | ended hstands hlimit hwithin =>
      rw [State.since_eq hstands.transcript]
      exact
        { timeline := hstands.timeline
          limit := fun _ hsome => Option.some.inj hsome ▸ hlimit
          within := fun hstop =>
            hwithin (Option.some.inj (hstop.resolve_left nofun))
          progress := fun hnone => nomatch hnone }

end Runs

end HealthMonitor
