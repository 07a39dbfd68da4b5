import HealthMonitor.Proofs.Advance
import HealthMonitor.Proofs.Shutdown

/-!
# Heartbeats

A heartbeat repeats the status of the last live ping that came in.  It is sent
after the reports of a live ping that let the run go on, and nowhere else, and
exactly if no heartbeat was sent for as long as the report interval.  The main
statement is `run_heartbeatRecord`.
-/

namespace HealthMonitor

variable {σ : Type}

/-! ## Heartbeats and live statuses of a list -/

/-- The status of a live ping as it was reported, if one came in. -/
def Ping.liveStatus? (ping : Ping) : Option Status :=
  if ping.live then ping.status?.map (·.inPhase .live) else none

def Entry.beat? : Entry → Option Nat
  | told instant (.heartbeat _) _ => some instant
  | _ => none

def beatsIn (entries : List Entry) : List Nat :=
  entries.filterMap Entry.beat?

theorem lastOf?_beat (entries : List Entry) :
    lastOf? Entry.beat? entries = (beatsIn entries).getLast? := rfl

theorem phase_of_liveStatus?
    {pings : List Ping} {status : Status}
    (hlatest : lastOf? Ping.liveStatus? pings = some status) :
    status.phase = some .live := by
  obtain ⟨ping, -, hstatus⟩ := exists_of_lastOf? hlatest
  unfold Ping.liveStatus? at hstatus
  split at hstatus
  next =>
    obtain ⟨found, -, rfl⟩ := Option.map_eq_some_iff.mp hstatus
    rfl
  next => exact nomatch hstatus

theorem beatsIn_append (entries more : List Entry) :
    beatsIn (entries ++ more) = beatsIn entries ++ beatsIn more :=
  List.filterMap_append

/-! ## What is due -/

/-- Whether a heartbeat is due after `ping`, which comes after `before`: there is
a live status to repeat, and no heartbeat was sent in the last `interval`
milliseconds. -/
def BeatDue (interval : Nat) (before : List Entry) (ping : Ping) : Prop :=
  lastOf? Ping.liveStatus? (pingsIn before ++ [ping]) ≠ none ∧
    ∀ earlier, lastOf? Entry.beat? before = some earlier →
      earlier + interval ≤ ping.answered

def BeginsWithBeat (instant : Nat) (entries : List Entry) : Prop :=
  ∃ status verdict rest,
    entries = .told instant (.heartbeat status) verdict :: rest

/-- A heartbeat at `instant` with `status` after `before` is where it belongs:
right after the reports of a live ping that let the run go on. -/
def BeatBelongs
    (monitor : Monitor σ) (before : List Entry) (instant : Nat)
    (status : Status) : Prop :=
  ∃ front last ping reports,
    before = front ++ .pinged ping :: reports ∧ ping.live = true ∧
      Reports monitor last ping .proceed reports ∧ instant = ping.answered ∧
      BeatDue monitor.timing.reportInterval front ping ∧
      lastOf? Ping.liveStatus? (pingsIn before) = some status

def Entry.BeatsRightly
    (monitor : Monitor σ) (before : List Entry) : Entry → Prop
  | told instant (.heartbeat status) _ =>
      BeatBelongs monitor before instant status
  | _ => True

/-- What comes after a live ping between `before` and `after`.  If its reports do
not end the run, a heartbeat follows them when one is due. -/
def Ping.IsFollowed
    (monitor : Monitor σ) (run : Run σ) (before : List Entry) (ping : Ping)
    (after : List Entry) : Prop :=
  ∃ last verdict reports rest,
    after = reports ++ rest ∧ Reports monitor last ping verdict reports ∧
      (verdict = .stop → rest = [] ∧ ∃ exit, run.control = .ended exit) ∧
      (verdict = .proceed →
        BeatDue monitor.timing.reportInterval before ping →
          BeginsWithBeat ping.answered rest)

/-- A run that has written `entries` since its start and kept to the pace of
heartbeats. -/
structure Pulsing
    (monitor : Monitor σ) (origin : State σ) (run : Run σ)
    (entries : List Entry) : Prop where
  transcript : run.state.transcript = entries.reverse ++ origin.transcript
  latest : run.state.latest = lastOf? Ping.liveStatus? (pingsIn entries)
  lastBeat : run.state.lastHeartbeat = lastOf? Entry.beat? entries
  past : ∀ earlier, lastOf? Entry.beat? entries = some earlier →
    earlier ≤ run.state.now.instant
  followed : ∀ before ping after, entries = before ++ .pinged ping :: after →
    ping.live = true → ping.Answered →
      ping.IsFollowed monitor run before after
  rightly : ∀ before entry after, entries = before ++ entry :: after →
    entry.BeatsRightly monitor before
  spaced : (beatsIn entries).Pairwise fun earlier later =>
    earlier + monitor.timing.reportInterval ≤ later

/-! ## What a step writes -/

/-- Neither a heartbeat nor an answered live ping. -/
def Entry.IsAside : Entry → Prop
  | told _ callback _ => callback.isHeartbeat = false
  | pinged ping => ping.live = true → ¬ping.Answered
  | _ => True

/-- The heartbeat that is sent at `now` if it is due by what is remembered. -/
inductive Beat
    (interval now : Nat) (latest : Option Status) (lastBeat : Option Nat) :
    List Entry → Prop
  | sent {status : Status} {verdict : Verdict} (hlatest : latest = some status)
      (hdue : ∀ earlier, lastBeat = some earlier → interval ≤ now - earlier) :
      Beat interval now latest lastBeat
        [.told now (.heartbeat status) verdict]
  | held
      (hnot : latest ≠ none →
        ∃ earlier, lastBeat = some earlier ∧ now - earlier < interval) :
      Beat interval now latest lastBeat []

/-- What one step from `state` to a run writes, as far as heartbeats go. -/
inductive Pulse (monitor : Monitor σ) (state : State σ) :
    Run σ → List Entry → Prop
  | aside {next : Run σ} {entries : List Entry}
      (haside : ∀ entry ∈ entries, entry.IsAside)
      (hlatest : next.state.latest = state.latest)
      (hbeat : next.state.lastHeartbeat = state.lastHeartbeat) :
      Pulse monitor state next entries
  | stopped {other : State σ} {exit : RunExit} {ping : Ping}
      {last : Option Status} {reports : List Entry} (hlive : ping.live = true)
      (hreports : Reports monitor last ping .stop reports)
      (hlatest : other.latest = ping.liveStatus?.or state.latest)
      (hbeat : other.lastHeartbeat = state.lastHeartbeat) :
      Pulse monitor state ⟨other, .ended exit⟩ (.pinged ping :: reports)
  | goesOn {next : Run σ} {ping : Ping} {last : Option Status}
      {reports beat rest : List Entry} (hlive : ping.live = true)
      (hreports : Reports monitor last ping .proceed reports)
      (hbeat :
        Beat monitor.timing.reportInterval ping.answered
          (ping.liveStatus?.or state.latest) state.lastHeartbeat beat)
      (hkept :
        next.state.lastHeartbeat =
          (lastOf? Entry.beat? beat).or state.lastHeartbeat)
      (hnow : ping.answered = next.state.now.instant)
      (hlatest : next.state.latest = ping.liveStatus?.or state.latest)
      (haside : ∀ entry ∈ rest, entry.IsAside) :
      Pulse monitor state next (.pinged ping :: (reports ++ (beat ++ rest)))

section Pulses

variable {monitor : Monitor σ} {world : World} {state middle other : State σ}
  {run next : Run σ} {blocker : Option Position} {entries more : List Entry}

theorem Entry.IsNews.isAside
    {entry : Entry} (hnews : entry.IsNews monitor blocker state) :
    entry.IsAside := by
  cases entry with
  | told instant callback verdict =>
      obtain ⟨-, hcallback | ⟨position, -, rfl⟩⟩ := hnews
      · cases callback with
        | heartbeat status => exact nomatch hcallback
        | _ => rfl
      · rfl
  | pinged ping => exact hnews.elim
  | prepared position => trivial
  | beganBootstrap position => trivial
  | endedBootstrap position => trivial

theorem Advances.isAside
    (hadvances : Advances monitor blocker state other entries) :
    ∀ entry ∈ entries, entry.IsAside :=
  fun entry hmem => (hadvances.news entry hmem).isAside

theorem Advances.pulse
    (hadvances : Advances monitor blocker middle next.state entries)
    (hlatest : middle.latest = state.latest)
    (hbeat : middle.lastHeartbeat = state.lastHeartbeat) :
    Pulse monitor state next entries :=
  .aside hadvances.isAside (hadvances.latest.trans hlatest)
    (hadvances.lastHeartbeat.trans hbeat)

/-- The same after a ping that is no answered live one. -/
theorem Advances.pulse_pinged
    (hadvances : Advances monitor blocker middle next.state entries)
    {ping : Ping} (hping : ping.live = true → ¬ping.Answered)
    (htranscript : middle.transcript = .pinged ping :: state.transcript)
    (hlatest : middle.latest = state.latest)
    (hbeat : middle.lastHeartbeat = state.lastHeartbeat) :
    ∃ entries,
      next.state.transcript = entries.reverse ++ state.transcript ∧
        Pulse monitor state next entries := by
  refine ⟨.pinged ping :: entries, ?_, ?_⟩
  · rw [hadvances.transcript, htranscript]
    simp
  · exact .aside (List.forall_mem_cons.mpr ⟨hping, hadvances.isAside⟩)
      (hadvances.latest.trans hlatest) (hadvances.lastHeartbeat.trans hbeat)

theorem heartbeat_cases (monitor : Monitor σ) (state : State σ) :
    ∃ beat,
      Beat monitor.timing.reportInterval state.now.instant state.latest
          state.lastHeartbeat beat ∧
        (Run.heartbeat monitor state).lastHeartbeat =
          (lastOf? Entry.beat? beat).or state.lastHeartbeat ∧
        (Run.heartbeat monitor state).transcript =
          beat.reverse ++ state.transcript ∧
        (Run.heartbeat monitor state).latest = state.latest ∧
        (Run.heartbeat monitor state).now = state.now := by
  unfold Run.heartbeat
  simp only
  split
  next status hdue hlatest =>
    refine ⟨[.told state.now.instant (.heartbeat status)
      (state.verdict monitor (.heartbeat status))], .sent hlatest ?_,
      rfl, rfl, hlatest.symm ▸ rfl, rfl⟩
    intro earlier hearlier
    simpa [hearlier] using hdue
  next hheld =>
    refine ⟨[], .held ?_, rfl, rfl, rfl, rfl⟩
    intro hlatest
    obtain ⟨status, hstatus⟩ := Option.ne_none_iff_exists'.mp hlatest
    cases hbefore : state.lastHeartbeat with
    | none => exact absurd hstatus (hheld status (by simp [hbefore]))
    | some earlier =>
        refine ⟨earlier, rfl, Nat.lt_of_not_le fun hle => ?_⟩
        exact hheld status (by simp [hbefore, hle]) hstatus

theorem latest_afterAnswer
    (world : World) (state : State σ) (pass : Pass) (probe : Probe) :
    (Run.afterAnswer world state pass probe).latest = state.latest := by
  simp [Run.afterAnswer, Run.recordPing, State.note]

theorem lastHeartbeat_afterAnswer
    (world : World) (state : State σ) (pass : Pass) (probe : Probe) :
    (Run.afterAnswer world state pass probe).lastHeartbeat =
      state.lastHeartbeat := by
  simp [Run.afterAnswer, Run.recordPing, State.note]

theorem pulse_shutDown
    (hlatest : middle.latest = state.latest)
    (hbeat : middle.lastHeartbeat = state.lastHeartbeat)
    (htranscript : middle.transcript = state.transcript) :
    ∃ entries,
      (Run.shutDown monitor middle).state.transcript =
          entries.reverse ++ state.transcript ∧
        Pulse monitor state (Run.shutDown monitor middle) entries := by
  obtain ⟨entries, hclosed⟩ := advances_close monitor middle
  refine ⟨entries, ?_, Advances.pulse hclosed hlatest hbeat⟩
  rw [← htranscript]
  exact hclosed.transcript

/-- A ping before live is reported to nobody. -/
theorem pulse_answer_early
    {pass : Pass} (hlive : pass.isLive = false) (probe : Probe)
    (safeMode : Bool) (outcome : PingOutcome) :
    ∃ entries,
      (Run.answer monitor (Run.afterAnswer world state pass probe) pass probe
          safeMode outcome).state.transcript =
          entries.reverse ++ state.transcript ∧
        Pulse monitor state
          (Run.answer monitor (Run.afterAnswer world state pass probe) pass
            probe safeMode outcome) entries := by
  have hping : (Run.answeredPing world state pass probe).live = true →
      ¬(Run.answeredPing world state pass probe).Answered := by
    intro htrue
    exact absurd (hlive.symm.trans htrue) Bool.false_ne_true
  have htranscript := (recorded_afterAnswer world state pass probe).transcript
  have hlatest := latest_afterAnswer world state pass probe
  have hbeat := lastHeartbeat_afterAnswer world state pass probe
  cases pass with
  | live index clean => exact nomatch hlive
  | dependencies index blocker =>
      cases outcome with
      | completed status =>
          obtain ⟨more, hgone⟩ := advances_goOnDependencies monitor _ _ _
          exact hgone.pulse_pinged hping (by simp [htranscript])
            (by simp [hlatest]) (by simp [hbeat])
      | timedOut =>
          obtain ⟨more, hgone⟩ := advances_goOnDependencies monitor _ _ _
          exact hgone.pulse_pinged hping htranscript hlatest hbeat
      | aborted abort =>
          exact (Advances.refl : Advances monitor none _ _ []).pulse_pinged
            hping htranscript hlatest hbeat
  | bootstrap index blocker seen =>
      cases outcome with
      | completed status =>
          obtain ⟨more, hgone⟩ := advances_goOnBootstrap monitor _ _ _ _
          exact hgone.pulse_pinged hping (by simp [htranscript])
            (by simp [hlatest]) (by simp [hbeat])
      | timedOut =>
          obtain ⟨more, hgone⟩ := advances_goOnBootstrap monitor _ _ _ _
          exact hgone.pulse_pinged hping htranscript hlatest hbeat
      | aborted abort =>
          exact (Advances.refl : Advances monitor none _ _ []).pulse_pinged
            hping htranscript hlatest hbeat

/-- A live ping is reported, and a heartbeat follows if it is due. -/
theorem pulse_answerLive
    (hphase : state.phase = .live) {index : Nat} (clean : Bool) {probe : Probe}
    (hprobe : monitor.probe? (.primary index) = some probe) :
    ∃ entries,
      (Run.answerLive monitor
          (Run.afterAnswer world state (.live index clean) probe) index clean
          probe (Run.watchOf world state (.live index clean) probe).outcome
          ).state.transcript =
          entries.reverse ++ state.transcript ∧
        Pulse monitor state
          (Run.answerLive monitor
            (Run.afterAnswer world state (.live index clean) probe) index clean
            probe (Run.watchOf world state (.live index clean) probe).outcome)
          entries := by
  have htranscript :=
    (recorded_afterAnswer world state (.live index clean) probe).transcript
  have hlatest := latest_afterAnswer world state (.live index clean) probe
  have hbeat :=
    lastHeartbeat_afterAnswer world state (.live index clean) probe
  have hphaseAfter :
      (Run.afterAnswer world state (.live index clean) probe).phase = .live :=
    (Run.phase_afterAnswer world state _ probe).trans hphase
  rcases answerLive_cases hphaseAfter clean hprobe
      (Run.answeredPing world state (.live index clean) probe) rfl rfl rfl with
    ⟨abort, houtcome, hended⟩ | ⟨told, verdict, reports, hreports, hheard,
      ⟨rfl, exit, hended⟩ | ⟨rfl, still, hgone⟩⟩
  · have hping :
        (Run.answeredPing world state (.live index clean) probe).live = true →
          ¬(Run.answeredPing world state (.live index clean) probe).Answered :=
      fun _ => Ping.not_answered_of_aborted (congrArg some houtcome)
    rw [hended]
    exact (Advances.refl : Advances monitor none _ _ []).pulse_pinged hping
      htranscript hlatest hbeat
  · rw [hended]
    refine ⟨_, ?_, .stopped rfl hreports ?_ ?_⟩
    · rw [hheard.transcript, htranscript]
      simp
    · rw [hheard.latest, hlatest]
      rfl
    · rw [hheard.lastHeartbeat, hbeat]
  · obtain ⟨beat, hbeaten, hbeatKept, hwritten, hlatestKept, hnow⟩ :=
      heartbeat_cases monitor told
    obtain ⟨rest, hmore⟩ :=
      advances_goOnLive monitor (Run.heartbeat monitor told) (index + 1) still
    have htold : told.latest =
        (Run.answeredPing world state (.live index clean) probe).liveStatus?.or
          state.latest := by
      rw [hheard.latest, hlatest]
      rfl
    rw [htold, hheard.lastHeartbeat, hbeat, hheard.now] at hbeaten
    rw [hheard.lastHeartbeat, hbeat] at hbeatKept
    rw [hgone]
    refine ⟨_ :: (reports ++ (beat ++ rest)), ?_,
      .goesOn rfl hreports hbeaten ?_ ?_ ?_ hmore.isAside⟩
    · rw [hmore.transcript, hwritten, hheard.transcript, htranscript]
      simp
    · rw [hmore.lastHeartbeat, hbeatKept]
    · rw [hmore.now, hnow, hheard.now]
      rfl
    · rw [hmore.latest, hlatestKept, htold]

theorem pulse_stepPing
    (world : World) (stop : Option Nat) {pass : Pass} {probe : Probe}
    (hphase : pass.phase = state.phase)
    (hprobe : monitor.probe? pass.position = some probe) :
    ∃ entries,
      (Run.stepPing monitor world stop state pass probe).state.transcript =
          entries.reverse ++ state.transcript ∧
        Pulse monitor state
          (Run.stepPing monitor world stop state pass probe) entries := by
  rw [Run.stepPing_eq]
  split
  next moment hstopped =>
    by_cases hsame : moment = state.now
    · rw [if_pos hsame]
      exact pulse_shutDown rfl rfl rfl
    · rw [if_neg hsame]
      obtain ⟨rest, hclosed⟩ :=
        advances_close monitor (Run.afterBreak world state pass moment)
      have hbroken : (Run.brokenPing world state pass moment).live = true →
          ¬(Run.brokenPing world state pass moment).Answered :=
        fun _ => Ping.not_answered_of_none rfl
      apply Advances.pulse_pinged hclosed hbroken
      · simp [Run.afterBreak, Run.recordPing, State.note, State.moveTo]
      · simp [Run.afterBreak, Run.recordPing, State.note, State.moveTo]
      · simp [Run.afterBreak, Run.recordPing, State.note, State.moveTo]
  next =>
    cases pass with
    | dependencies index blocker => exact pulse_answer_early rfl _ _ _
    | bootstrap index blocker seen => exact pulse_answer_early rfl _ _ _
    | live index clean => exact pulse_answerLive hphase.symm clean hprobe

theorem pulse_step
    (world : World) (stop : Option Nat) (hsound : run.Sound monitor)
    (hrunning : ∀ exit, run.control ≠ .ended exit) :
    ∃ entries,
      (Run.step monitor world stop run).state.transcript =
          entries.reverse ++ run.state.transcript ∧
        Pulse monitor run.state (Run.step monitor world stop run) entries := by
  obtain ⟨state, control⟩ := run
  cases control with
  | ended exit => exact absurd rfl (hrunning exit)
  | pause =>
      simp only [Run.step, Run.stepPause]
      split
      next => exact pulse_shutDown rfl rfl rfl
      next =>
        obtain ⟨entries, hresumed⟩ := advances_resume monitor _
        exact ⟨entries, hresumed.transcript, hresumed.pulse rfl rfl⟩
  | ping pass =>
      obtain ⟨hphase, probe, hprobe⟩ := hsound pass rfl
      simp only [Run.step, hprobe]
      exact pulse_stepPing world stop hphase hprobe

end Pulses

/-! ## What a run has written -/

section Growing

variable {monitor : Monitor σ} {world : World} {stop : Option Nat}
  {origin state : State σ} {run next : Run σ} {entries more : List Entry}

theorem Entry.IsAside.beat?_eq
    {entry : Entry} (haside : entry.IsAside) : entry.beat? = none := by
  cases entry with
  | told instant callback verdict =>
      cases callback with
      | heartbeat status => exact nomatch haside
      | _ => rfl
  | _ => rfl

theorem beatsIn_of_aside
    (haside : ∀ entry ∈ entries, entry.IsAside) : beatsIn entries = [] :=
  List.filterMap_eq_nil_iff.mpr fun entry hmem =>
    (haside entry hmem).beat?_eq

theorem lastOf?_live_of_aside
    (haside : ∀ entry ∈ entries, entry.IsAside) :
    lastOf? Ping.liveStatus? (pingsIn entries) = none := by
  rw [lastOf?_eq_none_iff]
  intro ping hping
  have hnot : ping.live = true → ¬ping.Answered :=
    haside _ (pinged_mem_iff.mpr hping)
  unfold Ping.liveStatus?
  by_cases hlive : ping.live = true
  · rw [if_pos hlive, Option.map_eq_none_iff]
    cases hstatus : ping.status? with
    | none => rfl
    | some status =>
        exact absurd (.inl ⟨status, Ping.outcome_of_status? hstatus⟩)
          (hnot hlive)
  · exact if_neg hlive

theorem Reports.beatsIn_eq
    {last : Option Status} {ping : Ping} {verdict : Verdict}
    {reports : List Entry}
    (hreports : Reports monitor last ping verdict reports) :
    beatsIn reports = [] := by
  cases hreports with
  | up _ _ => rfl
  | down _ _ => rfl
  | hung _ => rfl

theorem Beat.pingsIn_eq
    {interval now : Nat} {latest : Option Status} {lastBeat : Option Nat}
    {beat : List Entry} (hbeat : Beat interval now latest lastBeat beat) :
    pingsIn beat = [] := by
  cases hbeat with
  | sent _ _ => rfl
  | held _ => rfl

theorem Pulse.beatsIn_goesOn
    {ping : Ping} {last : Option Status} {reports beat rest : List Entry}
    (hreports : Reports monitor last ping .proceed reports)
    (haside : ∀ entry ∈ rest, entry.IsAside) :
    beatsIn (.pinged ping :: (reports ++ (beat ++ rest))) = beatsIn beat := by
  have hpinged : beatsIn [.pinged ping] = [] := rfl
  rw [← List.singleton_append, beatsIn_append, beatsIn_append, beatsIn_append,
    hreports.beatsIn_eq, beatsIn_of_aside haside, hpinged]
  simp

theorem Pulse.latest
    (hpulse : Pulse monitor state next more) :
    next.state.latest =
      (lastOf? Ping.liveStatus? (pingsIn more)).or state.latest := by
  cases hpulse with
  | aside haside hlatest _ =>
      rw [hlatest, lastOf?_live_of_aside haside]
      rfl
  | @stopped other exit ping last reports _ hreports hlatest _ =>
      rw [pingsIn_pinged_cons, hreports.pingsIn_eq, lastOf?_singleton]
      exact hlatest
  | @goesOn next ping last reports beat rest _ hreports hbeat _ _ hlatest haside =>
      rw [pingsIn_pinged_cons, pingsIn_append, pingsIn_append,
        hreports.pingsIn_eq, hbeat.pingsIn_eq, List.nil_append,
        List.nil_append, ← List.singleton_append, lastOf?_append,
        lastOf?_live_of_aside haside, lastOf?_singleton]
      exact hlatest

theorem Pulse.lastBeat
    (hpulse : Pulse monitor state next more) :
    next.state.lastHeartbeat =
      (lastOf? Entry.beat? more).or state.lastHeartbeat := by
  rw [lastOf?_beat]
  cases hpulse with
  | aside haside _ hbeat =>
      rw [beatsIn_of_aside haside]
      exact hbeat
  | @stopped other exit ping last reports _ hreports _ hbeat =>
      have hnone : beatsIn (.pinged ping :: reports) = [] :=
        hreports.beatsIn_eq
      rw [hnone]
      exact hbeat
  | goesOn _ hreports _ hkept _ _ haside =>
      rw [Pulse.beatsIn_goesOn hreports haside]
      exact hkept

theorem Ping.IsFollowed.later
    {before after : List Entry} {ping : Ping}
    (hfollowed : ping.IsFollowed monitor run before after)
    (hrunning : ∀ exit, run.control ≠ .ended exit) :
    ping.IsFollowed monitor next before (after ++ more) := by
  obtain ⟨last, verdict, reports, rest, rfl, hreports, hstop, hdue⟩ :=
    hfollowed
  refine ⟨last, verdict, reports, rest ++ more, List.append_assoc _ _ _,
    hreports, ?_, ?_⟩
  · intro hverdict
    obtain ⟨-, exit, hended⟩ := hstop hverdict
    exact absurd hended (hrunning exit)
  · intro hverdict hbeat
    obtain ⟨status, heard, others, rfl⟩ := hdue hverdict hbeat
    exact ⟨status, heard, others ++ more, rfl⟩

/-- What is due by what a run remembers is due by what it has written. -/
theorem Pulsing.beatDue_iff
    (hpulsing : Pulsing monitor origin run entries) {ping : Ping}
    (hnow : run.state.now.instant ≤ ping.answered) :
    BeatDue monitor.timing.reportInterval entries ping ↔
      ping.liveStatus?.or run.state.latest ≠ none ∧
        ∀ earlier, run.state.lastHeartbeat = some earlier →
          monitor.timing.reportInterval ≤ ping.answered - earlier := by
  unfold BeatDue
  rw [lastOf?_append, lastOf?_singleton, ← hpulsing.latest,
    hpulsing.lastBeat]
  apply and_congr_right'
  constructor
  · intro hdue earlier hearlier
    have hlater := hdue earlier hearlier
    omega
  · intro hdue earlier hearlier
    have hspan := hdue earlier hearlier
    have hpast := hpulsing.past earlier hearlier
    omega

theorem Pulsing.followed_step
    (hpulsing : Pulsing monitor origin run entries)
    (hpulse : Pulse monitor run.state next more)
    (hle : run.state.now.instant ≤ next.state.now.instant)
    {before after : List Entry} {ping : Ping}
    (hsplit : more = before ++ .pinged ping :: after)
    (hlive : ping.live = true) (hanswered : ping.Answered) :
    ping.IsFollowed monitor next (entries ++ before) after := by
  cases hpulse with
  | aside haside _ _ =>
      have hnot := haside (.pinged ping) (by simp [hsplit])
      exact absurd hanswered (hnot hlive)
  | @stopped other exit found last reports _ hreports _ _ =>
      rcases cons_split_cases hsplit with ⟨rfl, hping, rfl⟩ | hmem
      · obtain rfl := Entry.pinged.inj hping
        exact ⟨last, .stop, after, [], by simp, hreports,
          fun _ => ⟨rfl, exit, rfl⟩, nofun⟩
      · rw [pinged_mem_iff, hreports.pingsIn_eq] at hmem
        exact nomatch hmem
  | @goesOn next found last reports beat rest _ hreports hbeat _ hnow _ haside =>
      rcases cons_split_cases hsplit with ⟨rfl, hping, rfl⟩ | hmem
      · obtain rfl := Entry.pinged.inj hping
        refine ⟨last, .proceed, reports, beat ++ rest, rfl, hreports, nofun, ?_⟩
        rw [List.append_nil, hpulsing.beatDue_iff (hnow ▸ hle)]
        rintro - ⟨hsome, hdue⟩
        cases hbeat with
        | sent _ _ => exact ⟨_, _, rest, rfl⟩
        | held hnot =>
            obtain ⟨earlier, hearlier, hlt⟩ := hnot hsome
            exact absurd (hdue earlier hearlier) (Nat.not_le_of_lt hlt)
      · simp only [List.mem_append] at hmem
        rcases hmem with hmem | hmem | hmem
        · rw [pinged_mem_iff, hreports.pingsIn_eq] at hmem
          exact nomatch hmem
        · rw [pinged_mem_iff, hbeat.pingsIn_eq] at hmem
          exact nomatch hmem
        · exact absurd hanswered (haside _ hmem hlive)

theorem Entry.beatsRightly_of_beat?
    {entry : Entry} (hbeat : entry.beat? = none) (before : List Entry) :
    entry.BeatsRightly monitor before := by
  cases entry with
  | told instant callback verdict =>
      cases callback with
      | heartbeat status => exact nomatch hbeat
      | _ => trivial
  | _ => trivial

theorem beat?_of_mem
    (hnone : beatsIn entries = []) {entry : Entry} (hmem : entry ∈ entries) :
    entry.beat? = none :=
  List.filterMap_eq_nil_iff.mp hnone entry hmem

theorem Pulsing.rightly_step
    (hpulsing : Pulsing monitor origin run entries)
    (hpulse : Pulse monitor run.state next more)
    (hle : run.state.now.instant ≤ next.state.now.instant)
    {before after : List Entry} {entry : Entry}
    (hsplit : more = before ++ entry :: after) :
    entry.BeatsRightly monitor (entries ++ before) := by
  have hquiet : beatsIn more = [] →
      entry.BeatsRightly monitor (entries ++ before) := by
    intro hnone
    exact Entry.beatsRightly_of_beat? (beat?_of_mem hnone (by simp [hsplit])) _
  cases hpulse with
  | aside haside _ _ => exact hquiet (beatsIn_of_aside haside)
  | stopped _ hreports _ _ => exact hquiet hreports.beatsIn_eq
  | @goesOn next ping last reports beat rest hlive hreports hbeat _ hnow _ haside =>
      have hbefore : run.state.now.instant ≤ ping.answered := hnow ▸ hle
      have hdue := hpulsing.beatDue_iff hbefore
      cases hbeat with
      | held _ =>
          apply hquiet
          rw [Pulse.beatsIn_goesOn hreports haside]
          rfl
      | @sent status verdict hlatest hspan =>
          have hbeats : Entry.BeatsRightly monitor
              (entries ++ .pinged ping :: reports)
              (.told ping.answered (.heartbeat status) verdict) := by
            refine ⟨entries, last, ping, reports, rfl, hlive, hreports, rfl,
              hdue.mpr ⟨by simp [hlatest], hspan⟩, ?_⟩
            rw [pingsIn_append, pingsIn_pinged_cons, hreports.pingsIn_eq,
              lastOf?_append, lastOf?_singleton, ← hpulsing.latest]
            exact hlatest
          rw [List.singleton_append, ← List.cons_append] at hsplit
          rcases split_cases hsplit with
            ⟨rfl, rfl, -⟩ | hmem | ⟨hmem, -⟩
          · exact hbeats
          · exact Entry.beatsRightly_of_beat? (haside _ hmem).beat?_eq _
          · have hnone : beatsIn (.pinged ping :: reports) = [] :=
              hreports.beatsIn_eq
            exact Entry.beatsRightly_of_beat? (beat?_of_mem hnone hmem) _

theorem le_of_pairwise_getLast?
    {interval last : Nat} {beats : List Nat}
    (hspaced : beats.Pairwise fun earlier later => earlier + interval ≤ later)
    (hlast : beats.getLast? = some last) : ∀ beat ∈ beats, beat ≤ last := by
  obtain ⟨front, rfl⟩ := List.getLast?_eq_some_iff.mp hlast
  have hbefore := (List.pairwise_append.mp hspaced).2.2
  intro beat hmem
  rcases List.mem_append.mp hmem with hfront | hsame
  · exact Nat.le_of_add_right_le
      (hbefore beat hfront last (List.mem_singleton_self last))
  · exact Nat.le_of_eq (List.mem_singleton.mp hsame)

theorem Pulsing.spaced_step
    (hpulsing : Pulsing monitor origin run entries)
    (hpulse : Pulse monitor run.state next more)
    (hle : run.state.now.instant ≤ next.state.now.instant) :
    (beatsIn (entries ++ more)).Pairwise fun earlier later =>
      earlier + monitor.timing.reportInterval ≤ later := by
  rw [beatsIn_append]
  cases hpulse with
  | aside haside _ _ =>
      rw [beatsIn_of_aside haside, List.append_nil]
      exact hpulsing.spaced
  | @stopped other exit ping last reports _ hreports _ _ =>
      have hnone : beatsIn (.pinged ping :: reports) = [] :=
        hreports.beatsIn_eq
      rw [hnone, List.append_nil]
      exact hpulsing.spaced
  | @goesOn next ping last reports beat rest _ hreports hbeat _ hnow _ haside =>
      have hbefore : run.state.now.instant ≤ ping.answered := hnow ▸ hle
      have hdue := hpulsing.beatDue_iff hbefore
      rw [Pulse.beatsIn_goesOn hreports haside]
      cases hbeat with
      | held _ => simpa [beatsIn] using hpulsing.spaced
      | @sent status verdict hlatest hspan =>
          have hlast := (hdue.mpr ⟨by simp [hlatest], hspan⟩).2
          refine List.pairwise_append.mpr
            ⟨hpulsing.spaced, List.pairwise_singleton _ _, ?_⟩
          intro earlier hmem now hnow
          obtain rfl := List.mem_singleton.mp hnow
          obtain ⟨latest, hlatest⟩ := Option.ne_none_iff_exists'.mp
            (mt List.getLast?_eq_none_iff.mp (List.ne_nil_of_mem hmem))
          have hbefore :=
            le_of_pairwise_getLast? hpulsing.spaced hlatest earlier hmem
          have hafter := hlast latest hlatest
          omega

theorem Pulsing.step
    (hpulsing : Pulsing monitor origin run entries)
    (hrunning : ∀ exit, run.control ≠ .ended exit)
    (htranscript :
      next.state.transcript = more.reverse ++ run.state.transcript)
    (hpulse : Pulse monitor run.state next more)
    (hle : run.state.now.instant ≤ next.state.now.instant) :
    Pulsing monitor origin next (entries ++ more) where
  transcript := by
    rw [htranscript, hpulsing.transcript]
    simp
  latest := by
    rw [pingsIn_append, lastOf?_append, ← hpulsing.latest, hpulse.latest]
  lastBeat := by
    rw [lastOf?_append, ← hpulsing.lastBeat, hpulse.lastBeat]
  past := by
    rw [lastOf?_append, ← hpulsing.lastBeat, ← hpulse.lastBeat]
    intro earlier hearlier
    cases hpulse with
    | aside _ _ hbeat =>
        rw [hbeat, hpulsing.lastBeat] at hearlier
        exact Nat.le_trans (hpulsing.past earlier hearlier) hle
    | stopped _ _ _ hbeat =>
        simp only [hbeat, hpulsing.lastBeat] at hearlier
        exact Nat.le_trans (hpulsing.past earlier hearlier) hle
    | goesOn _ _ hbeat hkept hnow _ _ =>
        rw [hkept] at hearlier
        cases hbeat with
        | sent _ _ => exact Nat.le_of_eq (Option.some.inj hearlier ▸ hnow)
        | held _ =>
            rw [hpulsing.lastBeat] at hearlier
            exact Nat.le_trans (hpulsing.past earlier hearlier) hle
  followed := by
    intro before ping after hsplit hlive hanswered
    rcases append_split hsplit with ⟨rest, rfl, hbefore⟩ | ⟨front, rfl, hmore⟩
    · exact (hpulsing.followed before ping rest hbefore hlive hanswered).later
        hrunning
    · exact hpulsing.followed_step hpulse hle hmore hlive hanswered
  rightly := forall_split_append hpulsing.rightly fun _ _ _ hsplit =>
    hpulsing.rightly_step hpulse hle hsplit
  spaced := hpulsing.spaced_step hpulse hle

theorem pulsing_play
    (world : World) (stop : Option Nat) (fuel : Nat) (hsound : run.Sound monitor)
    (hpulsing : Pulsing monitor origin run entries) :
    ∃ more,
      Pulsing monitor origin (Run.play monitor world stop fuel run)
        (entries ++ more) := by
  induction fuel generalizing run entries with
  | zero => exact ⟨[], by simpa [Run.play] using hpulsing⟩
  | succ fuel ih =>
      by_cases hended : ∃ exit, run.control = .ended exit
      · obtain ⟨exit, hended⟩ := hended
        rw [Run.play_of_ended hended]
        exact ⟨[], by simpa using hpulsing⟩
      · have hrunning : ∀ exit, run.control ≠ .ended exit :=
          fun exit hexit => hended ⟨exit, hexit⟩
        obtain ⟨first, htranscript, hpulse⟩ :=
          pulse_step world stop hsound hrunning
        obtain ⟨_, hstride⟩ := stride_step world stop hsound hrunning
        obtain ⟨rest, hplayed⟩ := ih hstride.sound
          (hpulsing.step hrunning htranscript hpulse hstride.now_le)
        rw [Run.play_succ]
        exact ⟨first ++ rest, by simpa using hplayed⟩

theorem Monitor.Fresh.latest (hfresh : monitor.Fresh origin) :
    origin.latest = none :=
  hfresh.keeps State.latest (fun _ => rfl) (fun _ _ => rfl) (fun _ => rfl)
    (fun _ _ => rfl)

theorem Monitor.Fresh.lastHeartbeat (hfresh : monitor.Fresh origin) :
    origin.lastHeartbeat = none :=
  hfresh.keeps State.lastHeartbeat (fun _ => rfl) (fun _ _ => rfl)
    (fun _ => rfl) (fun _ _ => rfl)

theorem pulsing_begin (hfresh : monitor.Fresh origin) :
    ∃ entries, Pulsing monitor origin (Run.begin monitor origin) entries := by
  have hnothing : Pulsing monitor origin ⟨origin, .pause⟩ [] :=
    { transcript := rfl
      latest := hfresh.latest
      lastBeat := hfresh.lastHeartbeat
      past := nofun
      followed := by simp
      rightly := by simp
      spaced := List.Pairwise.nil }
  obtain ⟨entries, hbegun⟩ := advances_begin monitor origin
  exact ⟨_, hnothing.step nofun hbegun.transcript (hbegun.pulse rfl rfl)
    (Nat.le_of_eq (congrArg Moment.instant hbegun.now.symm))⟩

end Growing

/-! ## The main statement -/

/-- The heartbeats of a run. -/
structure HeartbeatRecord
    (monitor : Monitor σ) (entries : List Entry) : Prop where
  /-- The reports of a live ping end the run, or are followed by a heartbeat
  exactly if one is due. -/
  paced : ∀ before ping after, entries = before ++ .pinged ping :: after →
    ping.live = true → ping.Answered →
      ∃ last verdict reports rest,
        after = reports ++ rest ∧ Reports monitor last ping verdict reports ∧
          (verdict = .stop → rest = []) ∧
          (verdict = .proceed →
            (BeginsWithBeat ping.answered rest ↔
              BeatDue monitor.timing.reportInterval before ping))
  /-- There are no others, and each has the last live status. -/
  placed : ∀ before instant status verdict after,
    entries = before ++ .told instant (.heartbeat status) verdict :: after →
      BeatBelongs monitor before instant status ∧ status.phase = some .live
  spaced : (beatsIn entries).Pairwise fun earlier later =>
    earlier + monitor.timing.reportInterval ≤ later

theorem Pulsing.record
    {monitor : Monitor σ} {origin : State σ} {run : Run σ}
    {entries : List Entry} (hpulsing : Pulsing monitor origin run entries) :
    HeartbeatRecord monitor entries where
  paced := by
    intro before ping after hsplit hlive hanswered
    obtain ⟨last, verdict, reports, rest, rfl, hreports, hstop, hdue⟩ :=
      hpulsing.followed before ping after hsplit hlive hanswered
    refine ⟨last, verdict, reports, rest, rfl, hreports,
      fun hverdict => (hstop hverdict).1, fun hverdict => ⟨?_, hdue hverdict⟩⟩
    rintro ⟨status, heard, others, rfl⟩
    have hbelongs := hpulsing.rightly (before ++ .pinged ping :: reports)
      (.told ping.answered (.heartbeat status) heard) others (by simp [hsplit])
    obtain ⟨front, _, found, reported, hsame, -, hfound, -, hbeat, -⟩ :=
      hbelongs
    -- The heartbeat belongs to the last ping before it, and that is this one.
    rcases split_cases hsame with ⟨rfl, hping, -⟩ | hmem | ⟨-, hmem⟩
    · obtain rfl := Entry.pinged.inj hping
      exact hbeat
    · rw [pinged_mem_iff, hreports.pingsIn_eq] at hmem
      exact nomatch hmem
    · rw [pinged_mem_iff, hfound.pingsIn_eq] at hmem
      exact nomatch hmem
  placed := by
    intro before instant status verdict after hsplit
    have hbelongs : BeatBelongs monitor before instant status :=
      hpulsing.rightly _ _ _ hsplit
    obtain ⟨_, _, _, _, -, -, -, -, -, hlatest⟩ := id hbelongs
    exact ⟨hbelongs, phase_of_liveStatus? hlatest⟩
  spaced := hpulsing.spaced

theorem run_heartbeatRecord
    {monitor : Monitor σ} {world : World} {stop : Option Nat} {fuel : Nat}
    {origin final : State σ} {exit : Option RunExit}
    (hfresh : monitor.Fresh origin)
    (hrun : monitor.run world stop fuel origin = (.ok exit, final)) :
    HeartbeatRecord monitor (final.since origin) := by
  obtain ⟨control, hplay, -⟩ := played_of_run hrun
  obtain ⟨first, hbegun⟩ := pulsing_begin hfresh
  obtain ⟨_, hopens⟩ := opens_begin monitor origin
  obtain ⟨more, hplayed⟩ :=
    pulsing_play world stop fuel hopens.sound hbegun
  rw [hplay] at hplayed
  rw [State.since_eq hplayed.transcript]
  exact hplayed.record

/-- The second heartbeat comes after a live ping that hung, with the status of
the one before. -/
theorem run_heartbeatRecord_sample :
    HeartbeatRecord Sample.monitor (Sample.final.since Sample.started) ∧
      beatsIn (Sample.final.since Sample.started) = [4000, 66000] :=
  ⟨run_heartbeatRecord Sample.fresh Sample.run_eq, rfl⟩

end HealthMonitor
