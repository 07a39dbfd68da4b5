import HealthMonitor.Proofs.BootstrapLimit
import HealthMonitor.Proofs.CompletedCycles
import HealthMonitor.Proofs.Relay
import HealthMonitor.Proofs.Shutdown

/-!
# Status checks

The reporter of a status check stops the run at the first answer it gets in
live.  So a check makes one live pass and never pauses in it: it ends with a
completed cycle, or in the first ping that did not succeed.  The main statement
is `check_record`.
-/

namespace HealthMonitor

variable {σ : Type}

/-- The pings of live. -/
def livePings (entries : List Entry) : List Ping :=
  (pingsIn entries).filter (·.live)

/-- A pass over all primaries in which every ping succeeded. -/
structure CleanPass
    (monitor : Monitor σ) (live : Bool) (pings : List Ping) : Prop where
  sweep : Sweep .primary live pings
  full : pings.length = monitor.primaries.length
  clean : AllSucceeded pings

/-- How the pings of its live pass end a check: all succeeded, or the last is
the first that did not. -/
inductive CheckEnd (monitor : Monitor σ) : List Ping → RunExit → Prop
  | completed {pings : List Ping}
      (hfull : pings.length = monitor.primaries.length)
      (hall : AllSucceeded pings) :
      CheckEnd monitor pings .cycleCompleted
  | failed {before : List Ping} {ping : Ping} {status : Status}
      (hbefore : AllSucceeded before)
      (houtcome : ping.outcome = some (.completed status))
      (hsuccess : status.success = false) :
      CheckEnd monitor (before ++ [ping]) (.probeFailed (status.inPhase .live))
  | hung {before : List Ping} {ping : Ping} {last : Option Status}
      (hbefore : AllSucceeded before)
      (houtcome : ping.outcome = some .timedOut) :
      CheckEnd monitor (before ++ [ping])
        (.probeTimedOut .live (monitor.probeName ping.position) last)
  | aborted {before : List Ping} {ping : Ping} {abort : Abort}
      (hbefore : AllSucceeded before)
      (houtcome : ping.outcome = some (.aborted abort)) :
      CheckEnd monitor (before ++ [ping]) (.aborted abort)

/-- What is known of a run of a status check. -/
structure CheckRecord
    (monitor : Monitor σ) (world : World) (stop : Option Nat) (fuel : Nat)
    (origin : State σ) (exit : Option RunExit) (entries : List Entry) :
    Prop where
  /-- Each primary has at most one live ping. -/
  positions :
    (livePings entries).map (·.position) =
      (List.range (livePings entries).length).map .primary
  bound : (livePings entries).length ≤ monitor.primaries.length
  neverPauses : ∀ steps,
    (Run.play monitor world stop steps (Run.begin monitor origin)).control =
        .pause →
      (Run.play monitor world stop steps
        (Run.begin monitor origin)).state.phase ≠ .live
  /-- The live pass comes right after a clean pass of the bootstrap. -/
  opened : .phase .live ∈ callbacksIn entries →
    ∃ earlier opening,
      pingsIn entries = earlier ++ (opening ++ livePings entries) ∧
        CleanPass monitor false opening
  /-- Once live is reached the run is over within the live pass. -/
  returns : .phase .live ∈ callbacksIn entries →
    ∃ found last,
      monitor.run world stop (fuel + monitor.primaries.length) origin =
        (.ok (some found), last)
  decides : .phase .live ∈ callbacksIn entries →
    ∀ found, exit = some found → found ≠ .shutdown →
      CheckEnd monitor (livePings entries) found
  completed_iff : .phase .live ∈ callbacksIn entries →
    ∀ found, exit = some found → found ≠ .shutdown →
      (found = .cycleCompleted ↔
        (livePings entries).length = monitor.primaries.length ∧
          AllSucceeded (livePings entries))
  zero_iff : ∀ found, exit = some found →
    (found.statusCheckCode = 0 ↔
      found = .cycleCompleted ∨ found = .shutdown)
  failed_iff : ∀ found, exit = some found →
    (found.statusCheckCode = -2 ↔ ∃ status, found = .probeFailed status)
  open_iff : ∀ found, exit = some found →
    (found.statusCheckCode = -1 ↔
      (∃ phase probe last, found = .probeTimedOut phase probe last) ∨
        (∃ phase probe elapsed last,
          found = .bootstrapTimedOut phase probe elapsed last) ∨
        ∃ abort, found = .aborted abort)
  failed : ∀ status, exit = some (.probeFailed status) →
    .phase .live ∈ callbacksIn entries
  /-- Without a shutdown, the code 0 stands for two clean passes in a row. -/
  twice : ∀ found, exit = some found → found.statusCheckCode = 0 →
    found ≠ .shutdown →
      ∃ earlier opening,
        pingsIn entries = earlier ++ (opening ++ livePings entries) ∧
          CleanPass monitor false opening ∧
          CleanPass monitor true (livePings entries)

/-! ## Exit codes -/

namespace RunExit

theorem statusCheckCode_eq_zero_iff (exit : RunExit) :
    exit.statusCheckCode = 0 ↔ exit = .cycleCompleted ∨ exit = .shutdown := by
  cases exit <;> simp [statusCheckCode, code]

theorem statusCheckCode_eq_neg_two_iff (exit : RunExit) :
    exit.statusCheckCode = -2 ↔ ∃ status, exit = .probeFailed status := by
  cases exit <;> simp [statusCheckCode, code]

theorem statusCheckCode_eq_neg_one_iff (exit : RunExit) :
    exit.statusCheckCode = -1 ↔
      (∃ phase probe last, exit = .probeTimedOut phase probe last) ∨
        (∃ phase probe elapsed last,
          exit = .bootstrapTimedOut phase probe elapsed last) ∨
        ∃ abort, exit = .aborted abort := by
  cases exit <;> simp [statusCheckCode, code]

end RunExit

/-! ## What the reporter of a check lets go on -/

/-- Entries whose verdicts are those of the reporter of a check. -/
def Decisive (entries : List Entry) : Prop :=
  ∀ instant callback verdict, .told instant callback verdict ∈ entries →
    verdict = OneShotReporter.verdict callback

section Decisive

variable {monitor : Monitor σ} {world : World} {origin : State σ}
  {entries more : List Entry}

theorem Decisive.mono
    (hdecisive : Decisive entries) (hsubset : more ⊆ entries) :
    Decisive more :=
  fun instant callback verdict hmem =>
    hdecisive instant callback verdict (hsubset hmem)

theorem decisive_of_relays
    {monitor : Monitor OneShotReporter}
    (hreporter : monitor.reporter = OneShotReporter.reporter)
    {state other : State OneShotReporter}
    (hrelays : Relays monitor state other entries) :
    Decisive entries := by
  intro instant callback verdict hmem
  obtain ⟨before, after, hsplit⟩ := List.append_of_mem hmem
  rw [hrelays.verdict before instant callback verdict after hsplit,
    Reporter.verdictAfter, hreporter]
  rfl

/-- A live ping after which a check goes on succeeded. -/
theorem Block.Settled.succeeded
    {block : Block} (hsettled : block.Settled monitor)
    (hdecisive : Decisive block.entries) :
    block.ping.succeeded = true := by
  cases hsettled with
  | up houtcome hsuccess hbeat =>
      rw [Ping.succeeded_of_completed houtcome, hsuccess]
  | down houtcome hsuccess hbeat =>
      exact nomatch hdecisive _ _ _ (.tail _ (.tail _ (.head _)))
  | hung houtcome hbeat =>
      exact nomatch hdecisive _ _ _ (.tail _ (.head _))

theorem allSucceeded_of_settled
    {blocks : List Block}
    (hsettled : ∀ block ∈ blocks, block.Settled monitor)
    (hdecisive : Decisive (blocks.flatMap Block.entries)) :
    AllSucceeded (pingsOf blocks) := by
  intro ping hmem
  obtain ⟨block, hblock, rfl⟩ := List.mem_map.mp hmem
  apply (hsettled block hblock).succeeded
  exact hdecisive.mono fun entry hentry =>
    List.mem_flatMap.mpr ⟨block, hblock, hentry⟩

variable {boot : List Entry} {passes : List LivePass} {current : List Block}

/-- A check has no complete live pass behind it: the first one would have been
clean, after a clean bootstrap, and the completed cycle would have ended it. -/
theorem LiveLog.passes_eq_nil
    (hlog : LiveLog monitor world origin boot passes current entries)
    (hclean : origin.cleanBefore = true) (hdecisive : Decisive entries) :
    passes = [] := by
  obtain ⟨instant, verdict, rfl⟩ := hlog.written
  cases passes with
  | nil => rfl
  | cons first rest =>
      have hfirst := hlog.complete [] first rest rfl
      have hwritten : Decisive first.entries := by
        apply hdecisive.mono
        intro entry hmem
        simp [liveEntries, hmem]
      have hall : cleanIn first.blocks = true := by
        rw [cleanIn_iff]
        exact allSucceeded_of_settled hfirst.settled
          (hwritten.mono (List.subset_append_left _ _))
      have hbefore : cleanAfter origin.cleanBefore [] = true := hclean
      have hclosing := hfirst.closing
      rw [hall, hbefore, Bool.and_true, if_pos rfl] at hclosing
      obtain ⟨closed, hcycle⟩ := hclosing
      have htold : .told closed .cycle .proceed ∈ first.entries := by
        simp [LivePass.entries, hcycle]
      have hstopped : Verdict.proceed = .stop := hwritten _ _ _ htold
      cases hstopped

theorem LiveLog.current_succeeded
    (hlog : LiveLog monitor world origin boot passes current entries)
    (hdecisive : Decisive entries) :
    AllSucceeded (pingsOf current) := by
  obtain ⟨instant, verdict, rfl⟩ := hlog.written
  apply allSucceeded_of_settled hlog.settled
  apply hdecisive.mono
  intro entry hmem
  exact List.mem_append_right _ (.tail _ (List.mem_append_right _ hmem))

end Decisive

/-! ## The live pass of a check -/

section LivePass

variable {monitor : Monitor σ} {world : World} {origin : State σ}
  {entries boot tail : List Entry} {current : List Block}
  {exit : Option RunExit}

theorem livePings_eq_nil (hbefore : BeforeLive entries) :
    livePings entries = [] := by
  rw [livePings, List.filter_eq_nil_iff]
  intro ping hmem
  rw [hbefore.pings ping hmem]
  exact Bool.false_ne_true

theorem LiveLog.pingsIn_check
    (hlog : LiveLog monitor world origin boot [] current entries)
    (htail : LiveTail monitor origin [] current exit tail) :
    livePings (entries ++ tail) = pingsOf current ++ pingsIn tail ∧
      pingsIn (entries ++ tail) =
        pingsIn boot ++ livePings (entries ++ tail) := by
  obtain ⟨earlier, opening, hbooted⟩ := hlog.booted
  obtain ⟨instant, verdict, rfl⟩ := hlog.written
  have hlive : ∀ ping ∈ pingsOf current ++ pingsIn tail, ping.live = true := by
    rw [List.forall_mem_append]
    exact ⟨hlog.sweep.live, fun ping hmem => (htail.live_pings ping hmem).1⟩
  have hpings :
      pingsIn (boot ++ .told instant (.phase .live) verdict ::
          liveEntries [] current ++ tail) =
        pingsIn boot ++ (pingsOf current ++ pingsIn tail) := by
    rw [pingsIn_append, pingsIn_append, pingsIn_told_cons, hlog.pingsIn_live,
      List.append_assoc]
    rfl
  have hboot : (pingsIn boot).filter (·.live) = [] :=
    livePings_eq_nil hbooted.beforeLive
  have hkept : livePings (boot ++ .told instant (.phase .live) verdict ::
      liveEntries [] current ++ tail) = pingsOf current ++ pingsIn tail := by
    rw [livePings, hpings, List.filter_append, hboot, List.nil_append,
      List.filter_eq_self]
    exact hlive
  exact ⟨hkept, by rw [hkept, hpings]⟩

/-- The live pings of a check are those of the first primaries, in order. -/
theorem LiveLog.check_positions
    (hlog : LiveLog monitor world origin boot [] current entries)
    (htail : LiveTail monitor origin [] current exit tail) {timeout : Nat}
    (hfaithful : ∀ ping ∈ pingsIn tail,
      ping.Faithful monitor world timeout) :
    (livePings (entries ++ tail)).map (·.position) =
        (List.range (livePings (entries ++ tail)).length).map .primary ∧
      (livePings (entries ++ tail)).length ≤ monitor.primaries.length := by
  rw [(hlog.pingsIn_check htail).1]
  have hsweep := hlog.sweep.positions
  have hbound := hlog.bound
  rw [length_pingsOf] at hsweep
  by_cases hexit : exit = some .cycleCompleted
  · have hnone : pingsIn tail = [] := by
      cases htail with
      | stopped hroom hstop =>
          have hbreak := hstop.isBreak
          simp [IsBreak, hexit] at hbreak
      | failed _ _ _ _ => exact nomatch hexit
      | hung _ _ _ => exact nomatch hexit
      | completed _ _ _ => rfl
    rw [hnone, List.append_nil, length_pingsOf]
    exact ⟨hsweep, hbound⟩
  · rcases htail.last_ping hexit with
      ⟨hnone, -⟩ | ⟨ping, hlast, hposition, -, -, -⟩
    · rw [hnone, List.append_nil, length_pingsOf]
      exact ⟨hsweep, hbound⟩
    · have hroom : current.length < monitor.primaries.length :=
        (hfaithful ping (by simp [hlast])).lt_primaries hposition
      rw [hlast, List.map_append, List.length_append, length_pingsOf,
        List.length_singleton, List.range_succ, List.map_append, hsweep]
      exact ⟨by simp [hposition], hroom⟩

/-- What the last entries of a live pass of a check come to. -/
theorem LiveTail.checkEnd
    (hall : AllSucceeded (pingsOf current)) {found : RunExit}
    (htail : LiveTail monitor origin [] current (some found) tail)
    (hexit : found ≠ .shutdown) :
    CheckEnd monitor (pingsOf current ++ pingsIn tail) found := by
  cases htail with
  | stopped hroom hstop =>
      cases hstop with
      | shutDown htail => exact absurd rfl hexit
      | cutShort hposition hlive houtcome htail => exact absurd rfl hexit
      | aborted hposition hlive houtcome => exact .aborted hall houtcome
  | failed hposition hlive houtcome hsuccess =>
      exact .failed hall houtcome hsuccess
  | hung hposition hlive houtcome => exact .hung hall houtcome
  | completed hfull hclean hbefore =>
      rw [pingsIn_told_cons, pingsIn_nil, List.append_nil]
      exact .completed ((length_pingsOf current).trans hfull) hall

theorem CheckEnd.completed_iff
    {pings : List Ping} {found : RunExit}
    (hend : CheckEnd monitor pings found) :
    found = .cycleCompleted ↔
      pings.length = monitor.primaries.length ∧ AllSucceeded pings := by
  have hfailed : ∀ {before : List Ping} {ping : Ping},
      ping.succeeded = false → ¬AllSucceeded (before ++ [ping]) := by
    intro before ping hfailed hall
    exact nomatch hfailed.symm.trans (hall ping (by simp))
  cases hend with
  | completed hfull hall => exact iff_of_true rfl ⟨hfull, hall⟩
  | failed hbefore houtcome hsuccess =>
      refine iff_of_false nofun fun hboth => hfailed ?_ hboth.2
      rw [Ping.succeeded_of_completed houtcome, hsuccess]
  | hung hbefore houtcome =>
      exact iff_of_false nofun fun hboth =>
        hfailed (Ping.succeeded_of_timedOut houtcome) hboth.2
  | aborted hbefore houtcome =>
      refine iff_of_false nofun fun hboth => hfailed ?_ hboth.2
      simp [Ping.succeeded, Ping.status?, houtcome]

end LivePass

/-! ## No pause in live -/

/-- The reporter of the monitor gives the verdicts of a status check. -/
def Monitor.Checks (monitor : Monitor σ) : Prop :=
  ∀ state callback,
    (monitor.reporter.react state callback).1 =
      OneShotReporter.verdict callback

/-- Where the live pass of a check goes on when `index` probes are done: with
the next one and all well so far, or nowhere. -/
inductive GoesOnChecking (monitor : Monitor σ) (index : Nat) : Run σ → Prop
  | next {state : State σ} (hclean : state.cleanBefore = true)
      (hphase : state.phase = .live)
      (hrange : index < monitor.primaries.length) :
      GoesOnChecking monitor index ⟨state, .ping (.live index true)⟩
  | ended {state : State σ} {exit : RunExit} :
      GoesOnChecking monitor index ⟨state, .ended exit⟩

/-- A check in any phase: it pauses only before live. -/
inductive Run.Unhesitating (monitor : Monitor σ) : Run σ → Prop
  | early {state : State σ} {pass : Pass} (hclean : state.cleanBefore = true)
      (hphase : pass.phase = state.phase) (hearly : state.phase ≠ .live) :
      Unhesitating monitor ⟨state, .ping pass⟩
  | pause {state : State σ} (hclean : state.cleanBefore = true)
      (hearly : state.phase ≠ .live) :
      Unhesitating monitor ⟨state, .pause⟩
  | live {run : Run σ} {index : Nat}
      (hgoes : GoesOnChecking monitor index run) : Unhesitating monitor run

section Unhesitating

variable {monitor : Monitor σ} {state : State σ}

theorem unhesitating_ended (state : State σ) (exit : RunExit) :
    Run.Unhesitating monitor ⟨state, .ended exit⟩ := by
  have hended : GoesOnChecking monitor 0 ⟨state, .ended exit⟩ := .ended
  exact .live hended

theorem goesOnChecking_goOnLive
    (hchecks : monitor.Checks) (hclean : state.cleanBefore = true)
    (hphase : state.phase = .live) (index : Nat) :
    GoesOnChecking monitor index (Run.goOnLive monitor state index true) := by
  unfold Run.goOnLive
  split
  next hrange => exact .next hclean hphase hrange
  next =>
    have hstops : ∀ reporter,
        (monitor.reporter.react reporter .cycle).1 = .stop :=
      fun reporter => hchecks reporter .cycle
    simp only [Run.endLive, State.ask, hclean, Bool.and_self, if_true, hstops,
      Verdict.stops]
    exact .ended

theorem unhesitating_enterLive
    (hchecks : monitor.Checks) (hclean : state.cleanBefore = true) :
    (Run.enterLive monitor state).Unhesitating monitor := by
  have hentered : (Run.enter monitor state .live).cleanBefore = true := hclean
  exact .live (goesOnChecking_goOnLive hchecks hentered rfl 0)

theorem unhesitating_endBootstrap
    (hchecks : monitor.Checks) (hclean : state.cleanBefore = true)
    (seen : List Status) :
    (Run.endBootstrap monitor state seen).Unhesitating monitor := by
  apply unhesitating_enterLive hchecks
  rw [State.foldl_keeps State.cleanBefore,
    State.foldl_keeps State.cleanBefore, hclean]
  · exact fun _ _ => rfl
  · exact fun _ _ => rfl

theorem unhesitating_blocked
    (hclean : state.cleanBefore = true) (hearly : state.phase ≠ .live)
    (blocker : Position) :
    (Run.blocked monitor state blocker).Unhesitating monitor := by
  unfold Run.blocked
  cases monitor.timing.bootstrapLimit with
  | none => exact .pause hclean hearly
  | some limit =>
      simp only
      split
      next => exact .pause hclean hearly
      next => exact unhesitating_ended _ _

theorem unhesitating_goOnBootstrap
    (hchecks : monitor.Checks) (hclean : state.cleanBefore = true)
    (hphase : state.phase = .bootstrap) (index : Nat) (blocker : Option Nat)
    (seen : List Status) :
    (Run.goOnBootstrap monitor state index blocker seen).Unhesitating
      monitor := by
  have hearly : state.phase ≠ .live := by simp [hphase]
  unfold Run.goOnBootstrap
  split
  next => exact .early hclean hphase.symm hearly
  next =>
    cases blocker with
    | none => exact unhesitating_endBootstrap hchecks hclean seen
    | some blocker => exact unhesitating_blocked hclean hearly _

theorem unhesitating_enterBootstrap
    (hchecks : monitor.Checks) (hclean : state.cleanBefore = true) :
    (Run.enterBootstrap monitor state).Unhesitating monitor := by
  apply unhesitating_goOnBootstrap hchecks
  · rw [State.foldl_keeps State.cleanBefore fun _ _ => by rfl]
    exact hclean
  · rw [State.foldl_keeps State.phase fun _ _ => by rfl]
    rfl

theorem unhesitating_goOnDependencies
    (hchecks : monitor.Checks) (hclean : state.cleanBefore = true)
    (hphase : state.phase = .dependencyWait) (index : Nat)
    (blocker : Option Nat) :
    (Run.goOnDependencies monitor state index blocker).Unhesitating
      monitor := by
  have hearly : state.phase ≠ .live := by simp [hphase]
  unfold Run.goOnDependencies
  split
  next => exact .early hclean hphase.symm hearly
  next =>
    cases blocker with
    | none => exact unhesitating_enterBootstrap hchecks hclean
    | some blocker => exact unhesitating_blocked hclean hearly _

theorem unhesitating_begin
    (hchecks : monitor.Checks) (hclean : state.cleanBefore = true) :
    (Run.begin monitor state).Unhesitating monitor := by
  unfold Run.begin
  split
  next => exact unhesitating_enterBootstrap hchecks hclean
  next =>
    have hentered : (Run.enter monitor state .dependencyWait).cleanBefore =
        true := hclean
    exact unhesitating_goOnDependencies hchecks hentered rfl 0 none

theorem unhesitating_resume
    (hchecks : monitor.Checks) (hclean : state.cleanBefore = true)
    (hearly : state.phase ≠ .live) :
    (Run.resume monitor state).Unhesitating monitor := by
  unfold Run.resume
  cases hphase : state.phase with
  | dependencyWait =>
      exact unhesitating_goOnDependencies hchecks hclean hphase 0 none
  | bootstrap => exact unhesitating_goOnBootstrap hchecks hclean hphase 0 none []
  | live => exact absurd hphase hearly

theorem cleanBefore_takeResult (index : Nat) (status : Status) :
    (Run.takeResult monitor state index status).cleanBefore =
      state.cleanBefore :=
  State.cleanBefore_modifySlot ..

theorem phase_takeResult (index : Nat) (status : Status) :
    (Run.takeResult monitor state index status).phase = state.phase :=
  State.phase_modifySlot ..

/-- An answer in live ends a check or is a success. -/
theorem goesOnChecking_answerLive
    (hchecks : monitor.Checks) (hclean : state.cleanBefore = true)
    (hphase : state.phase = .live) (index : Nat) (probe : Probe)
    (outcome : PingOutcome) :
    GoesOnChecking monitor (index + 1)
      (Run.answerLive monitor state index true probe outcome) := by
  cases outcome with
  | completed status =>
      have hstops : ∀ reporter failure,
          (monitor.reporter.react reporter (.failure failure)).1 = .stop :=
        fun reporter failure => hchecks reporter (.failure failure)
      rw [Run.answerLive_completed hphase]
      simp only [State.ask, hstops, Verdict.stops, if_true]
      split
      next =>
        apply goesOnChecking_goOnLive hchecks
        · rw [Run.cleanBefore_heartbeat, cleanBefore_takeResult, hclean]
        · rw [Run.phase_heartbeat, phase_takeResult, hphase]
      next => exact .ended
  | timedOut =>
      have hstops : ∀ reporter phase name last now,
          (monitor.reporter.react reporter (.timedOut phase name last now)).1 =
            .stop :=
        fun reporter phase name last now => hchecks reporter _
      simp only [Run.answerLive, State.ask, hstops, Verdict.stops, if_true]
      exact .ended
  | aborted abort => exact .ended

theorem unhesitating_answer
    (hchecks : monitor.Checks) (hclean : state.cleanBefore = true)
    {pass : Pass} (hphase : pass.phase = state.phase)
    (hearly : state.phase ≠ .live) (probe : Probe) (safeMode : Bool)
    (outcome : PingOutcome) :
    (Run.answer monitor state pass probe safeMode outcome).Unhesitating
      monitor := by
  cases pass with
  | dependencies index blocker =>
      cases outcome with
      | completed status =>
          apply unhesitating_goOnDependencies hchecks
          · exact (State.cleanBefore_modifySlot ..).trans hclean
          · exact (State.phase_modifySlot ..).trans hphase.symm
      | timedOut =>
          exact unhesitating_goOnDependencies hchecks hclean hphase.symm _ _
      | aborted abort => exact unhesitating_ended _ _
  | bootstrap index blocker seen =>
      cases outcome with
      | completed status =>
          apply unhesitating_goOnBootstrap hchecks
          · exact (State.cleanBefore_modifySlot ..).trans hclean
          · exact (State.phase_modifySlot ..).trans hphase.symm
      | timedOut =>
          exact unhesitating_goOnBootstrap hchecks hclean hphase.symm _ _ _
      | aborted abort => exact unhesitating_ended _ _
  | live index clean => exact absurd hphase.symm hearly

section Stepping

variable {run : Run σ} {index : Nat}

theorem goesOnChecking_step
    (hchecks : monitor.Checks) (world : World) (stop : Option Nat)
    (hgoes : GoesOnChecking monitor index run) :
    GoesOnChecking monitor (index + 1)
      (Run.step monitor world stop run) := by
  cases hgoes with
  | @next state hclean hphase hrange =>
      have hprobe : monitor.probe? (Pass.live index true).position =
          some monitor.primaries[index] := List.getElem?_eq_getElem hrange
      simp only [Run.step, hprobe, Run.stepPing_eq]
      split
      next => exact .ended
      next =>
        have hrecorded := recorded_afterAnswer world state (.live index true)
          monitor.primaries[index]
        exact goesOnChecking_answerLive hchecks
          (hrecorded.cleanBefore.trans hclean) (hrecorded.phase.trans hphase)
          index _ _
  | ended => exact .ended

theorem goesOnChecking_play
    (hchecks : monitor.Checks) (world : World) (stop : Option Nat)
    (steps : Nat) (hgoes : GoesOnChecking monitor index run) :
    GoesOnChecking monitor (index + steps)
      (Run.play monitor world stop steps run) := by
  induction steps generalizing run index with
  | zero => exact hgoes
  | succ steps ih =>
      rw [Run.play_succ, Nat.add_succ, ← Nat.succ_add]
      exact ih (goesOnChecking_step hchecks world stop hgoes)

/-- A live pass of a check has no more steps than there are primaries. -/
theorem GoesOnChecking.ended_of_le
    (hgoes : GoesOnChecking monitor index run)
    (hle : monitor.primaries.length ≤ index) :
    ∃ exit, run.control = .ended exit := by
  cases hgoes with
  | next hclean hphase hrange => exact absurd hrange (Nat.not_lt_of_le hle)
  | ended => exact ⟨_, rfl⟩

theorem Run.Unhesitating.early_of_pause
    (hrun : run.Unhesitating monitor) (hpause : run.control = .pause) :
    run.state.phase ≠ .live := by
  cases hrun with
  | early hclean hphase hearly => exact nomatch hpause
  | pause hclean hearly => exact hearly
  | live hgoes =>
      cases hgoes with
      | next hclean hphase hrange => exact nomatch hpause
      | ended => exact nomatch hpause

theorem unhesitating_step
    (hchecks : monitor.Checks) (world : World) (stop : Option Nat)
    (hrun : run.Unhesitating monitor) :
    (Run.step monitor world stop run).Unhesitating monitor := by
  cases hrun with
  | @early state pass hclean hphase hearly =>
      simp only [Run.step]
      split
      next probe hprobe =>
        rw [Run.stepPing_eq]
        split
        next => exact unhesitating_ended _ _
        next =>
          have hrecorded := recorded_afterAnswer world state pass probe
          apply unhesitating_answer hchecks
          · exact hrecorded.cleanBefore.trans hclean
          · exact hphase.trans hrecorded.phase.symm
          · rwa [hrecorded.phase]
      next => exact .early hclean hphase hearly
  | @pause state hclean hearly =>
      simp only [Run.step, Run.stepPause_eq]
      split
      next => exact unhesitating_ended _ _
      next => exact unhesitating_resume hchecks hclean hearly
  | live hgoes => exact .live (goesOnChecking_step hchecks world stop hgoes)

theorem unhesitating_play
    (hchecks : monitor.Checks) (world : World) (stop : Option Nat)
    (steps : Nat) (hrun : run.Unhesitating monitor) :
    (Run.play monitor world stop steps run).Unhesitating monitor := by
  induction steps generalizing run with
  | zero => exact hrun
  | succ steps ih =>
      rw [Run.play_succ]
      exact ih (unhesitating_step hchecks world stop hrun)

end Stepping

end Unhesitating

/-! ## The record of a check -/

section Recording

variable {monitor : Monitor σ} {world : World} {stop : Option Nat} {fuel : Nat}
  {origin final state : State σ} {exit : Option RunExit}
  {entries : List Entry} {pass : Pass}

theorem Standing.beforeLive
    (hstanding : Standing monitor world origin state pass entries)
    (hearly : state.phase ≠ .live) :
    BeforeLive entries := by
  cases hstanding with
  | waiting hlog hroom hphase hclean => exact hlog.beforeLive
  | booting hlog hroom hphase hclean => exact hlog.beforeLive
  | living hlog hroom hphase hclean => exact absurd hphase hearly

/-- A run that has written of live is in live, or over. -/
theorem goesOnChecking_of_live
    {run : Run σ} (hrun : run.Unhesitating monitor)
    (haccounts : Accounts monitor world origin run entries)
    (hlive : .phase .live ∈ callbacksIn entries) :
    ∃ index, GoesOnChecking monitor index run := by
  cases hrun with
  | early hclean hphase hearly =>
      cases haccounts with
      | ping _ _ hstanding _ =>
          exact absurd hlive (hstanding.beforeLive hearly).phase_notMem
  | pause hclean hearly =>
      cases haccounts with
      | pause _ _ hstanding _ =>
          exact absurd hlive (hstanding.beforeLive hearly).phase_notMem
  | live hgoes => exact ⟨_, hgoes⟩

theorem check_returns
    (hchecks : monitor.Checks) (hclean : origin.cleanBefore = true)
    (hrun : monitor.run world stop fuel origin = (.ok exit, final))
    (hlive : .phase .live ∈ callbacksIn (final.since origin)) :
    ∃ found last,
      monitor.run world stop (fuel + monitor.primaries.length) origin =
        (.ok (some found), last) := by
  have hstarted : origin.started = true := by
    by_contra hidle
    rw [Monitor.run, if_neg hidle] at hrun
    cases (Prod.mk.inj hrun).1
  obtain ⟨control, hplayed, -, haccounts⟩ := run_accounts hrun
  have hunhesitating := unhesitating_play hchecks world stop fuel
    (unhesitating_begin hchecks hclean)
  rw [hplayed] at hunhesitating
  obtain ⟨index, hgoes⟩ :=
    goesOnChecking_of_live hunhesitating haccounts hlive
  have hlast := goesOnChecking_play hchecks world stop
    monitor.primaries.length hgoes
  obtain ⟨found, hended⟩ := hlast.ended_of_le (Nat.le_add_left _ index)
  refine ⟨found, (Run.play monitor world stop
    (fuel + monitor.primaries.length) (Run.begin monitor origin)).state, ?_⟩
  rw [Monitor.run, if_pos hstarted, Run.play_add, hplayed]
  simp only [Run.exit?, hended]

end Recording

/-! ## The main statement -/

theorem Monitor.checks_of_reporter
    {monitor : Monitor OneShotReporter}
    (hreporter : monitor.reporter = OneShotReporter.reporter) :
    monitor.Checks := by
  intro state callback
  rw [hreporter]
  rfl

section Records

variable {monitor : Monitor σ} {world : World} {origin : State σ}
  {entries : List Entry} {exit : Option RunExit}

/-- What live comes to in a check. -/
structure LiveCheck
    (monitor : Monitor σ) (exit : Option RunExit) (entries : List Entry) :
    Prop where
  positions :
    (livePings entries).map (·.position) =
      (List.range (livePings entries).length).map .primary
  bound : (livePings entries).length ≤ monitor.primaries.length
  opened : ∃ earlier opening,
    pingsIn entries = earlier ++ (opening ++ livePings entries) ∧
      CleanPass monitor false opening
  decides : ∀ found, exit = some found → found ≠ .shutdown →
    CheckEnd monitor (livePings entries) found

theorem LiveLog.liveCheck
    {boot log tail : List Entry} {passes : List LivePass}
    {current : List Block}
    (hlog : LiveLog monitor world origin boot passes current log)
    (htail : LiveTail monitor origin passes current exit tail)
    (hclean : origin.cleanBefore = true) (hdecisive : Decisive (log ++ tail))
    {timeout : Nat}
    (hfaithful : ∀ ping ∈ pingsIn (log ++ tail),
      ping.Faithful monitor world timeout) :
    LiveCheck monitor exit (log ++ tail) := by
  have hlogged : Decisive log :=
    hdecisive.mono (List.subset_append_left _ _)
  obtain rfl := hlog.passes_eq_nil hclean hlogged
  obtain ⟨before, opening, hbooted⟩ := hlog.booted
  have hopening := hbooted.openingPass
  obtain ⟨earlier, hsuffix⟩ := hopening.suffix
  obtain ⟨hpings, hsplit⟩ := hlog.pingsIn_check htail
  obtain ⟨hpositions, hbound⟩ := hlog.check_positions htail fun ping hmem =>
    hfaithful ping (by simp [hmem])
  refine
    { positions := hpositions
      bound := hbound
      opened := ⟨earlier, opening, ?_, ?_⟩
      decides := ?_ }
  · rw [hsplit, ← hsuffix, List.append_assoc]
  · exact ⟨hopening.sweep, hopening.full, hopening.clean⟩
  · rintro found rfl hexit
    rw [hpings]
    exact htail.checkEnd (hlog.current_succeeded hlogged) hexit

/-- The live pings of a completed check are a clean pass. -/
theorem LiveCheck.cleanPass
    (hcheck : LiveCheck monitor (some .cycleCompleted) entries) :
    CleanPass monitor true (livePings entries) := by
  have hend := hcheck.decides .cycleCompleted rfl nofun
  obtain ⟨hfull, hall⟩ := hend.completed_iff.mp rfl
  refine ⟨⟨hcheck.positions, ?_, ?_⟩, hfull, hall⟩
  · intro ping hmem
    exact (List.mem_filter.mp hmem).2
  · intro ping hmem
    obtain ⟨status, houtcome, -⟩ :=
      Ping.exists_status_of_succeeded (hall ping hmem)
    exact .inl ⟨status, houtcome⟩

theorem RunLog.liveCheck
    (hlog : RunLog monitor world origin exit entries)
    (hclean : origin.cleanBefore = true) (hdecisive : Decisive entries)
    {timeout : Nat}
    (hfaithful : ∀ ping ∈ pingsIn entries,
      ping.Faithful monitor world timeout)
    (hlive : .phase .live ∈ callbacksIn entries) :
    LiveCheck monitor exit entries := by
  rcases hlog.beforeLive_or_living with
    hbefore | ⟨boot, passes, current, log, tail, rfl, hlog, htail⟩
  · exact absurd hlive hbefore.phase_notMem
  · exact hlog.liveCheck htail hclean hdecisive hfaithful

/-- Each primary has at most one live ping, and the first ones have it. -/
theorem RunLog.livePings_positions
    (hlog : RunLog monitor world origin exit entries)
    (hclean : origin.cleanBefore = true) (hdecisive : Decisive entries)
    {timeout : Nat}
    (hfaithful : ∀ ping ∈ pingsIn entries,
      ping.Faithful monitor world timeout) :
    (livePings entries).map (·.position) =
        (List.range (livePings entries).length).map .primary ∧
      (livePings entries).length ≤ monitor.primaries.length := by
  rcases hlog.beforeLive_or_living with
    hbefore | ⟨boot, passes, current, log, tail, rfl, hlog, htail⟩
  · rw [livePings_eq_nil hbefore]
    exact ⟨rfl, Nat.zero_le _⟩
  · have hcheck := hlog.liveCheck htail hclean hdecisive hfaithful
    exact ⟨hcheck.positions, hcheck.bound⟩

/-- A run that ends in live's own exits has been there. -/
theorem RunLog.reachedLive
    {found : RunExit} (hlog : RunLog monitor world origin (some found) entries)
    (hfound : found = .cycleCompleted ∨ ∃ status, found = .probeFailed status) :
    .phase .live ∈ callbacksIn entries := by
  have hunbroken : ∀ {position : Position} {live : Bool} {tail : List Entry},
      ¬Interrupted origin position live (some found) tail := by
    intro position live tail hstop
    have hbreak := hstop.isBreak
    rcases hfound with rfl | ⟨status, rfl⟩
    · simp [IsBreak] at hbreak
    · simp [IsBreak] at hbreak
  cases hlog with
  | waiting hlog hroom hstop => exact absurd hstop hunbroken
  | waitTimedOut hlog hfull hblocked => simp at hfound
  | booting hlog hroom hstop => exact absurd hstop hunbroken
  | bootTimedOut hlog hfull hblocked => simp at hfound
  | living hlog htail =>
      obtain ⟨instant, verdict, hwritten⟩ := hlog.written
      simp [hwritten]

end Records

/-- A status check makes one live pass, which decides it: either a second clean
pass in a row or the first ping that did not succeed. -/
theorem check_record
    {monitor : Monitor OneShotReporter} {world : World} {stop : Option Nat}
    {fuel : Nat} {origin final : State OneShotReporter}
    {exit : Option RunExit}
    (hreporter : monitor.reporter = OneShotReporter.reporter)
    (hfresh : monitor.Fresh origin)
    (hrun : monitor.run world stop fuel origin = (.ok exit, final)) :
    CheckRecord monitor world stop fuel origin exit (final.since origin) := by
  obtain ⟨hcontinues, hlog⟩ := run_log hrun
  have hchecks := Monitor.checks_of_reporter hreporter
  have hclean := hfresh.cleanBefore
  have hdecisive := decisive_of_relays hreporter (run_relays hrun)
  have hlive := hlog.liveCheck hclean hdecisive hcontinues.faithful
  have hunhesitating : ∀ steps,
      (Run.play monitor world stop steps (Run.begin monitor
        origin)).Unhesitating monitor := fun steps =>
    unhesitating_play hchecks world stop steps
      (unhesitating_begin hchecks hclean)
  obtain ⟨hpositions, hbound⟩ :=
    hlog.livePings_positions hclean hdecisive hcontinues.faithful
  exact
    { positions := hpositions
      bound := hbound
      neverPauses := fun steps => (hunhesitating steps).early_of_pause
      opened := fun hreached => (hlive hreached).opened
      returns := check_returns hchecks hclean hrun
      decides := fun hreached => (hlive hreached).decides
      completed_iff := fun hreached found hexit hnot =>
        ((hlive hreached).decides found hexit hnot).completed_iff
      zero_iff := fun found _ => found.statusCheckCode_eq_zero_iff
      failed_iff := fun found _ => found.statusCheckCode_eq_neg_two_iff
      open_iff := fun found _ => found.statusCheckCode_eq_neg_one_iff
      failed := by
        rintro status rfl
        exact hlog.reachedLive (.inr ⟨status, rfl⟩)
      twice := by
        rintro found rfl hzero hnot
        obtain rfl | rfl := found.statusCheckCode_eq_zero_iff.mp hzero
        · have hchecked := hlive (hlog.reachedLive (.inl rfl))
          obtain ⟨earlier, opening, hsplit, hopening⟩ := hchecked.opened
          exact ⟨earlier, opening, hsplit, hopening, hchecked.cleanPass⟩
        · exact absurd rfl hnot }

theorem check_record_sample :
    CheckRecord Sample.check Sample.recovery none 20 Sample.checkStart
      (some .cycleCompleted) (Sample.checkEnd.since Sample.checkStart) :=
  check_record rfl Sample.check_fresh rfl

end HealthMonitor
