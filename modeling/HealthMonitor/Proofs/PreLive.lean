import HealthMonitor.Proofs.BootstrapCompletion
import HealthMonitor.Proofs.DependencyGate
import HealthMonitor.Proofs.Instants

/-!
# The phases before live

Both phases before live follow one plan: pass after pass over the probes of the
phase, until a pass clears the phase, a time limit ends the run after a pass
that does not, or the run is broken off.  `RunLog.phaseLog` finds this plan in
the entries of every run.
-/

namespace HealthMonitor

variable {σ : Type}

/-! ## Clearing a phase -/

/-- Whether a dependency is satisfied by a ping of a run from `origin`, made
after the pings `earlier` of that run: earlier runs count for reentry too. -/
def Monitor.SatisfiesSince
    (monitor : Monitor σ) (world : World) (origin : State σ)
    (earlier : List Ping) (ping : Ping) : Prop :=
  monitor.Satisfies world earlier ping ∨
    ping.succeeded = true ∧ monitor.timing.policy = .ignoreReentry ∧
      ∃ slot, origin.slot? ping.position = some slot ∧
        slot.leftSafeMode = true

/-- Whether a pass over the probes of a phase, made after the passes with the
pings `earlier`, ends the phase well. -/
def Monitor.Clears
    (monitor : Monitor σ) (world : World) (origin : State σ)
    (earlier : List Ping) : Phase → List Ping → Prop
  | .dependencyWait, pass =>
      ∀ ping ∈ pass, monitor.SatisfiesSince world origin earlier ping
  | .bootstrap, pass | .live, pass => ∀ ping ∈ pass, ping.succeeded = true

/-- None of some passes clears the phase. -/
def Monitor.Blocks
    (monitor : Monitor σ) (world : World) (origin : State σ) (phase : Phase)
    (passes : List (List Ping)) : Prop :=
  ∀ before pass after, passes = before ++ pass :: after →
    ¬monitor.Clears world origin before.flatten phase pass

section Clearing

variable {monitor : Monitor σ} {world : World} {origin : State σ}

theorem opensGate_iff_satisfiesSince
    (hreachable : monitor.Reachable origin) (earlier : List Ping) {ping : Ping}
    {index : Nat} (hposition : ping.position = .dependency index) :
    ping.opensGate monitor world origin earlier = true ↔
      monitor.SatisfiesSince world origin earlier ping := by
  have hslots := hreachable.isSome_slot? ping.position
  unfold Ping.opensGate Monitor.SatisfiesSince Monitor.Satisfies
  cases hprobe : monitor.probe? ping.position with
  | none =>
      rw [hprobe, Option.isSome_none, Option.isSome_eq_false_iff,
        Option.isNone_iff_eq_none] at hslots
      simp [hslots]
  | some probe =>
      rw [hprobe] at hslots
      obtain ⟨slot, hslot⟩ := Option.isSome_iff_exists.mp hslots
      have hwatched :
          monitor.watchesSafeMode ping.position = probe.hasSafeMode := by
        rw [hposition] at hprobe ⊢
        have hdependency : monitor.dependencies[index]? = some probe := hprobe
        simp [Monitor.watchesSafeMode, hdependency]
      cases hstatus : ping.status? with
      | none =>
          have hfailed : ping.succeeded = false := by simp [Ping.succeeded, hstatus]
          constructor
          · simp
          · rintro (⟨_, status, -, houtcome, -⟩ | ⟨hsucceeded, -⟩)
            · simp [Ping.status?_of_completed houtcome] at hstatus
            · simp [hfailed] at hsucceeded
      | some status =>
          have houtcome := Ping.outcome_of_status? hstatus
          have hsucceeded := Ping.succeeded_of_completed houtcome
          simp only [hslot, Option.map_some, Option.getD_some, Run.satisfied,
            Bool.and_eq_true, Bool.or_eq_true, beq_iff_eq,
            Slot.leftSafeMode_absorbAll, hwatched, houtcome, hsucceeded,
            Option.some.injEq, PingOutcome.completed.injEq]
          cases hcapable : probe.hasSafeMode with
          | false => grind
          | true => grind

theorem gateBlocker_eq_none_iff_clears
    (hreachable : monitor.Reachable origin) (earlier : List Ping)
    {pass : List Ping} (hsweep : Sweep .dependency false pass) :
    gateBlocker monitor world origin earlier pass = none ↔
      monitor.Clears world origin earlier .dependencyWait pass := by
  have hopens : ∀ ping ∈ pass,
      (ping.opensGate monitor world origin earlier = true ↔
        monitor.SatisfiesSince world origin earlier ping) := by
    intro ping hmem
    obtain ⟨index, -, hposition⟩ := hsweep.exists_place hmem
    exact opensGate_iff_satisfiesSince hreachable earlier hposition
  simp only [gateBlocker, List.findIdx?_eq_none_iff, Bool.not_eq_false']
  exact forall₂_congr hopens

theorem Monitor.Blocks.concat
    {phase : Phase} {passes : List (List Ping)} {pass : List Ping}
    (hblocks : monitor.Blocks world origin phase passes)
    (hpass : ¬monitor.Clears world origin passes.flatten phase pass) :
    monitor.Blocks world origin phase (passes ++ [pass]) :=
  forall_split_concat hblocks hpass

theorem WaitLog.blocks
    (hreachable : monitor.Reachable origin) {passes : List (List Ping)}
    {current : List Ping} {entries : List Entry}
    (hlog : WaitLog monitor world origin passes current entries) :
    monitor.Blocks world origin .dependencyWait passes := by
  intro before pass after hsplit
  have hmem : pass ∈ passes := by simp [hsplit]
  rw [← gateBlocker_eq_none_iff_clears hreachable _ (hlog.complete pass hmem).1]
  exact hlog.blocked before pass after hsplit

theorem WaitLog.not_clears
    (hreachable : monitor.Reachable origin) {passes : List (List Ping)}
    {pass : List Ping} {entries : List Entry}
    (hlog : WaitLog monitor world origin passes pass entries) {blocker : Nat}
    (hblocked :
      gateBlocker monitor world origin passes.flatten pass = some blocker) :
    ¬monitor.Clears world origin passes.flatten .dependencyWait pass := by
  rw [← gateBlocker_eq_none_iff_clears hreachable _ hlog.sweep, hblocked]
  exact Option.some_ne_none blocker

theorem BootLog.blocks
    {wait : List Entry} {passes : List (List Ping)} {current : List Ping}
    {entries : List Entry}
    (hlog : BootLog monitor world origin wait passes current entries) :
    monitor.Blocks world origin .bootstrap passes := by
  intro before pass after hsplit
  have hmem : pass ∈ passes := by simp [hsplit]
  have hblocked := hlog.blocked pass hmem
  rwa [ne_eq, downBlocker_eq_none_iff] at hblocked

theorem not_clears_of_downBlocker
    (earlier : List Ping) {pass : List Ping} {blocker : Nat}
    (hblocked : downBlocker pass = some blocker) :
    ¬monitor.Clears world origin earlier .bootstrap pass := by
  rw [Monitor.Clears, ← downBlocker_eq_none_iff, hblocked]
  exact Option.some_ne_none blocker

end Clearing

/-! ## The plan of a phase -/

/-- What a run writes of a phase before live up to its last ping there. -/
def Monitor.phaseEntries
    (monitor : Monitor σ) (phase : Phase) (instant : Nat) (verdict : Verdict)
    (pings : List Ping) : List Entry :=
  .told instant (.phase phase) verdict ::
    ((if phase = .bootstrap then monitor.bootstrapEntries .beganBootstrap
      else []) ++ pings.map .pinged)

/-- Entries of phases after `phase`. -/
structure Past (phase : Phase) (entries : List Entry) : Prop where
  pings : ∀ ping ∈ pingsIn entries, phase.rank < ping.phase.rank
  phases : ∀ other, .phase other ∈ callbacksIn entries →
    phase.rank < other.rank
  limits : ∀ other probe last now,
    .timedOut other probe last now ∈ callbacksIn entries →
      phase.rank < other.rank

/-- How a phase ends: a pass clears it and a later phase is entered at once, or
a pass that does not is the last of the run, or the run is broken off. -/
inductive PhaseEnd
    (monitor : Monitor σ) (world : World) (origin : State σ) (phase : Phase) :
    Option RunExit → List (List Ping) → List Ping → List Entry → Prop
  | left {exit : Option RunExit} {passes : List (List Ping)} {pass : List Ping}
      {quiet more : List Entry} {next : Phase} (instant : Nat)
      (verdict : Verdict)
      (hblocks : monitor.Blocks world origin phase passes)
      (hclears : monitor.Clears world origin passes.flatten phase pass)
      (hexit : ∀ probe elapsed last,
        exit ≠ some (.bootstrapTimedOut phase probe elapsed last))
      (hquiet : pingsIn quiet = [])
      (hpast :
        Past phase (quiet ++ .told instant (.phase next) verdict :: more)) :
      PhaseEnd monitor world origin phase exit (passes ++ [pass]) []
        (quiet ++ .told instant (.phase next) verdict :: more)
  | timedOut {passes : List (List Ping)} {pass : List Ping} {probe : String}
      {elapsed instant : Nat} {last : Option Status} {verdict : Verdict}
      (hblocks : monitor.Blocks world origin phase (passes ++ [pass])) :
      PhaseEnd monitor world origin phase
        (some (.bootstrapTimedOut phase probe elapsed last))
        (passes ++ [pass]) []
        [.told instant (.timedOut phase probe last instant) verdict]
  | broken {exit : Option RunExit} {passes : List (List Ping)}
      {cut : List Ping} {after : List Entry}
      (hblocks : monitor.Blocks world origin phase passes)
      (hcut : CutSweep phase.place false (monitor.countIn phase) cut)
      (hexit : IsBreak exit)
      (hbetween : cut = [] → exit = none ∨ exit = some .shutdown)
      (hafter : after = [] ∨ IsFarewell origin after) :
      PhaseEnd monitor world origin phase exit passes cut after

/-- A phase before live: its complete passes and one that was cut short, with
all that was written before its entry and after its last ping. -/
structure PhaseLog
    (monitor : Monitor σ) (world : World) (origin : State σ) (phase : Phase)
    (exit : Option RunExit) (before : List Entry) (passes : List (List Ping))
    (cut : List Ping) (after : List Entry) : Prop where
  pings : ∀ ping ∈ pingsIn before, ping.phase.rank < phase.rank
  callbacks : ∀ callback ∈ callbacksIn before,
    callback = .phase .dependencyWait
  complete : ∀ pass ∈ passes,
    Sweep phase.place false pass ∧ pass.length = monitor.countIn phase
  ended : PhaseEnd monitor world origin phase exit passes cut after

section Parts

variable {monitor : Monitor σ} {world : World} {origin : State σ}
  {phase : Phase} {entries more : List Entry}

theorem Past.append
    (hpast : Past phase entries) (hmore : Past phase more) :
    Past phase (entries ++ more) where
  pings := by
    rw [pingsIn_append, List.forall_mem_append]
    exact ⟨hpast.pings, hmore.pings⟩
  phases := by
    intro other hmem
    rw [callbacksIn_append, List.mem_append] at hmem
    exact hmem.elim (hpast.phases other) (hmore.phases other)
  limits := by
    intro other probe last now hmem
    rw [callbacksIn_append, List.mem_append] at hmem
    exact hmem.elim (hpast.limits other probe last now)
      (hmore.limits other probe last now)

theorem Past.told
    (hpast : Past phase entries) {next : Phase}
    (hnext : phase.rank < next.rank) (instant : Nat) (verdict : Verdict) :
    Past phase (.told instant (.phase next) verdict :: entries) where
  pings := hpast.pings
  phases := by
    intro other hmem
    rw [callbacksIn_told_cons, List.mem_cons] at hmem
    rcases hmem with heq | hold
    · exact Callback.phase.inj heq ▸ hnext
    · exact hpast.phases other hold
  limits := by
    intro other probe last now hmem
    rw [callbacksIn_told_cons, List.mem_cons] at hmem
    exact hpast.limits other probe last now (hmem.resolve_left nofun)

theorem Past.earlier
    {later : Phase} (hpast : Past later entries)
    (hrank : phase.rank ≤ later.rank) : Past phase entries where
  pings := fun ping hmem => Nat.lt_of_le_of_lt hrank (hpast.pings ping hmem)
  phases := fun other hmem =>
    Nat.lt_of_le_of_lt hrank (hpast.phases other hmem)
  limits := fun other probe last now hmem =>
    Nat.lt_of_le_of_lt hrank (hpast.limits other probe last now hmem)

theorem Ping.phase_eq_of_place
    {ping : Ping} {index : Nat} (hphase : phase ≠ .live)
    (hposition : ping.position = phase.place index)
    (hlive : ping.live = false) :
    ping.phase = phase := by
  unfold Ping.phase
  rw [hposition, hlive]
  cases phase with
  | dependencyWait => rfl
  | bootstrap => rfl
  | live => exact absurd rfl hphase

theorem Ping.phase_of_dependency
    {ping : Ping} {index : Nat} (hposition : ping.position = .dependency index) :
    ping.phase = .dependencyWait := by
  unfold Ping.phase
  rw [hposition]

theorem Ping.rank_phase_pos
    {ping : Ping} {index : Nat} (hposition : ping.position = .primary index) :
    Phase.dependencyWait.rank < ping.phase.rank := by
  unfold Ping.phase
  rw [hposition]
  cases ping.live with
  | false => exact Nat.zero_lt_one
  | true => exact Nat.two_pos

theorem past_began
    (monitor : Monitor σ) {pings : List Ping}
    (hpings : ∀ ping ∈ pings, ∃ index, ping.position = .primary index) :
    Past .dependencyWait
      (monitor.bootstrapEntries .beganBootstrap ++ pings.map .pinged) where
  pings := by
    rw [pingsIn_append, Monitor.bootstrapEntries, pingsIn_map_beganBootstrap,
      pingsIn_map_pinged, List.nil_append]
    intro ping hmem
    obtain ⟨index, hposition⟩ := hpings ping hmem
    exact Ping.rank_phase_pos hposition
  phases := by simp [Monitor.bootstrapEntries]
  limits := by simp [Monitor.bootstrapEntries]

theorem Interrupted.past
    {index : Nat} {live : Bool} {exit : Option RunExit} {tail : List Entry}
    (hstop : Interrupted origin (.primary index) live exit tail) :
    Past .dependencyWait tail where
  pings := by
    intro ping hmem
    have hfound : ∃ found, ping.position = .primary found :=
      hstop.exists_index ping hmem
    obtain ⟨found, hposition⟩ := hfound
    exact Ping.rank_phase_pos hposition
  phases := fun other hmem => nomatch hstop.callback_eq _ hmem
  limits := fun other probe last now hmem =>
    nomatch hstop.callback_eq _ hmem

theorem past_ended
    (monitor : Monitor σ) {booted : List Entry} {statuses : List Status}
    (hbooted :
      booted.map Entry.callback? = statuses.map (some ∘ .booted)) :
    Past .bootstrap (monitor.bootstrapEntries .endedBootstrap ++ booted) where
  pings := by
    simp [Monitor.bootstrapEntries, pingsIn_eq_nil (told_of_booted hbooted)]
  phases := by simp [Monitor.bootstrapEntries, callbacksIn_booted hbooted]
  limits := by simp [Monitor.bootstrapEntries, callbacksIn_booted hbooted]

theorem past_timedOut
    {later : Phase} (hlater : phase.rank < later.rank) (instant : Nat)
    (probe : String) (last : Option Status) (verdict : Verdict) :
    Past phase [.told instant (.timedOut later probe last instant) verdict] where
  pings := by simp
  phases := by simp
  limits := by
    intro other found status now hmem
    rw [callbacksIn_told_cons, callbacksIn_nil, List.mem_singleton] at hmem
    obtain ⟨rfl, -⟩ := Callback.timedOut.inj hmem
    exact hlater

theorem past_of_live
    (hpings : ∀ ping ∈ pingsIn entries,
      ping.live = true ∧ ∃ index, ping.position = .primary index)
    (hcallbacks : ∀ callback ∈ callbacksIn entries,
      callback = .unregister ∨ callback.isLive = true) :
    Past .bootstrap entries where
  pings := by
    intro ping hmem
    obtain ⟨hlive, index, hposition⟩ := hpings ping hmem
    unfold Ping.phase
    rw [hposition, hlive]
    exact Nat.one_lt_two
  phases := by
    intro other hmem
    rcases hcallbacks _ hmem with heq | hisLive
    · exact nomatch heq
    · exact nomatch hisLive
  limits := by
    intro other probe last now hmem
    rcases hcallbacks _ hmem with heq | hisLive
    · exact nomatch heq
    · cases other with
      | dependencyWait => exact nomatch hisLive
      | bootstrap => exact nomatch hisLive
      | live => exact Nat.one_lt_two

theorem LiveTail.past
    {boot log : List Entry} {passes : List LivePass} {current : List Block}
    (hlog : LiveLog monitor world origin boot passes current log)
    {exit : Option RunExit} {tail : List Entry}
    (htail : LiveTail monitor origin passes current exit tail) :
    Past .bootstrap (liveEntries passes current ++ tail) := by
  have hlive : Past .bootstrap (liveEntries passes current) :=
    past_of_live hlog.live_pings fun callback hmem =>
      .inr (hlog.live_callbacks callback hmem)
  exact hlive.append (past_of_live htail.live_pings htail.callbacks)

/-- Between two pings a run is stopped by nothing but a shutdown. -/
theorem Interrupted.of_pingsIn_eq_nil
    {position : Position} {live : Bool} {exit : Option RunExit}
    {tail : List Entry}
    (hstop : Interrupted origin position live exit tail)
    (hquiet : pingsIn tail = []) :
    exit = none ∨ exit = some .shutdown := by
  cases hstop with
  | underway => exact .inl rfl
  | shutDown htail => exact .inr rfl
  | cutShort hposition hlive houtcome htail => exact nomatch hquiet
  | aborted hposition hlive houtcome => exact nomatch hquiet

theorem IsBreak.ne_limit
    {exit : Option RunExit} (hbreak : IsBreak exit) :
    ∀ probe elapsed last,
      exit ≠ some (.bootstrapTimedOut phase probe elapsed last) := by
  rintro probe elapsed last rfl
  rcases hbreak with hnone | hshutdown | ⟨abort, habort⟩
  · exact nomatch hnone
  · exact nomatch hshutdown
  · exact nomatch habort

theorem LiveTail.ne_limit
    {passes : List LivePass} {current : List Block} {exit : Option RunExit}
    {tail : List Entry}
    (htail : LiveTail monitor origin passes current exit tail) :
    ∀ probe elapsed last,
      exit ≠ some (.bootstrapTimedOut phase probe elapsed last) := by
  cases htail with
  | stopped hroom hstop => exact hstop.isBreak.ne_limit
  | failed hposition hlive houtcome hsuccess => simp
  | hung hposition hlive houtcome => simp
  | completed hfull hclean hbefore => simp

end Parts

/-! ## The plan in every run -/

/-- Some entries that hold the plan of a phase. -/
def HasPhase
    (monitor : Monitor σ) (world : World) (origin : State σ) (phase : Phase)
    (exit : Option RunExit) (entries : List Entry) : Prop :=
  ∃ before instant verdict passes cut after,
    entries =
        before ++
          (monitor.phaseEntries phase instant verdict (passes.flatten ++ cut) ++
            after) ∧
      PhaseLog monitor world origin phase exit before passes cut after

/-- A phase that has not ended: its complete passes, none of which clears it,
and the pings of the pass under way. -/
structure Underway
    (monitor : Monitor σ) (world : World) (origin : State σ) (phase : Phase)
    (before : List Entry) (passes : List (List Ping)) (current : List Ping)
    (log : List Entry) : Prop where
  written : ∃ instant verdict,
    log =
      before ++
        monitor.phaseEntries phase instant verdict (passes.flatten ++ current)
  pings : ∀ ping ∈ pingsIn before, ping.phase.rank < phase.rank
  callbacks : ∀ callback ∈ callbacksIn before,
    callback = .phase .dependencyWait
  complete : ∀ pass ∈ passes,
    Sweep phase.place false pass ∧ pass.length = monitor.countIn phase
  blocks : monitor.Blocks world origin phase passes
  sweep : Sweep phase.place false current

section Plans

variable {monitor : Monitor σ} {world : World} {origin : State σ}
  {phase : Phase} {before log : List Entry} {passes : List (List Ping)}
  {current : List Ping}

theorem WaitLog.underway
    (hreachable : monitor.Reachable origin)
    (hlog : WaitLog monitor world origin passes current log) :
    Underway monitor world origin .dependencyWait [] passes current log where
  written := hlog.written
  pings := by simp
  callbacks := by simp
  complete := hlog.complete
  blocks := hlog.blocks hreachable
  sweep := hlog.sweep

theorem BootLog.underway
    {wait : List Entry}
    (hlog : BootLog monitor world origin wait passes current log) :
    Underway monitor world origin .bootstrap wait passes current log where
  written := hlog.written
  pings := by
    intro ping hmem
    obtain ⟨index, hposition⟩ := hlog.gate.beforeBootstrap.pings ping hmem
    rw [Ping.phase_of_dependency hposition]
    exact Nat.zero_lt_one
  callbacks := by
    rw [hlog.gate.callbacksIn_eq, Monitor.waitWord]
    split
    next => simp
    next => simp
  complete := hlog.complete
  blocks := hlog.blocks
  sweep := hlog.sweep

theorem Underway.hasPhase
    (hunderway :
      Underway monitor world origin phase before passes current log)
    {exit : Option RunExit} {all : List (List Ping)} {cut pings : List Ping}
    {after : List Entry}
    (hpings : all.flatten ++ cut = passes.flatten ++ current ++ pings)
    (hcomplete : ∀ pass ∈ all,
      Sweep phase.place false pass ∧ pass.length = monitor.countIn phase)
    (hend : PhaseEnd monitor world origin phase exit all cut after) :
    HasPhase monitor world origin phase exit
      (log ++ (pings.map .pinged ++ after)) := by
  obtain ⟨instant, verdict, hwritten⟩ := hunderway.written
  refine ⟨before, instant, verdict, all, cut, after, ?_,
    hunderway.pings, hunderway.callbacks, hcomplete, hend⟩
  rw [hpings, hwritten]
  simp [Monitor.phaseEntries]

theorem Underway.broken
    (hunderway :
      Underway monitor world origin phase before passes current log)
    (hroom : current.length < monitor.countIn phase)
    {exit : Option RunExit} {tail : List Entry}
    (hstop :
      Interrupted origin (phase.place current.length) false exit tail) :
    HasPhase monitor world origin phase exit (log ++ tail) := by
  obtain ⟨after, htail, hafter⟩ := hstop.split
  rw [htail]
  apply hunderway.hasPhase (List.append_assoc _ _ _).symm hunderway.complete
  have hbetween :
      current ++ pingsIn tail = [] → exit = none ∨ exit = some .shutdown :=
    fun hnone => hstop.of_pingsIn_eq_nil (List.append_eq_nil_iff.mp hnone).2
  exact .broken hunderway.blocks (hstop.cutSweep hunderway.sweep hroom)
    hstop.isBreak hbetween hafter

theorem Underway.closed
    (hunderway :
      Underway monitor world origin phase before passes current log)
    (hfull : current.length = monitor.countIn phase)
    {exit : Option RunExit} {after : List Entry}
    (hend :
      PhaseEnd monitor world origin phase exit (passes ++ [current]) []
        after) :
    HasPhase monitor world origin phase exit (log ++ after) := by
  have hpings :
      (passes ++ [current]).flatten ++ [] =
        passes.flatten ++ current ++ [] := by
    simp
  exact hunderway.hasPhase hpings
    (forall_mem_concat hunderway.complete ⟨hunderway.sweep, hfull⟩) hend

end Plans

section Runs

variable {monitor : Monitor σ} {world : World} {origin : State σ}

theorem GateLog.hasWait
    (hreachable : monitor.Reachable origin) {wait more : List Entry}
    (hgate : GateLog monitor world origin wait) {instant : Nat}
    {verdict : Verdict}
    (hpast :
      Past .dependencyWait
        (.told instant (.phase .bootstrap) verdict :: more))
    {exit : Option RunExit}
    (hexit : ∀ probe elapsed last,
      exit ≠ some (.bootstrapTimedOut .dependencyWait probe elapsed last))
    (hentered : .phase .dependencyWait ∈
      callbacksIn
        (wait ++ .told instant (.phase .bootstrap) verdict :: more)) :
    HasPhase monitor world origin .dependencyWait exit
      (wait ++ .told instant (.phase .bootstrap) verdict :: more) := by
  cases hgate with
  | skipped hempty => exact absurd (hpast.phases _ hentered) (Nat.lt_irrefl _)
  | opened hlog hfull hopen =>
      have hclears :=
        (gateBlocker_eq_none_iff_clears hreachable _ hlog.sweep).mp hopen
      have hend :=
        PhaseEnd.left instant verdict (hlog.blocks hreachable) hclears hexit
          pingsIn_nil hpast
      exact (hlog.underway hreachable).closed hfull hend

theorem BootLog.hasWait
    (hreachable : monitor.Reachable origin) {wait log tail : List Entry}
    {passes : List (List Ping)} {current : List Ping}
    (hlog : BootLog monitor world origin wait passes current log)
    (htail : Past .dependencyWait tail) {exit : Option RunExit}
    (hexit : ∀ probe elapsed last,
      exit ≠ some (.bootstrapTimedOut .dependencyWait probe elapsed last))
    (hentered : .phase .dependencyWait ∈ callbacksIn (log ++ tail)) :
    HasPhase monitor world origin .dependencyWait exit (log ++ tail) := by
  obtain ⟨instant, verdict, hwritten⟩ := hlog.written
  have hpings : ∀ ping ∈ passes.flatten ++ current,
      ∃ index, ping.position = .primary index :=
    fun ping hmem => (sweeps_pings hlog.complete hlog.sweep ping hmem).2
  have hnext : Phase.dependencyWait.rank < Phase.bootstrap.rank := by decide
  have hpast :=
    ((past_began monitor hpings).append htail).told hnext instant verdict
  rw [hwritten, List.append_assoc, List.cons_append] at hentered ⊢
  exact hlog.gate.hasWait hreachable hpast hexit hentered

theorem LiveLog.hasWait
    (hreachable : monitor.Reachable origin) {boot log tail : List Entry}
    {passes : List LivePass} {current : List Block} {exit : Option RunExit}
    (hlog : LiveLog monitor world origin boot passes current log)
    (htail : LiveTail monitor origin passes current exit tail)
    (hentered : .phase .dependencyWait ∈ callbacksIn (log ++ tail)) :
    HasPhase monitor world origin .dependencyWait exit (log ++ tail) := by
  obtain ⟨before, pass, hbooted⟩ := hlog.booted
  obtain ⟨wait, earlier, hboot⟩ := hbooted.bootstrap
  obtain ⟨reports, hwritten, hreports⟩ := hbooted.written
  obtain ⟨instant, verdict, hentries⟩ := hlog.written
  have hnext : Phase.bootstrap.rank < Phase.live.rank := by decide
  have hpast :=
    (past_ended monitor hreports).append
      ((htail.past hlog).told hnext instant verdict)
  rw [hentries, hwritten, List.append_assoc, List.append_assoc,
    List.cons_append] at hentered ⊢
  exact hboot.hasWait hreachable (hpast.earlier (Nat.zero_le _))
    htail.ne_limit hentered

theorem LiveLog.hasBootstrap
    {boot log tail : List Entry}
    {passes : List LivePass} {current : List Block} {exit : Option RunExit}
    (hlog : LiveLog monitor world origin boot passes current log)
    (htail : LiveTail monitor origin passes current exit tail) :
    HasPhase monitor world origin .bootstrap exit (log ++ tail) := by
  obtain ⟨before, pass, hbooted⟩ := hlog.booted
  obtain ⟨wait, earlier, hboot⟩ := hbooted.bootstrap
  obtain ⟨reports, hwritten, hreports⟩ := hbooted.written
  obtain ⟨instant, verdict, hentries⟩ := hlog.written
  have hclears :
      monitor.Clears world origin earlier.flatten .bootstrap pass :=
    downBlocker_eq_none_iff.mp hbooted.clean
  have hquiet :
      pingsIn (monitor.bootstrapEntries .endedBootstrap ++ reports) = [] := by
    simp [Monitor.bootstrapEntries, pingsIn_eq_nil (told_of_booted hreports)]
  have hnext : Phase.bootstrap.rank < Phase.live.rank := by decide
  have hpast :=
    (past_ended monitor hreports).append
      ((htail.past hlog).told hnext instant verdict)
  have hend :=
    PhaseEnd.left instant verdict hboot.blocks hclears htail.ne_limit hquiet
      hpast
  have hphase := hboot.underway.closed hbooted.full hend
  rw [hentries, hwritten, List.append_assoc, List.append_assoc]
  exact hphase

/-- Every phase before live that a run enters follows the plan. -/
theorem RunLog.hasPhase
    (hreachable : monitor.Reachable origin) {exit : Option RunExit}
    {entries : List Entry} (hlog : RunLog monitor world origin exit entries)
    {phase : Phase} (hphase : phase ≠ .live)
    (hentered : .phase phase ∈ callbacksIn entries) :
    HasPhase monitor world origin phase exit entries := by
  cases phase with
  | live => exact absurd rfl hphase
  | dependencyWait =>
      cases hlog with
      | waiting hlog hroom hstop =>
          exact (hlog.underway hreachable).broken hroom hstop
      | waitTimedOut hlog hfull hblocked =>
          have hblocks :=
            (hlog.blocks hreachable).concat
              (hlog.not_clears hreachable hblocked)
          exact (hlog.underway hreachable).closed hfull (.timedOut hblocks)
      | booting hlog hroom hstop =>
          exact hlog.hasWait hreachable hstop.past hstop.isBreak.ne_limit
            hentered
      | bootTimedOut hlog hfull hblocked =>
          exact hlog.hasWait hreachable (past_timedOut (by decide) _ _ _ _)
            (by simp) hentered
      | living hlog htail => exact hlog.hasWait hreachable htail hentered
  | bootstrap =>
      cases hlog with
      | waiting hlog hroom hstop =>
          simp [hlog.callbacksIn_eq] at hentered
          exact nomatch hstop.callback_eq _ hentered
      | waitTimedOut hlog hfull hblocked =>
          simp [hlog.callbacksIn_eq] at hentered
      | booting hlog hroom hstop => exact hlog.underway.broken hroom hstop
      | bootTimedOut hlog hfull hblocked =>
          have hblocks := hlog.blocks.concat (not_clears_of_downBlocker _ hblocked)
          exact hlog.underway.closed hfull (.timedOut hblocks)
      | living hlog htail => exact hlog.hasBootstrap htail

theorem BootLog.entered_of_ping
    {wait log : List Entry} {passes : List (List Ping)} {current : List Ping}
    (hlog : BootLog monitor world origin wait passes current log) :
    ∀ ping ∈ pingsIn log, .phase ping.phase ∈ callbacksIn log := by
  intro ping hmem
  rw [hlog.pingsIn_eq, List.mem_append] at hmem
  rw [hlog.callbacksIn_eq, ← hlog.gate.callbacksIn_eq]
  rcases hmem with hwait | hboot
  · obtain ⟨index, hposition⟩ := hlog.gate.beforeBootstrap.pings ping hwait
    rw [Ping.phase_of_dependency hposition]
    cases hlog.gate with
    | skipped hempty => exact nomatch hwait
    | opened hlog hfull hopen => simp [hlog.callbacksIn_eq]
  · obtain ⟨hlive, index, hposition⟩ :=
      sweeps_pings hlog.complete hlog.sweep ping hboot
    have hphase : ping.phase = .bootstrap :=
      Ping.phase_eq_of_place (by decide) hposition hlive
    simp [hphase]

/-- Every ping of a run is of a phase that the run has entered. -/
theorem RunLog.entered_of_ping
    {exit : Option RunExit} {entries : List Entry}
    (hlog : RunLog monitor world origin exit entries) :
    ∀ ping ∈ pingsIn entries, .phase ping.phase ∈ callbacksIn entries := by
  intro ping hmem
  cases hlog with
  | waiting hlog hroom hstop =>
      obtain ⟨index, hposition⟩ :=
        (hlog.beforeBootstrap.append hstop.beforeBootstrap).pings ping hmem
      simp [Ping.phase_of_dependency hposition, hlog.callbacksIn_eq]
  | waitTimedOut hlog hfull hblocked =>
      rw [pingsIn_append, pingsIn_told_cons, pingsIn_nil, List.append_nil]
        at hmem
      obtain ⟨index, hposition⟩ := hlog.beforeBootstrap.pings ping hmem
      simp [Ping.phase_of_dependency hposition, hlog.callbacksIn_eq]
  | booting hlog hroom hstop =>
      rw [pingsIn_append, List.mem_append] at hmem
      rw [callbacksIn_append, List.mem_append]
      rcases hmem with hold | hnew
      · exact .inl (hlog.entered_of_ping ping hold)
      · have hplaced : ∃ index, ping.position = .primary index :=
          hstop.exists_index ping hnew
        obtain ⟨index, hposition⟩ := hplaced
        have hphase : ping.phase = .bootstrap :=
          Ping.phase_eq_of_place (by decide) hposition
            (hstop.live_eq ping hnew)
        simp [hphase, hlog.callbacksIn_eq]
  | bootTimedOut hlog hfull hblocked =>
      rw [pingsIn_append, pingsIn_told_cons, pingsIn_nil, List.append_nil]
        at hmem
      rw [callbacksIn_append, List.mem_append]
      exact .inl (hlog.entered_of_ping ping hmem)
  | living hlog htail =>
      obtain ⟨before, pass, hbooted⟩ := hlog.booted
      obtain ⟨wait, earlier, hboot⟩ := hbooted.bootstrap
      obtain ⟨reports, rfl, hreports⟩ := hbooted.written
      obtain ⟨instant, verdict, rfl⟩ := hlog.written
      have hlive : ∀ other : Ping,
          (other.live = true ∧ ∃ index, other.position = .primary index) →
            other.phase = .live := by
        rintro other ⟨hlive, index, hposition⟩
        unfold Ping.phase
        rw [hposition, hlive]
      rw [List.append_assoc, pingsIn_append, List.mem_append] at hmem
      rw [List.append_assoc, callbacksIn_append, List.mem_append]
      rcases hmem with hold | hnew
      · rw [hbooted.pingsIn_eq] at hold
        have hentered := hboot.entered_of_ping ping hold
        exact .inl (by simp [hentered])
      · rw [List.cons_append, pingsIn_told_cons, pingsIn_append,
          List.mem_append] at hnew
        have hphase := hnew.elim
          (fun hmem => hlive ping (hlog.live_pings ping hmem))
          (fun hmem => hlive ping (htail.live_pings ping hmem))
        rw [hphase]
        exact .inr List.mem_cons_self

end Runs

end HealthMonitor
