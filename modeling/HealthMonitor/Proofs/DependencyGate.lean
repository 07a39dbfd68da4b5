import HealthMonitor.Proofs.Origins

/-!
# The gate of the dependencies

A run looks at no primary before one pass over the dependencies has found all
of them satisfied, and at no dependency after it.  Which dependencies satisfy
depends on the history of each: one that is in safe mode may still be taken as
ready if an earlier success saw it out of safe mode.
-/

namespace HealthMonitor

variable {σ : Type}

/-- Whether a dependency is satisfied by a ping, made after the pings `earlier`:
it came in time with a success, and the target has no safe mode, or is out of
it, or was out of it after an earlier success where reentry is ignored. -/
def Monitor.Satisfies
    (monitor : Monitor σ) (world : World) (earlier : List Ping) (ping : Ping) :
    Prop :=
  ∃ probe status,
    monitor.probe? ping.position = some probe ∧
      ping.outcome = some (.completed status) ∧ status.success = true ∧
        (probe.hasSafeMode = false ∨
          (world.call ping.position ping.number).safeMode = false ∨
            monitor.timing.policy = .ignoreReentry ∧
              ∃ other ∈ earlier, other.position = ping.position ∧
                other.leftSafeMode world = true)

/-- What happens before the gate opens and after, if it does: `passes` are the
complete passes over the dependencies and `cut` is one that was cut short. -/
structure Gated
    (monitor : Monitor σ) (world : World) (exit : Option RunExit)
    (wait rest : List Entry) (passes : List (List Ping)) (cut : List Ping) :
    Prop where
  pings : pingsIn wait = passes.flatten ++ cut
  unentered : .phase .bootstrap ∉ callbacksIn wait
  unbegun : ∀ position, .beganBootstrap position ∉ wait
  complete : ∀ pass ∈ passes,
    Sweep .dependency false pass ∧ pass.length = monitor.dependencies.length
  cut_isBreak : cut ≠ [] → IsBreak exit
  opens_iff : ∀ before pass after, passes = before ++ pass :: after →
    ((∀ ping ∈ pass, monitor.Satisfies world before.flatten ping) ↔
      after = [] ∧ rest ≠ [])
  shut : rest = [] →
    CutSweep .dependency false monitor.dependencies.length cut
  opened : rest ≠ [] →
    (∃ instant verdict more,
      rest = .told instant (.phase .bootstrap) verdict :: more) ∧
    (monitor.dependencies = [] ∨ passes ≠ []) ∧ cut = []
  rest_pings : ∀ ping ∈ pingsIn rest, ∃ index, ping.position = .primary index

section Gate

variable {monitor : Monitor σ} {world : World} {origin : State σ}
  {entries : List Entry}

/-- Before a first run the latch of a slot can only come from the run. -/
theorem opensGate_iff_satisfies
    (hfresh : monitor.Fresh origin) (earlier : List Ping) {ping : Ping}
    {index : Nat} (hposition : ping.position = .dependency index) :
    ping.opensGate monitor world origin earlier = true ↔
      monitor.Satisfies world earlier ping := by
  unfold Ping.opensGate Monitor.Satisfies
  rw [hfresh.slot?]
  cases hprobe : monitor.probe? ping.position with
  | none => simp
  | some probe =>
      have hwatched :
          monitor.watchesSafeMode ping.position = probe.hasSafeMode := by
        rw [hposition] at hprobe ⊢
        have hdependency : monitor.dependencies[index]? = some probe := hprobe
        simp [Monitor.watchesSafeMode, hdependency]
      cases hstatus : ping.status? with
      | none =>
          constructor
          · simp
          · rintro ⟨_, status, -, houtcome, -⟩
            simp [Ping.status?_of_completed houtcome] at hstatus
      | some status =>
          have houtcome := Ping.outcome_of_status? hstatus
          simp only [Option.map_some, Option.getD_some, Run.satisfied,
            Bool.and_eq_true, Bool.or_eq_true, beq_iff_eq,
            Slot.leftSafeMode_absorbAll, hwatched, houtcome,
            Option.some.injEq, PingOutcome.completed.injEq]
          cases hcapable : probe.hasSafeMode with
          | false => simp [hcapable]
          | true => simp [hcapable]

theorem gateBlocker_eq_none_iff
    (hfresh : monitor.Fresh origin) (earlier : List Ping) {pass : List Ping}
    (hsweep : Sweep .dependency false pass) :
    gateBlocker monitor world origin earlier pass = none ↔
      ∀ ping ∈ pass, monitor.Satisfies world earlier ping := by
  have hopens : ∀ ping ∈ pass,
      (ping.opensGate monitor world origin earlier = true ↔
        monitor.Satisfies world earlier ping) := by
    intro ping hmem
    obtain ⟨index, -, hposition⟩ := hsweep.exists_place hmem
    exact opensGate_iff_satisfies hfresh earlier hposition
  simp only [gateBlocker, List.findIdx?_eq_none_iff, Bool.not_eq_false']
  constructor
  · intro hall ping hmem
    exact (hopens ping hmem).mp (hall ping hmem)
  · intro hall ping hmem
    exact (hopens ping hmem).mpr (hall ping hmem)

/-- No complete pass of a wait has found all dependencies satisfied. -/
theorem WaitLog.not_satisfied
    (hfresh : monitor.Fresh origin) {passes : List (List Ping)}
    {current : List Ping}
    (hlog : WaitLog monitor world origin passes current entries)
    {before after : List (List Ping)} {pass : List Ping}
    (hsplit : passes = before ++ pass :: after) :
    ¬∀ ping ∈ pass, monitor.Satisfies world before.flatten ping := by
  have hmem : pass ∈ passes := by simp [hsplit]
  rw [← gateBlocker_eq_none_iff hfresh _ (hlog.complete pass hmem).1]
  exact hlog.blocked before pass after hsplit

/-- A run that ends while it waits has a gate that stayed shut. -/
theorem WaitLog.gated
    (hfresh : monitor.Fresh origin) {passes : List (List Ping)}
    {current : List Ping}
    (hlog : WaitLog monitor world origin passes current entries)
    {exit : Option RunExit} {tail : List Entry}
    (hsilent : Silent tail)
    (hunentered : .phase .bootstrap ∉ callbacksIn tail)
    (hcut :
      CutSweep .dependency false monitor.dependencies.length
        (current ++ pingsIn tail))
    (hbreak : current ++ pingsIn tail ≠ [] → IsBreak exit) :
    Gated monitor world exit (entries ++ tail) [] passes
      (current ++ pingsIn tail) where
  pings := by rw [pingsIn_append, hlog.pingsIn_eq, List.append_assoc]
  unentered := by simp [hlog.callbacksIn_eq, hunentered]
  unbegun := (hlog.silent.append hsilent).unbegun
  complete := hlog.complete
  cut_isBreak := hbreak
  opens_iff := by
    intro before pass after hsplit
    simp [hlog.not_satisfied hfresh hsplit]
  shut := fun _ => hcut
  opened := fun hne => absurd rfl hne
  rest_pings := by simp

/-- What follows the gate: a bootstrap, and pings of primaries only. -/
structure AfterGate (rest : List Entry) : Prop where
  begins : ∃ instant verdict more,
    rest = .told instant (.phase .bootstrap) verdict :: more
  pings : ∀ ping ∈ pingsIn rest, ∃ index, ping.position = .primary index

theorem GateLog.gated
    (hfresh : monitor.Fresh origin) {wait rest : List Entry}
    (hgate : GateLog monitor world origin wait) (hrest : AfterGate rest)
    (exit : Option RunExit) :
    ∃ passes, Gated monitor world exit wait rest passes [] := by
  have hne : rest ≠ [] := by
    obtain ⟨instant, verdict, more, rfl⟩ := hrest.begins
    simp
  cases hgate with
  | skipped hempty =>
      refine ⟨[], ?_⟩
      exact
        { pings := rfl
          unentered := by simp
          unbegun := by simp
          complete := by simp
          cut_isBreak := fun hcut => absurd rfl hcut
          opens_iff := by simp
          shut := fun hnil => absurd hnil hne
          opened := fun _ => ⟨hrest.begins, .inl hempty, rfl⟩
          rest_pings := hrest.pings }
  | @opened passes pass wait hlog hfull hopen =>
      refine ⟨passes ++ [pass], ?_⟩
      exact
        { pings := by simp [hlog.pingsIn_eq]
          unentered := by simp [hlog.callbacksIn_eq]
          unbegun := hlog.silent.unbegun
          complete := forall_mem_concat hlog.complete ⟨hlog.sweep, hfull⟩
          cut_isBreak := fun hcut => absurd rfl hcut
          opens_iff := by
            intro before other after hsplit
            rcases concat_split hsplit with ⟨rfl, rfl, rfl⟩ |
              ⟨more, rfl, hpasses⟩
            · have hall :=
                (gateBlocker_eq_none_iff hfresh _ hlog.sweep).mp hopen
              exact ⟨fun _ => ⟨rfl, hne⟩, fun _ => hall⟩
            · simp [hlog.not_satisfied hfresh hpasses]
          shut := fun hnil => absurd hnil hne
          opened := fun _ => ⟨hrest.begins, .inr (by simp), rfl⟩
          rest_pings := hrest.pings }

/-- A log that has gone through the gate. -/
def HasPassedGate
    (monitor : Monitor σ) (world : World) (origin : State σ)
    (entries : List Entry) : Prop :=
  ∃ wait rest, entries = wait ++ rest ∧
    GateLog monitor world origin wait ∧ AfterGate rest

theorem HasPassedGate.append
    (hpassed : HasPassedGate monitor world origin entries) {more : List Entry}
    (hmore : ∀ ping ∈ pingsIn more, ∃ index, ping.position = .primary index) :
    HasPassedGate monitor world origin (entries ++ more) := by
  obtain ⟨wait, rest, rfl, hgate, hrest⟩ := hpassed
  refine ⟨wait, rest ++ more, by simp, hgate, ?_⟩
  constructor
  · obtain ⟨instant, verdict, others, hbegins⟩ := hrest.begins
    exact ⟨instant, verdict, others ++ more, by simp [hbegins]⟩
  · rw [pingsIn_append, List.forall_mem_append]
    exact ⟨hrest.pings, hmore⟩

theorem BootLog.hasPassedGate
    {wait : List Entry} {passes : List (List Ping)} {current : List Ping}
    (hlog : BootLog monitor world origin wait passes current entries) :
    HasPassedGate monitor world origin entries := by
  obtain ⟨instant, verdict, hwritten⟩ := hlog.written
  refine ⟨wait, _, hwritten, hlog.gate, ⟨_, _, _, rfl⟩, ?_⟩
  rw [pingsIn_told_cons, pingsIn_append, Monitor.bootstrapEntries,
    pingsIn_map_beganBootstrap, pingsIn_map_pinged, List.nil_append]
  intro ping hmem
  exact (sweeps_pings hlog.complete hlog.sweep ping hmem).2

theorem BootedLog.hasPassedGate
    {boot : List Entry} {pass : List Ping}
    (hbooted : BootedLog monitor world origin boot pass entries) :
    HasPassedGate monitor world origin entries := by
  obtain ⟨wait, passes, hlog⟩ := hbooted.bootstrap
  obtain ⟨booted, rfl, hstatuses⟩ := hbooted.written
  apply hlog.hasPassedGate.append
  simp [Monitor.bootstrapEntries, pingsIn_eq_nil (told_of_booted hstatuses)]

theorem LiveLog.hasPassedGate
    {boot : List Entry} {passes : List LivePass} {current : List Block}
    (hlog : LiveLog monitor world origin boot passes current entries) :
    HasPassedGate monitor world origin entries := by
  obtain ⟨before, pass, hbooted⟩ := hlog.booted
  obtain ⟨instant, verdict, rfl⟩ := hlog.written
  apply hbooted.hasPassedGate.append
  intro ping hmem
  exact (hlog.live_pings ping hmem).2

theorem RunLog.gated
    (hfresh : monitor.Fresh origin) {exit : Option RunExit}
    (hlog : RunLog monitor world origin exit entries) :
    ∃ wait rest passes cut, entries = wait ++ rest ∧
      Gated monitor world exit wait rest passes cut := by
  have hpassed : HasPassedGate monitor world origin entries →
      ∃ wait rest passes cut, entries = wait ++ rest ∧
        Gated monitor world exit wait rest passes cut := by
    rintro ⟨wait, rest, rfl, hgate, hrest⟩
    obtain ⟨passes, hgated⟩ := hgate.gated hfresh hrest exit
    exact ⟨wait, rest, passes, [], rfl, hgated⟩
  cases hlog with
  | waiting hlog hroom hstop =>
      have hunentered : .phase .bootstrap ∉ callbacksIn _ :=
        fun hmem => nomatch hstop.callback_eq _ hmem
      exact ⟨_, [], _, _, (List.append_nil _).symm,
        hlog.gated hfresh hstop.silent hunentered
          (hstop.cutSweep hlog.sweep hroom) (fun _ => hstop.isBreak)⟩
  | waitTimedOut hlog hfull hblocked =>
      have hnext := hlog.nextPass hfull (by simp [hblocked])
      have hcut : CutSweep .dependency false monitor.dependencies.length [] :=
        (Sweep.nil _ _).cut (List.length_pos_iff.mpr hlog.nonempty)
      exact ⟨_, [], _, _, (List.append_nil _).symm,
        hnext.gated hfresh (silent_told _ _ _) (by simp) hcut (by simp)⟩
  | booting hlog hroom hstop =>
      exact hpassed (hlog.hasPassedGate.append hstop.exists_index)
  | bootTimedOut hlog hfull hblocked =>
      exact hpassed (hlog.hasPassedGate.append (by simp))
  | living hlog htail =>
      apply hpassed
      apply hlog.hasPassedGate.append
      intro ping hmem
      exact (htail.live_pings ping hmem).2

end Gate

/-- The latch of a dependency is set exactly by its own successful pings that
see it out of safe mode. -/
def Latched
    (monitor : Monitor σ) (world : World) (state : State σ)
    (pings : List Ping) : Prop :=
  ∀ index slot, state.slot? (.dependency index) = some slot →
    (slot.leftSafeMode = true ↔
      monitor.watchesSafeMode (.dependency index) = true ∧
        ∃ ping ∈ pings, ping.position = .dependency index ∧
          ping.leftSafeMode world = true)

theorem Continues.latched
    {monitor : Monitor σ} {world : World} {origin state : State σ}
    {entries : List Entry} (hfresh : monitor.Fresh origin)
    (hcontinues : Continues monitor world origin state entries) :
    Latched monitor world state (pingsIn entries) := by
  intro index slot hslot
  rw [hcontinues.slot?, hfresh.slot?] at hslot
  cases hprobe : monitor.probe? (.dependency index) with
  | none => simp [hprobe] at hslot
  | some probe =>
      simp only [hprobe, Option.map_some, Option.some.injEq] at hslot
      subst hslot
      simp [Slot.leftSafeMode_absorbAll]

/-- The first run of a monitor begins its bootstrap exactly after the first
pass over the dependencies that finds all of them satisfied. -/
theorem fresh_run_gated
    {monitor : Monitor σ} {world : World} {stop : Option Nat} {fuel : Nat}
    {origin final : State σ} {exit : Option RunExit}
    (hfresh : monitor.Fresh origin)
    (hrun : monitor.run world stop fuel origin = (.ok exit, final)) :
    Latched monitor world final (pingsIn (final.since origin)) ∧
      ∃ wait rest passes cut, final.since origin = wait ++ rest ∧
        Gated monitor world exit wait rest passes cut := by
  obtain ⟨hcontinues, hlog⟩ := run_log hrun
  exact ⟨hcontinues.latched hfresh, hlog.gated hfresh⟩

theorem fresh_run_gated_sample :
    Latched Sample.monitor Sample.world Sample.final
        (pingsIn (Sample.final.since Sample.started)) ∧
      ∃ wait rest passes cut,
        Sample.final.since Sample.started = wait ++ rest ∧
          Gated Sample.monitor Sample.world (some .shutdown) wait rest passes
            cut :=
  fresh_run_gated Sample.fresh Sample.run_eq

end HealthMonitor
