import HealthMonitor.Proofs.BootFlags
import HealthMonitor.Proofs.Origins

/-!
# When a bootstrap is complete

A run goes live exactly after the first pass over the primaries in which every
ping came in time with a success; successes of different passes do not add up.
Until the end of that pass the flag of every primary is down, and from before
the first report on it is up.
-/

namespace HealthMonitor

variable {σ : Type}

/-- What a run writes before a bootstrap. -/
structure BeforeBootstrap (entries : List Entry) : Prop where
  silent : Silent entries
  pings : ∀ ping ∈ pingsIn entries, ∃ index, ping.position = .dependency index
  callbacks : ∀ callback ∈ callbacksIn entries,
    callback = .phase .dependencyWait ∨ callback = .unregister ∨
      ∃ probe last now, callback = .timedOut .dependencyWait probe last now

/-- How a run can end in a phase before live. -/
def EndsEarly (phase : Phase) (exit : Option RunExit) : Prop :=
  IsBreak exit ∨
    ∃ probe elapsed last,
      exit = some (.bootstrapTimedOut phase probe elapsed last)

/-- What follows the passes of a bootstrap, complete ones and one that was cut
short; `before` is all that was written until then. -/
inductive BootEnd
    (monitor : Monitor σ) (origin : State σ) (exit : Option RunExit)
    (before : List Entry) :
    List (List Ping) → List Ping → List Entry → Prop
  | live {passes : List (List Ping)} {pass : List Ping}
      {booted live : List Entry} {instant : Nat} {verdict : Verdict}
      (hdown : ∀ other ∈ passes, ∃ ping ∈ other, ping.succeeded = false)
      (hclean : ∀ ping ∈ pass, ping.succeeded = true)
      (hbooted :
        booted.map Entry.callback? =
          (statusesIn .bootstrap pass).map (some ∘ .booted))
      (hsilent : Silent live)
      (hpings : ∀ ping ∈ pingsIn live, ping.live = true)
      (hreports : ∀ status, .booted status ∉ callbacksIn live)
      (hflags : ∀ done todo,
        booted ++ .told instant (.phase .live) verdict :: live =
            done ++ todo →
          ∀ index, index < monitor.primaries.length →
            origin.bootedAfter
              (before ++ (monitor.bootstrapEntries .endedBootstrap ++ done))
              (.primary index) = true) :
      BootEnd monitor origin exit before (passes ++ [pass]) []
        (monitor.bootstrapEntries .endedBootstrap ++
          (booted ++ .told instant (.phase .live) verdict :: live))
  | stopped {passes : List (List Ping)} {cut : List Ping} {after : List Entry}
      (hdown : ∀ pass ∈ passes, ∃ ping ∈ pass, ping.succeeded = false)
      (hcut : CutSweep .primary false monitor.primaries.length cut)
      (hbreak : cut ≠ [] → IsBreak exit)
      (hexit : EndsEarly .bootstrap exit)
      (hafter : ∀ entry ∈ after, ∃ instant callback verdict,
        entry = .told instant callback verdict ∧
          (callback = .unregister ∨
            ∃ probe last now, callback = .timedOut .bootstrap probe last now)) :
      BootEnd monitor origin exit before passes cut after

/-- What a run writes of a bootstrap up to its last ping. -/
def Monitor.bootEntries
    (monitor : Monitor σ) (instant : Nat) (verdict : Verdict)
    (pings : List Ping) : List Entry :=
  .told instant (.phase .bootstrap) verdict ::
    (monitor.bootstrapEntries .beganBootstrap ++ pings.map .pinged)

/-- What becomes of the bootstrap of a run. -/
inductive BootAccount
    (monitor : Monitor σ) (origin : State σ) (exit : Option RunExit) :
    List Entry → Prop
  | waiting {entries : List Entry} (hbefore : BeforeBootstrap entries)
      (hexit : EndsEarly .dependencyWait exit) :
      BootAccount monitor origin exit entries
  | booting {wait after : List Entry} {passes : List (List Ping)}
      {cut : List Ping} {instant : Nat} {verdict : Verdict}
      (hbefore : BeforeBootstrap wait)
      (hcomplete : ∀ pass ∈ passes,
        Sweep .primary false pass ∧ pass.length = monitor.primaries.length)
      (hflags : ∀ done todo, passes.flatten ++ cut = done ++ todo →
        ∀ index, index < monitor.primaries.length →
          origin.bootedAfter (wait ++ monitor.bootEntries instant verdict done)
            (.primary index) = false)
      (hend :
        BootEnd monitor origin exit
          (wait ++ monitor.bootEntries instant verdict (passes.flatten ++ cut))
          passes cut after) :
      BootAccount monitor origin exit
        (wait ++ monitor.bootEntries instant verdict (passes.flatten ++ cut) ++
          after)

theorem Monitor.mem_primaryPositions_iff
    {monitor : Monitor σ} {position : Position} :
    position ∈ monitor.primaryPositions ↔
      ∃ index, index < monitor.primaries.length ∧
        position = .primary index := by
  simp [Monitor.primaryPositions, eq_comm]

section Flags

variable {monitor : Monitor σ} (origin : State σ) {index : Nat}

theorem bootedAfter_bootEntries
    (hindex : index < monitor.primaries.length) (wait : List Entry)
    (instant : Nat) (verdict : Verdict) (pings : List Ping) :
    origin.bootedAfter (wait ++ monitor.bootEntries instant verdict pings)
      (.primary index) = false := by
  rw [Monitor.bootEntries, List.append_cons, ← List.append_assoc,
    State.bootedAfter_append_of_untold _ _
      ((silent_map_pinged pings).untold _)]
  exact origin.bootedAfter_map _ .beganBootstrap false
    (fun entries other => origin.bootedAfter_beganBootstrap entries other)
    (Monitor.mem_primaryPositions_iff.mpr ⟨index, hindex, rfl⟩)

theorem bootedAfter_endedEntries
    (hindex : index < monitor.primaries.length) (before : List Entry)
    {done : List Entry} (hsilent : Silent done) :
    origin.bootedAfter
      (before ++ (monitor.bootstrapEntries .endedBootstrap ++ done))
      (.primary index) = true := by
  rw [← List.append_assoc,
    State.bootedAfter_append_of_untold _ _ (hsilent.untold _)]
  exact origin.bootedAfter_map _ .endedBootstrap true
    (fun entries other => origin.bootedAfter_endedBootstrap entries other)
    (Monitor.mem_primaryPositions_iff.mpr ⟨index, hindex, rfl⟩)

end Flags

section Completion

variable {monitor : Monitor σ} {world : World} {origin : State σ}
  {entries : List Entry}

theorem WaitLog.beforeBootstrap
    {passes : List (List Ping)} {current : List Ping}
    (hlog : WaitLog monitor world origin passes current entries) :
    BeforeBootstrap entries where
  silent := hlog.silent
  pings := by
    rw [hlog.pingsIn_eq]
    intro ping hmem
    exact (sweeps_pings hlog.complete hlog.sweep ping hmem).2
  callbacks := by simp [hlog.callbacksIn_eq]

theorem GateLog.beforeBootstrap
    (hgate : GateLog monitor world origin entries) :
    BeforeBootstrap entries := by
  cases hgate with
  | skipped hempty => constructor <;> simp [Silent]
  | opened hlog hfull hopen => exact hlog.beforeBootstrap

theorem BeforeBootstrap.append
    (hbefore : BeforeBootstrap entries) {more : List Entry}
    (hmore : BeforeBootstrap more) :
    BeforeBootstrap (entries ++ more) where
  silent := hbefore.silent.append hmore.silent
  pings := by
    rw [pingsIn_append, List.forall_mem_append]
    exact ⟨hbefore.pings, hmore.pings⟩
  callbacks := by
    rw [callbacksIn_append, List.forall_mem_append]
    exact ⟨hbefore.callbacks, hmore.callbacks⟩

theorem Interrupted.beforeBootstrap
    {index : Nat} {live : Bool} {exit : Option RunExit} {tail : List Entry}
    (hstop : Interrupted origin (.dependency index) live exit tail) :
    BeforeBootstrap tail where
  silent := hstop.silent
  pings := hstop.exists_index
  callbacks := by
    intro callback hmem
    exact .inr (.inl (hstop.callback_eq callback hmem))

theorem BootLog.down
    {wait : List Entry} {passes : List (List Ping)} {current : List Ping}
    (hlog : BootLog monitor world origin wait passes current entries) :
    ∀ pass ∈ passes, ∃ ping ∈ pass, ping.succeeded = false := by
  intro pass hmem
  have hblocked := hlog.blocked pass hmem
  rw [ne_eq, downBlocker_eq_none_iff] at hblocked
  simpa using hblocked

/-- A bootstrap that stops before live, with what is written after its last
ping. -/
theorem BootLog.bootAccount
    {wait : List Entry} {passes : List (List Ping)} {current : List Ping}
    (hlog : BootLog monitor world origin wait passes current entries)
    {exit : Option RunExit} {pings : List Ping} {after : List Entry}
    (hcut :
      CutSweep .primary false monitor.primaries.length (current ++ pings))
    (hbreak : current ++ pings ≠ [] → IsBreak exit)
    (hexit : EndsEarly .bootstrap exit)
    (hafter : ∀ entry ∈ after, ∃ instant callback verdict,
      entry = .told instant callback verdict ∧
        (callback = .unregister ∨
          ∃ probe last now, callback = .timedOut .bootstrap probe last now)) :
    BootAccount monitor origin exit
      (entries ++ (pings.map .pinged ++ after)) := by
  obtain ⟨instant, verdict, hwritten⟩ := hlog.written
  have haccount :=
    BootAccount.booting hlog.gate.beforeBootstrap hlog.complete
      (fun done todo _ index hindex =>
        bootedAfter_bootEntries origin hindex wait instant verdict done)
      (.stopped hlog.down hcut hbreak hexit hafter)
  rw [hwritten]
  simpa [Monitor.bootEntries] using haccount

theorem Interrupted.bootAccount
    {wait : List Entry} {passes : List (List Ping)} {current : List Ping}
    (hlog : BootLog monitor world origin wait passes current entries)
    (hroom : current.length < monitor.primaries.length)
    {exit : Option RunExit} {tail : List Entry}
    (hstop :
      Interrupted origin (.primary current.length) false exit tail) :
    BootAccount monitor origin exit (entries ++ tail) := by
  obtain ⟨after, htail, hafter⟩ := hstop.split
  rw [htail]
  apply hlog.bootAccount (hstop.cutSweep hlog.sweep hroom)
    (fun _ => hstop.isBreak) (.inl hstop.isBreak)
  intro entry hmem
  rcases hafter with rfl | hfarewell
  · exact nomatch hmem
  · obtain ⟨instant, verdict, rfl⟩ := hfarewell.eq_told hmem
    exact ⟨instant, .unregister, verdict, rfl, .inl rfl⟩

/-- A run that has gone live, with what it ends with. -/
theorem LiveTail.bootAccount
    {boot : List Entry} {passes : List LivePass} {current : List Block}
    (hlog : LiveLog monitor world origin boot passes current entries)
    {exit : Option RunExit} {tail : List Entry}
    (htail : LiveTail monitor origin passes current exit tail) :
    BootAccount monitor origin exit (entries ++ tail) := by
  obtain ⟨before, pass, hboot⟩ := hlog.booted
  obtain ⟨wait, earlier, hbootLog⟩ := hboot.bootstrap
  obtain ⟨booted, hwritten, hstatuses⟩ := hboot.written
  obtain ⟨instant, verdict, hbefore⟩ := hbootLog.written
  obtain ⟨entered, heard, hentries⟩ := hlog.written
  generalize hlive : liveEntries passes current = live at hentries
  have hquiet : Silent (live ++ tail) := by
    rw [← hlive]
    exact hlog.silent_live.append htail.silent
  have hreports : Silent booted := silent_of_told (told_of_booted hstatuses)
  have hrest :
      Silent (booted ++ .told entered (.phase .live) heard :: (live ++ tail)) :=
    hreports.append
      ((silent_told entered (.phase .live) heard).append hquiet)
  have hcomplete : ∀ other ∈ earlier ++ [pass],
      Sweep .primary false other ∧
        other.length = monitor.primaries.length :=
    forall_mem_concat hbootLog.complete ⟨hbootLog.sweep, hboot.full⟩
  have hend :
      BootEnd monitor origin exit
        (wait ++ monitor.bootEntries instant verdict
          ((earlier ++ [pass]).flatten ++ []))
        (earlier ++ [pass]) []
        (monitor.bootstrapEntries .endedBootstrap ++
          (booted ++
            .told entered (.phase .live) heard :: (live ++ tail))) := by
    apply BootEnd.live hbootLog.down (downBlocker_eq_none_iff.mp hboot.clean)
      hstatuses hquiet
    · intro ping hmem
      rw [pingsIn_append, List.mem_append] at hmem
      rcases hmem with hold | hnew
      · rw [← hlive] at hold
        exact (hlog.live_pings ping hold).1
      · exact (htail.live_pings ping hnew).1
    · intro status hmem
      rw [callbacksIn_append, List.mem_append] at hmem
      rcases hmem with hold | hnew
      · rw [← hlive] at hold
        exact nomatch hlog.live_callbacks _ hold
      · rcases htail.callbacks _ hnew with heq | hisLive
        · exact nomatch heq
        · exact nomatch hisLive
    · intro done todo hsplit index hindex
      rw [hsplit] at hrest
      exact bootedAfter_endedEntries origin hindex _ hrest.of_append
  have haccount :=
    BootAccount.booting hbootLog.gate.beforeBootstrap hcomplete
      (fun done todo _ index hindex =>
        bootedAfter_bootEntries origin hindex wait instant verdict done)
      hend
  rw [hentries, hwritten, hbefore]
  simpa [Monitor.bootEntries] using haccount

theorem RunLog.bootAccount
    {exit : Option RunExit} (hlog : RunLog monitor world origin exit entries) :
    BootAccount monitor origin exit entries := by
  cases hlog with
  | waiting hlog hroom hstop =>
      exact .waiting (hlog.beforeBootstrap.append hstop.beforeBootstrap)
        (.inl hstop.isBreak)
  | waitTimedOut hlog hfull hblocked =>
      apply BootAccount.waiting _ (.inr ⟨_, _, _, rfl⟩)
      apply hlog.beforeBootstrap.append
      exact
        { silent := silent_told _ _ _
          pings := by simp
          callbacks := by simp }
  | booting hlog hroom hstop => exact hstop.bootAccount hlog hroom
  | bootTimedOut hlog hfull hblocked =>
      have hnext := hlog.nextPass hfull (by simp [hblocked])
      have hcut : CutSweep .primary false monitor.primaries.length [] := by
        apply (Sweep.nil _ _).cut
        rw [List.length_nil, ← hfull]
        exact length_pos_of_downBlocker hblocked
      apply hnext.bootAccount hcut (by simp) (.inr ⟨_, _, _, rfl⟩)
      intro entry hmem
      rw [List.mem_singleton.mp hmem]
      exact ⟨_, _, _, rfl, .inr ⟨_, _, _, rfl⟩⟩
  | living hlog htail => exact htail.bootAccount hlog

/-- An entry that tells no probe anything, or one of the primaries that a
bootstrap begins or ends. -/
def Monitor.Addresses (monitor : Monitor σ) (entry : Entry) : Prop :=
  entry.isSilent = true ∨
    ∃ index, index < monitor.primaries.length ∧
      (entry = .beganBootstrap (.primary index) ∨
        entry = .endedBootstrap (.primary index))

theorem Monitor.Addresses.exists_primary
    {entry : Entry} (haddresses : monitor.Addresses entry)
    {position : Position} (htells : entry.tells position = true) :
    ∃ index, index < monitor.primaries.length ∧
      position = .primary index := by
  rcases haddresses with hsilent | ⟨index, hindex, heq⟩
  · rw [Entry.tells_of_silent hsilent] at htells
    exact nomatch htells
  · refine ⟨index, hindex, ?_⟩
    rcases heq with rfl | rfl
    · exact (eq_of_beq htells).symm
    · exact (eq_of_beq htells).symm

theorem addresses_bootstrapEntries
    {write : Position → Entry}
    (hwrite : write = .beganBootstrap ∨ write = .endedBootstrap) :
    ∀ entry ∈ monitor.bootstrapEntries write, monitor.Addresses entry := by
  intro entry hmem
  obtain ⟨position, hposition, rfl⟩ := List.mem_map.mp hmem
  obtain ⟨index, hindex, rfl⟩ := Monitor.mem_primaryPositions_iff.mp hposition
  refine .inr ⟨index, hindex, ?_⟩
  rcases hwrite with rfl | rfl
  · exact .inl rfl
  · exact .inr rfl

theorem Silent.addresses
    (hsilent : Silent entries) : ∀ entry ∈ entries, monitor.Addresses entry :=
  fun entry hmem => .inl (hsilent entry hmem)

theorem addresses_bootEntries
    (instant : Nat) (verdict : Verdict) (pings : List Ping) :
    ∀ entry ∈ monitor.bootEntries instant verdict pings,
      monitor.Addresses entry := by
  intro entry hmem
  rcases List.mem_cons.mp hmem with rfl | hrest
  · exact .inl rfl
  · rcases List.mem_append.mp hrest with hbegan | hpinged
    · exact addresses_bootstrapEntries (.inl rfl) entry hbegan
    · exact .inl (silent_map_pinged pings entry hpinged)

theorem BootEnd.addresses
    {exit : Option RunExit} {before after : List Entry}
    {passes : List (List Ping)} {cut : List Ping}
    (hend : BootEnd monitor origin exit before passes cut after) :
    ∀ entry ∈ after, monitor.Addresses entry := by
  intro entry hmem
  cases hend with
  | live hdown hclean hbooted hsilent hpings hreports hflags =>
      rcases List.mem_append.mp hmem with hended | hrest
      · exact addresses_bootstrapEntries (.inr rfl) entry hended
      · rcases List.mem_append.mp hrest with hreport | hcons
        · exact .inl (silent_of_told (told_of_booted hbooted) entry hreport)
        · rcases List.mem_cons.mp hcons with rfl | htail
          · exact .inl rfl
          · exact .inl (hsilent entry htail)
  | stopped hdown hcut hbreak hexit hafter =>
      obtain ⟨instant, callback, verdict, rfl, -⟩ := hafter entry hmem
      exact .inl rfl

theorem BootAccount.addresses
    {exit : Option RunExit}
    (haccount : BootAccount monitor origin exit entries) :
    ∀ entry ∈ entries, monitor.Addresses entry := by
  intro entry hmem
  cases haccount with
  | waiting hbefore hexit => exact hbefore.silent.addresses entry hmem
  | booting hbefore hcomplete hflags hend =>
      rcases List.mem_append.mp hmem with hfirst | hafter
      · rcases List.mem_append.mp hfirst with hwait | hboot
        · exact hbefore.silent.addresses entry hwait
        · exact addresses_bootEntries _ _ _ entry hboot
      · exact hend.addresses entry hafter

theorem BootAccount.untold
    {exit : Option RunExit} (haccount : BootAccount monitor origin exit entries)
    (index : Nat) :
    Untold (.dependency index) entries := by
  intro entry hmem
  rw [Bool.eq_false_iff]
  intro htells
  obtain ⟨other, -, heq⟩ :=
    (haccount.addresses entry hmem).exists_primary htells
  exact nomatch heq

end Completion

/-! ## Dependencies -/

section Dependencies

variable {monitor : Monitor σ} {world : World} {state : State σ} {index : Nat}

theorem untold_prepareFrom
    (positions : List Position)
    (huntold : Untold (.dependency index) state.transcript) :
    Untold (.dependency index)
      (monitor.prepareFrom world positions state).2.transcript := by
  induction positions generalizing state with
  | nil => exact huntold
  | cons position positions ih =>
      have hnoted :
          Untold (.dependency index)
            (state.note (.prepared position)).transcript :=
        List.forall_mem_cons.mpr ⟨rfl, huntold⟩
      simp only [Monitor.prepareFrom]
      split
      next => exact hnoted
      next => exact ih hnoted

/-- Whatever a monitor does in its life, no dependency is told that a bootstrap
begins or ends. -/
theorem Monitor.Reachable.untold
    (hreachable : monitor.Reachable state) (index : Nat) :
    Untold (.dependency index) state.transcript := by
  induction hreachable with
  | built hbuilt =>
      rw [Monitor.build?_eq_ok hbuilt]
      exact List.forall_mem_nil _
  | @performed state hreachable world fuel operation ih =>
      cases operation with
      | prepare =>
          rw [Monitor.perform_prepare_snd]
          exact untold_prepareFrom monitor.positions ih
      | start => exact List.forall_mem_cons.mpr ⟨rfl, ih⟩
      | sleep wait => exact ih
      | close =>
          simp only [Monitor.perform, State.close]
          split
          next => exact ih
          next => exact List.forall_mem_cons.mpr ⟨rfl, ih⟩
      | run signal =>
          simp only [Monitor.perform]
          split
          next exit final hrun =>
            obtain ⟨hcontinues, hlog⟩ := run_log hrun
            have hwritten := hlog.bootAccount.untold index
            intro entry hmem
            rw [hcontinues.transcript, List.mem_append, List.mem_reverse] at hmem
            rcases hmem with hnew | hold
            · exact hwritten entry hnew
            · exact ih entry hold
          next error final hrun =>
            rw [Monitor.run_refused hrun]
            exact ih

end Dependencies

/-- What is known of the bootstrap of a run and of the flags after it. -/
structure BootRecord
    (monitor : Monitor σ) (origin final : State σ) (exit : Option RunExit) :
    Prop where
  account : BootAccount monitor origin exit (final.since origin)
  flags : ∀ position,
    final.booted position = origin.bootedAfter (final.since origin) position
  /-- Only primaries are told that a bootstrap begins or ends. -/
  told : ∀ position,
    .beganBootstrap position ∈ final.since origin ∨
        .endedBootstrap position ∈ final.since origin →
      ∃ index, index < monitor.primaries.length ∧ position = .primary index
  dependencies : ∀ index,
    final.bootstrapCalls (.dependency index) =
        origin.bootstrapCalls (.dependency index) ∧
      final.booted (.dependency index) = origin.booted (.dependency index)
  /-- No dependency of a monitor that was built is ever told either. -/
  untouched : monitor.Reachable origin → ∀ index,
    final.bootstrapCalls (.dependency index) = (0, 0) ∧
      final.booted (.dependency index) = false

/-- Every run goes live exactly after its first clean pass over the primaries,
unless it ends before, and the flags follow. -/
theorem run_bootRecord
    {monitor : Monitor σ} {world : World} {stop : Option Nat} {fuel : Nat}
    {origin final : State σ} {exit : Option RunExit}
    (hrun : monitor.run world stop fuel origin = (.ok exit, final)) :
    BootRecord monitor origin final exit := by
  obtain ⟨hcontinues, hlog⟩ := run_log hrun
  have haccount := hlog.bootAccount
  have hdependencies (index : Nat) :
      final.bootstrapCalls (.dependency index) =
          origin.bootstrapCalls (.dependency index) ∧
        final.booted (.dependency index) =
          origin.booted (.dependency index) := by
    constructor
    · exact State.bootstrapCalls_of_untold hcontinues.transcript
        (haccount.untold index)
    · rw [State.booted_eq_bootedAfter hcontinues.transcript]
      exact origin.bootedAfter_append_of_untold [] (haccount.untold index)
  exact
    { account := haccount
      flags := State.booted_eq_bootedAfter hcontinues.transcript
      told := by
        intro position hmem
        rcases hmem with hbegan | hended
        · exact (haccount.addresses _ hbegan).exists_primary
            (beq_self_eq_true position)
        · exact (haccount.addresses _ hended).exists_primary
            (beq_self_eq_true position)
      dependencies := hdependencies
      untouched := by
        intro hreachable index
        rw [(hdependencies index).1, (hdependencies index).2]
        exact State.unbooted_of_untold (hreachable.untold index) }

theorem run_bootRecord_sample :
    BootRecord Sample.monitor Sample.started Sample.final (some .shutdown) ∧
      Sample.final.bootstrapCalls (.primary 0) = (1, 1) ∧
      Sample.final.bootstrapCalls (.dependency 0) = (0, 0) := by
  have hrecord := run_bootRecord Sample.run_eq
  exact ⟨hrecord, rfl, (hrecord.untouched Sample.reachable 0).1⟩

end HealthMonitor
