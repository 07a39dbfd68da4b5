import HealthMonitor.Proofs.LiveResults

/-!
# Completed cycles

A live pass that runs to its end is closed as a completed cycle exactly if all
of its pings succeeded in time and all of those of the pass before it did; the
pass before the first one is the bootstrap pass that opened live.  So an
unclean pass is not closed, nor is a clean one right after it, but the next
clean one is.
-/

namespace HealthMonitor

variable {σ : Type}

/-- All of some pings came in, in time and with a success. -/
def AllSucceeded (pings : List Ping) : Prop :=
  ∀ ping ∈ pings, ping.succeeded = true

/-- Entries that end with the report of a completed cycle, the only one in
them. -/
def ClosesCycle (entries : List Entry) : Prop :=
  ∃ work instant verdict,
    entries = work ++ [.told instant .cycle verdict] ∧
      .cycle ∉ callbacksIn work

/-- A live pass that ran to its end, after a pass with the pings `previous`. -/
structure CyclePass
    (monitor : Monitor σ) (previous : List Ping) (entries : List Entry) :
    Prop where
  sweep : Sweep .primary true (pingsIn entries)
  full : (pingsIn entries).length = monitor.primaries.length
  closes_iff :
    ClosesCycle entries ↔
      AllSucceeded (pingsIn entries) ∧ AllSucceeded previous
  closes : .cycle ∈ callbacksIn entries → ClosesCycle entries

/-- The pings of the last of some live passes, or those of the bootstrap pass
`opening` if there was no live pass yet. -/
def pingsBefore (opening : List Ping) (earlier : List (List Entry)) :
    List Ping :=
  (earlier.getLast?.map pingsIn).getD opening

structure CyclePasses
    (monitor : Monitor σ) (opening : List Ping) (passes : List (List Entry)) :
    Prop where
  complete : ∀ earlier pass later, passes = earlier ++ pass :: later →
    CyclePass monitor (pingsBefore opening earlier) pass
  unclean : ∀ pass ∈ passes,
    ¬AllSucceeded (pingsIn pass) → .cycle ∉ callbacksIn pass
  afterUnclean : ∀ earlier unclean pass later,
    passes = earlier ++ unclean :: pass :: later →
      ¬AllSucceeded (pingsIn unclean) → .cycle ∉ callbacksIn pass
  recovers : ∀ earlier clean pass later,
    passes = earlier ++ clean :: pass :: later →
      AllSucceeded (pingsIn clean) → AllSucceeded (pingsIn pass) →
        ClosesCycle pass

/-- The last pass of live, which goes on or in which the run ended. -/
structure UnfinishedPass
    (monitor : Monitor σ) (exit : Option RunExit) (entries : List Entry) :
    Prop where
  positions :
    (pingsIn entries).map (·.position) =
      (List.range (pingsIn entries).length).map .primary
  live : ∀ ping ∈ pingsIn entries, ping.live = true
  bound : (pingsIn entries).length ≤ monitor.primaries.length
  full : monitor.primaries ≠ [] →
    (pingsIn entries).length = monitor.primaries.length →
      exit ≠ none ∧ ¬AllSucceeded (pingsIn entries)
  uncompleted : .cycle ∉ callbacksIn entries

/-- The clean bootstrap pass with which `before` ends. -/
structure OpeningPass
    (monitor : Monitor σ) (before : List Entry) (opening : List Ping) :
    Prop where
  suffix : opening <:+ pingsIn before
  sweep : Sweep .primary false opening
  full : opening.length = monitor.primaries.length
  clean : AllSucceeded opening

/-- The completed cycles of a run: none before live, and then those that the
passes of live are closed with. -/
inductive CycleAccount
    (monitor : Monitor σ) (exit : Option RunExit) : List Entry → Prop
  | never {entries : List Entry}
      (hlive : .phase .live ∉ callbacksIn entries)
      (hcycle : .cycle ∉ callbacksIn entries) :
      CycleAccount monitor exit entries
  | live {before rest : List Entry} {opening : List Ping}
      {passes : List (List Entry)} {instant : Nat} {verdict : Verdict}
      (hlive : .phase .live ∉ callbacksIn before)
      (hcycle : .cycle ∉ callbacksIn before)
      (hopening : OpeningPass monitor before opening)
      (hpasses : CyclePasses monitor opening passes)
      (hrest : UnfinishedPass monitor exit rest) :
      CycleAccount monitor exit
        (before ++ .told instant (.phase .live) verdict ::
          (passes.flatten ++ rest))

/-- Whether a call of a probe comes in, in time and with a success. -/
def Call.succeeds (timeout : Nat) (probe : Probe) (call : Call) : Bool :=
  match call.answer timeout probe with
  | .completed status => status.success
  | _ => false

def Monitor.NeverTwice
    (monitor : Monitor σ) (world : World) (probe : Probe) (index : Nat) :
    Prop :=
  ∀ number,
    (world.call (.primary index) number).succeeds
        monitor.timing.probeTimeout probe = true →
      (world.call (.primary index) (number + 1)).succeeds
        monitor.timing.probeTimeout probe = false

structure CycleRecord
    (monitor : Monitor σ) (world : World) (exit : Option RunExit)
    (entries : List Entry) : Prop where
  account : CycleAccount monitor exit entries
  faithful : ∀ ping ∈ pingsIn entries,
    ping.Faithful monitor world monitor.timing.probeTimeout
  alternating : ∀ probe, monitor.primaries = [probe] →
    monitor.NeverTwice world probe 0 → .cycle ∉ callbacksIn entries

/-! ## Passes -/

@[simp] theorem pingsBefore_nil (opening : List Ping) :
    pingsBefore opening [] = opening := rfl

@[simp] theorem pingsBefore_concat
    (opening : List Ping) (earlier : List (List Entry)) (pass : List Entry) :
    pingsBefore opening (earlier ++ [pass]) = pingsIn pass := by
  simp [pingsBefore]

theorem cleanIn_iff {blocks : List Block} :
    cleanIn blocks = true ↔ AllSucceeded (pingsOf blocks) :=
  List.all_eq_true

theorem ClosesCycle.mem
    {entries : List Entry} (hcloses : ClosesCycle entries) :
    .cycle ∈ callbacksIn entries := by
  obtain ⟨work, instant, verdict, rfl, -⟩ := hcloses
  simp

section Passes

variable {monitor : Monitor σ}

theorem IsBeat.cycle_notMem
    {beat : List Entry} (hbeat : IsBeat beat) :
    .cycle ∉ callbacksIn beat := by
  rcases hbeat with rfl | ⟨instant, status, verdict, rfl⟩
  · simp
  · simp

theorem Block.Settled.cycle_notMem
    {block : Block} (hsettled : block.Settled monitor) :
    .cycle ∉ callbacksIn block.entries := by
  cases hsettled with
  | up houtcome hsuccess hbeat =>
      simpa [Block.entries] using hbeat.cycle_notMem
  | down houtcome hsuccess hbeat =>
      simpa [Block.entries] using hbeat.cycle_notMem
  | hung houtcome hbeat =>
      simpa [Block.entries] using hbeat.cycle_notMem

theorem cycle_notMem_blocks
    {blocks : List Block}
    (hsettled : ∀ block ∈ blocks, block.Settled monitor) :
    .cycle ∉ callbacksIn (blocks.flatMap Block.entries) := by
  rw [callbacksIn_flatMap]
  intro hmem
  obtain ⟨block, hblock, hcycle⟩ := List.mem_flatMap.mp hmem
  exact (hsettled block hblock).cycle_notMem hcycle

theorem cyclePass_of_blocks
    {previous : List Ping} {blocks : List Block} {closing : List Entry}
    (hsweep : Sweep .primary true (pingsOf blocks))
    (hfull : blocks.length = monitor.primaries.length)
    (hsettled : ∀ block ∈ blocks, block.Settled monitor)
    (hclosing :
      (closing = [] ∧
          ¬(AllSucceeded (pingsOf blocks) ∧ AllSucceeded previous)) ∨
        (∃ instant verdict, closing = [.told instant .cycle verdict]) ∧
          AllSucceeded (pingsOf blocks) ∧ AllSucceeded previous) :
    CyclePass monitor previous (blocks.flatMap Block.entries ++ closing) := by
  have hquiet := cycle_notMem_blocks hsettled
  rcases hclosing with ⟨rfl, hunclean⟩ | ⟨⟨instant, verdict, rfl⟩, hclean⟩
  · have hpings :
        pingsIn (blocks.flatMap Block.entries ++ []) = pingsOf blocks := by
      rw [List.append_nil, pingsIn_blocks hsettled]
    have hopen : .cycle ∉ callbacksIn (blocks.flatMap Block.entries ++ []) := by
      rwa [List.append_nil]
    exact
      { sweep := hpings ▸ hsweep
        full := by rw [hpings, length_pingsOf, hfull]
        closes_iff := by
          rw [hpings]
          exact ⟨fun hcloses => absurd hcloses.mem hopen,
            fun hclean => absurd hclean hunclean⟩
        closes := fun hmem => absurd hmem hopen }
  · have hpings :
        pingsIn (blocks.flatMap Block.entries ++
          [.told instant .cycle verdict]) = pingsOf blocks := by
      simp [pingsIn_blocks hsettled]
    have hcloses :
        ClosesCycle (blocks.flatMap Block.entries ++
          [.told instant .cycle verdict]) :=
      ⟨_, instant, verdict, rfl, hquiet⟩
    exact
      { sweep := hpings ▸ hsweep
        full := by rw [hpings, length_pingsOf, hfull]
        closes_iff := by
          rw [hpings]
          exact ⟨fun _ => hclean, fun _ => hcloses⟩
        closes := fun _ => hcloses }

theorem LivePass.Complete.cyclePass
    {before : Bool} {previous : List Ping} {pass : LivePass}
    (hpass : pass.Complete monitor before)
    (hprevious : before = true ↔ AllSucceeded previous) :
    CyclePass monitor previous pass.entries := by
  apply cyclePass_of_blocks hpass.sweep hpass.full hpass.settled
  have hclosing := hpass.closing
  split at hclosing
  next hclean =>
    rw [Bool.and_eq_true, cleanIn_iff, hprevious] at hclean
    obtain ⟨instant, hcycle⟩ := hclosing
    exact .inr ⟨⟨instant, _, hcycle⟩, hclean⟩
  next hunclean =>
    rw [Bool.and_eq_true, cleanIn_iff, hprevious] at hunclean
    exact .inl ⟨hclosing, hunclean⟩

/-- What is closed is told by each pass and the one before it, so it follows
for whole sequences of passes. -/
theorem CyclePasses.of_complete
    {opening : List Ping} {passes : List (List Entry)}
    (hcomplete : ∀ earlier pass later, passes = earlier ++ pass :: later →
      CyclePass monitor (pingsBefore opening earlier) pass) :
    CyclePasses monitor opening passes := by
  have hsecond : ∀ earlier first pass later,
      passes = earlier ++ first :: pass :: later →
        CyclePass monitor (pingsIn first) pass := by
    intro earlier first pass later hsplit
    have hpass := hcomplete (earlier ++ [first]) pass later (by simp [hsplit])
    rwa [pingsBefore_concat] at hpass
  constructor
  case complete => exact hcomplete
  case unclean =>
    intro pass hmem hunclean hcycle
    obtain ⟨earlier, later, hsplit⟩ := List.append_of_mem hmem
    have hpass := hcomplete earlier pass later hsplit
    exact hunclean (hpass.closes_iff.mp (hpass.closes hcycle)).1
  case afterUnclean =>
    intro earlier unclean pass later hsplit hunclean hcycle
    have hpass := hsecond earlier unclean pass later hsplit
    exact hunclean (hpass.closes_iff.mp (hpass.closes hcycle)).2
  case recovers =>
    intro earlier clean pass later hsplit hclean hsucceeded
    exact (hsecond earlier clean pass later hsplit).closes_iff.mpr
      ⟨hsucceeded, hclean⟩

end Passes

/-! ## From logs to accounts -/

section Logs

variable {monitor : Monitor σ} {world : World} {origin : State σ}
  {entries : List Entry} {exit : Option RunExit}

theorem BootedLog.openingPass
    {boot : List Entry} {pass : List Ping}
    (hbooted : BootedLog monitor world origin boot pass entries) :
    OpeningPass monitor entries pass := by
  obtain ⟨wait, passes, hlog⟩ := hbooted.bootstrap
  constructor
  case suffix =>
    rw [hbooted.pingsIn_eq, hlog.pingsIn_eq, ← List.append_assoc]
    exact List.suffix_append _ _
  case sweep => exact hlog.sweep
  case full => exact hbooted.full
  case clean => exact downBlocker_eq_none_iff.mp hbooted.clean

section Live

variable {boot : List Entry} {passes : List LivePass} {current : List Block}

/-- The flag that live carries from pass to pass says whether the pings of the
pass before all succeeded. -/
theorem LiveLog.cleanAfter_iff
    (hlog : LiveLog monitor world origin boot passes current entries)
    (hclean : origin.cleanBefore = true) {opening : List Ping}
    (hopening : AllSucceeded opening) {earlier later : List LivePass}
    (hsplit : passes = earlier ++ later) :
    cleanAfter origin.cleanBefore earlier = true ↔
      AllSucceeded (pingsBefore opening (earlier.map LivePass.entries)) := by
  rcases List.eq_nil_or_concat earlier with rfl | ⟨front, last, rfl⟩
  · exact iff_of_true hclean hopening
  · rw [List.concat_eq_append] at hsplit ⊢
    have hlast : last ∈ passes := by simp [hsplit]
    obtain ⟨before, hcomplete⟩ := hlog.complete_of_mem hlast
    rw [cleanAfter_append, List.map_append, List.map_singleton,
      pingsBefore_concat, hcomplete.pingsIn_eq, cleanIn_iff]

theorem LiveLog.cyclePass
    (hlog : LiveLog monitor world origin boot passes current entries)
    (hclean : origin.cleanBefore = true) {opening : List Ping}
    (hopening : AllSucceeded opening) :
    ∀ earlier pass later,
      passes.map LivePass.entries = earlier ++ pass :: later →
        CyclePass monitor (pingsBefore opening earlier) pass := by
  intro earlier pass later hsplit
  obtain ⟨front, back, hpasses, rfl, hback⟩ :=
    List.map_eq_append_iff.mp hsplit
  obtain ⟨live, more, rfl, rfl, rfl⟩ := List.map_eq_cons_iff.mp hback
  exact (hlog.complete front live more hpasses).cyclePass
    (hlog.cleanAfter_iff hclean hopening hpasses)

theorem LiveTail.cycle_notMem
    {tail : List Entry}
    (htail : LiveTail monitor origin passes current exit tail)
    (hexit : exit ≠ some .cycleCompleted) :
    .cycle ∉ callbacksIn tail := by
  cases htail with
  | stopped hroom hstop =>
      intro hmem
      exact nomatch hstop.callback_eq _ hmem
  | failed hposition hlive houtcome hsuccess => simp
  | hung hposition hlive houtcome => simp
  | completed hfull hclean hbefore => exact absurd rfl hexit

theorem LiveLog.unfinishedPass
    (hlog : LiveLog monitor world origin boot passes current entries)
    {tail : List Entry}
    (htail : LiveTail monitor origin passes current exit tail)
    (hexit : exit ≠ some .cycleCompleted) {timeout : Nat}
    (hfaithful : ∀ ping ∈ pingsIn tail,
      ping.Faithful monitor world timeout) :
    UnfinishedPass monitor exit (current.flatMap Block.entries ++ tail) := by
  have hpings :
      pingsIn (current.flatMap Block.entries ++ tail) =
        pingsOf current ++ pingsIn tail := by
    rw [pingsIn_append, pingsIn_blocks hlog.settled]
  have hquiet :
      .cycle ∉ callbacksIn (current.flatMap Block.entries ++ tail) := by
    rw [callbacksIn_append, List.mem_append, not_or]
    exact ⟨cycle_notMem_blocks hlog.settled, htail.cycle_notMem hexit⟩
  rcases htail.last_ping hexit with
    ⟨hnone, hroom⟩ | ⟨ping, hlast, hposition, hlive, hfailed, hended⟩
  · rw [hnone, List.append_nil] at hpings
    constructor
    case positions => rw [hpings, hlog.sweep.positions]
    case live => rw [hpings]; exact hlog.sweep.live
    case bound => rw [hpings, length_pingsOf]; exact hlog.bound
    case full =>
      intro hprimaries hfull
      rw [hpings, length_pingsOf] at hfull
      have hpos := List.length_pos_iff.mpr hprimaries
      rcases hroom with rfl | hroom
      · rw [List.length_nil] at hfull
        omega
      · omega
    case uncompleted => exact hquiet
  · have hroom : current.length < monitor.primaries.length :=
      (hfaithful ping (by simp [hlast])).lt_primaries hposition
    rw [hlast] at hpings
    constructor
    case positions =>
      rw [hpings]
      simp [List.range_succ, hlog.sweep.positions, hposition]
    case live =>
      rw [hpings]
      exact forall_mem_concat hlog.sweep.live hlive
    case bound =>
      rw [hpings, List.length_append, length_pingsOf, List.length_singleton]
      omega
    case full =>
      intro _ _
      refine ⟨hended, ?_⟩
      intro hall
      rw [hpings] at hall
      have hsucceeded := hall ping (by simp)
      rw [hfailed] at hsucceeded
      exact nomatch hsucceeded
    case uncompleted => exact hquiet

theorem unfinishedPass_nil : UnfinishedPass monitor exit [] := by
  constructor
  case positions => rfl
  case live => simp
  case bound => exact Nat.zero_le _
  case full =>
    intro hprimaries hfull
    exact absurd (List.length_eq_zero_iff.mp hfull.symm) hprimaries
  case uncompleted => simp

theorem LiveLog.lastCyclePass
    (hlog : LiveLog monitor world origin boot passes current entries)
    (hclean : origin.cleanBefore = true) {opening : List Ping}
    (hopening : AllSucceeded opening) {tail : List Entry}
    (htail : LiveTail monitor origin passes current exit tail)
    (hexit : exit = some .cycleCompleted) :
    CyclePass monitor
      (pingsBefore opening (passes.map LivePass.entries))
      (current.flatMap Block.entries ++ tail) := by
  cases htail with
  | stopped hroom hstop =>
      rcases hstop.isBreak with hnone | hshutdown | ⟨abort, haborted⟩
      · exact nomatch hnone.symm.trans hexit
      · exact nomatch hshutdown.symm.trans hexit
      · exact nomatch haborted.symm.trans hexit
  | failed hposition hlive houtcome hsuccess => exact nomatch hexit
  | hung hposition hlive houtcome => exact nomatch hexit
  | @completed instant hfull hcurrent hbefore =>
      apply cyclePass_of_blocks hlog.sweep hfull hlog.settled
      have hprevious :=
        (hlog.cleanAfter_iff hclean hopening
          (List.append_nil passes).symm).mp hbefore
      exact .inr ⟨⟨instant, _, rfl⟩, cleanIn_iff.mp hcurrent, hprevious⟩

theorem LiveLog.cycleAccount
    (hlog : LiveLog monitor world origin boot passes current entries)
    (hclean : origin.cleanBefore = true) {tail : List Entry}
    (htail : LiveTail monitor origin passes current exit tail) {timeout : Nat}
    (hfaithful : ∀ ping ∈ pingsIn tail,
      ping.Faithful monitor world timeout) :
    CycleAccount monitor exit (entries ++ tail) := by
  obtain ⟨start, opening, hbooted⟩ := hlog.booted
  obtain ⟨instant, verdict, hwritten⟩ := hlog.written
  have hopening := hbooted.openingPass
  have hbefore := hbooted.beforeLive
  have hpasses := hlog.cyclePass hclean hopening.clean
  -- Only a stop at its completed cycle makes the pass under way a complete one.
  by_cases hexit : exit = some .cycleCompleted
  · have hlast := hlog.lastCyclePass hclean hopening.clean htail hexit
    have hwhole :
        entries ++ tail =
          boot ++ .told instant (.phase .live) verdict ::
            ((passes.map LivePass.entries ++
              [current.flatMap Block.entries ++ tail]).flatten ++ []) := by
      simp [hwritten, liveEntries, List.flatMap_def]
    rw [hwhole]
    exact .live hbefore.phase_notMem hbefore.cycle_notMem hopening
      (.of_complete (forall_split_concat hpasses hlast)) unfinishedPass_nil
  · have hwhole :
        entries ++ tail =
          boot ++ .told instant (.phase .live) verdict ::
            ((passes.map LivePass.entries).flatten ++
              (current.flatMap Block.entries ++ tail)) := by
      simp [hwritten, liveEntries, List.flatMap_def]
    rw [hwhole]
    exact .live hbefore.phase_notMem hbefore.cycle_notMem hopening
      (.of_complete hpasses) (hlog.unfinishedPass htail hexit hfaithful)

end Live

theorem RunLog.cycleAccount
    (hlog : RunLog monitor world origin exit entries)
    (hclean : origin.cleanBefore = true) {timeout : Nat}
    (hfaithful : ∀ ping ∈ pingsIn entries,
      ping.Faithful monitor world timeout) :
    CycleAccount monitor exit entries := by
  rcases hlog.beforeLive_or_living with
    hbefore | ⟨boot, passes, current, log, tail, rfl, hlive, htail⟩
  · exact .never hbefore.phase_notMem hbefore.cycle_notMem
  · apply hlive.cycleAccount hclean htail
    intro ping hmem
    exact hfaithful ping (by simp [hmem])

end Logs

/-! ## A primary that never succeeds twice in a row -/

section Alternating

variable {monitor : Monitor σ} {world : World} {origin : State σ}

theorem Ping.Faithful.succeeds
    {ping : Ping} {timeout : Nat} {probe : Probe}
    (hfaithful : ping.Faithful monitor world timeout)
    (hprobe : monitor.probe? ping.position = some probe)
    (hsucceeded : ping.succeeded = true) :
    (world.call ping.position ping.number).succeeds timeout probe = true := by
  obtain ⟨status, houtcome, hsuccess⟩ :=
    Ping.exists_status_of_succeeded hsucceeded
  obtain ⟨other, hother, hanswer⟩ := hfaithful
  obtain rfl : other = probe := Option.some.inj (hother.symm.trans hprobe)
  rw [Call.succeeds, ← hanswer _ houtcome]
  exact hsuccess

theorem CountedFrom.number_succ
    {pings front after : List Ping} {ping next : Ping} {slot : Slot}
    (hcounted : CountedFrom origin pings)
    (hsplit : pings = front ++ ping :: next :: after)
    (hposition : next.position = ping.position)
    (hslot : origin.slot? ping.position = some slot) :
    next.number = ping.number + 1 := by
  have hfirst := hcounted front ping (next :: after) hsplit slot hslot
  have hsecond :=
    hcounted (front ++ [ping]) next after (by simp [hsplit]) slot
      (hposition ▸ hslot)
  rw [hposition, List.countP_append, List.countP_singleton] at hsecond
  simp only [decide_true, if_true] at hsecond
  omega

theorem OpeningPass.pingsBefore_suffix
    {before : List Entry} {opening : List Ping}
    (hopening : OpeningPass monitor before opening)
    (earlier : List (List Entry)) :
    pingsBefore opening earlier <:+
      pingsIn before ++ pingsIn earlier.flatten := by
  rcases List.eq_nil_or_concat earlier with rfl | ⟨front, last, rfl⟩
  · simpa using hopening.suffix
  · rw [List.concat_eq_append, pingsBefore_concat, List.flatten_append,
      List.flatten_singleton, pingsIn_append, ← List.append_assoc]
    exact List.suffix_append _ _

theorem CyclePasses.previous_full
    {before : List Entry} {opening : List Ping} {passes : List (List Entry)}
    (hpasses : CyclePasses monitor opening passes)
    (hopening : OpeningPass monitor before opening)
    {earlier later : List (List Entry)} (hsplit : passes = earlier ++ later) :
    (pingsBefore opening earlier).length = monitor.primaries.length ∧
      (pingsBefore opening earlier).map (·.position) =
        (List.range (pingsBefore opening earlier).length).map .primary := by
  rcases List.eq_nil_or_concat earlier with rfl | ⟨front, last, rfl⟩
  · exact ⟨hopening.full, hopening.sweep.positions⟩
  · rw [List.concat_eq_append] at hsplit ⊢
    rw [pingsBefore_concat]
    have hlast := hpasses.complete front last later (by simp [hsplit])
    exact ⟨hlast.full, hlast.sweep.positions⟩

theorem eq_singleton_of_positions
    {pings : List Ping} (hlength : pings.length = 1)
    (hpositions :
      pings.map (·.position) = (List.range pings.length).map .primary) :
    ∃ ping, pings = [ping] ∧ ping.position = .primary 0 := by
  obtain ⟨ping, rfl⟩ := List.length_eq_one_iff.mp hlength
  refine ⟨ping, rfl, ?_⟩
  simpa using hpositions

/-- A completed cycle of a single primary takes two successes in a row. -/
theorem CycleAccount.two_successes
    {exit : Option RunExit} {entries : List Entry}
    (haccount : CycleAccount monitor exit entries)
    (hone : monitor.primaries.length = 1)
    (hmem : .cycle ∈ callbacksIn entries) :
    ∃ front ping next after,
      pingsIn entries = front ++ ping :: next :: after ∧
        ping.position = .primary 0 ∧ next.position = .primary 0 ∧
          ping.succeeded = true ∧ next.succeeded = true := by
  cases haccount with
  | never hlive hcycle => exact absurd hmem hcycle
  | @live before rest opening passes instant verdict hlive hcycle hopening
      hpasses hrest =>
      have hflat : .cycle ∈ callbacksIn passes.flatten := by
        simpa [hcycle, hrest.uncompleted] using hmem
      obtain ⟨entry, hentry, htold⟩ := List.mem_filterMap.mp hflat
      obtain ⟨pass, hpass, hinside⟩ := List.mem_flatten.mp hentry
      obtain ⟨earlier, later, rfl⟩ := List.append_of_mem hpass
      have hcomplete := hpasses.complete earlier pass later rfl
      have hcloses :=
        hcomplete.closes (List.mem_filterMap.mpr ⟨entry, hinside, htold⟩)
      obtain ⟨hclean, hprevious⟩ := hcomplete.closes_iff.mp hcloses
      obtain ⟨hlength, hpositions⟩ := hpasses.previous_full hopening rfl
      obtain ⟨next, hnext, hplace⟩ :=
        eq_singleton_of_positions (hcomplete.full.trans hone)
          hcomplete.sweep.positions
      obtain ⟨ping, hping, hbefore⟩ :=
        eq_singleton_of_positions (hlength.trans hone) hpositions
      -- The ping of the pass before is the one right before the ping of `pass`.
      obtain ⟨front, hfront⟩ := hopening.pingsBefore_suffix earlier
      rw [hping] at hfront
      refine ⟨front, ping, next, pingsIn later.flatten ++ pingsIn rest, ?_,
        hbefore, hplace, hprevious ping (by simp [hping]),
        hclean next (by simp [hnext])⟩
      calc
        _ = (pingsIn before ++ pingsIn earlier.flatten) ++
              (pingsIn pass ++ (pingsIn later.flatten ++ pingsIn rest)) := by
          simp
        _ = _ := by simp [← hfront, hnext]

theorem Monitor.NeverTwice.not_both
    {pings front after : List Ping} {ping next : Ping} {probe : Probe}
    {slot : Slot} (hnever : monitor.NeverTwice world probe 0)
    (hfaithful : ∀ ping ∈ pings,
      ping.Faithful monitor world monitor.timing.probeTimeout)
    (hcounted : CountedFrom origin pings)
    (hprobe : monitor.probe? (.primary 0) = some probe)
    (hslot : origin.slot? (.primary 0) = some slot)
    (hsplit : pings = front ++ ping :: next :: after)
    (hposition : ping.position = .primary 0)
    (hnext : next.position = .primary 0) (hsucceeded : ping.succeeded = true) :
    next.succeeded = false := by
  rw [← Bool.not_eq_true]
  intro hagain
  have hfirst :=
    (hfaithful ping (by simp [hsplit])).succeeds
      (by rw [hposition, hprobe]) hsucceeded
  have hsecond :=
    (hfaithful next (by simp [hsplit])).succeeds
      (by rw [hnext, hprobe]) hagain
  have hnumber : next.number = ping.number + 1 :=
    hcounted.number_succ hsplit (hnext.trans hposition.symm)
      (by rw [hposition, hslot])
  rw [hposition] at hfirst
  rw [hnext, hnumber, hnever _ hfirst] at hsecond
  exact nomatch hsecond

end Alternating

/-- In every run from a fresh start the live passes that run to their end are
closed as completed cycles exactly if they and the passes before them were
clean. -/
theorem run_cycleRecord
    {monitor : Monitor σ} {world : World} {stop : Option Nat} {fuel : Nat}
    {origin final : State σ} {exit : Option RunExit}
    (hfresh : monitor.Fresh origin)
    (hrun : monitor.run world stop fuel origin = (.ok exit, final)) :
    CycleRecord monitor world exit (final.since origin) := by
  obtain ⟨hcontinues, hlog⟩ := run_log hrun
  have hfaithful := hcontinues.faithful
  rw [hfresh.reachable.timeout] at hfaithful
  have haccount := hlog.cycleAccount hfresh.cleanBefore hfaithful
  constructor
  case account => exact haccount
  case faithful => exact hfaithful
  case alternating =>
    intro probe hprimaries hnever hcycle
    have hprobe : monitor.probe? (.primary 0) = some probe := by
      simp [Monitor.probe?, hprimaries]
    have hslot : origin.slot? (.primary 0) = some {} := by
      rw [hfresh.slot?, hprobe, Option.map_some]
    obtain ⟨front, ping, next, after, hsplit, hposition, hnext, hfirst,
      hsecond⟩ := haccount.two_successes (by simp [hprimaries]) hcycle
    have hfailed := hnever.not_both hfaithful hcontinues.counted hprobe hslot
      hsplit hposition hnext hfirst
    exact Bool.false_ne_true (hfailed.symm.trans hsecond)

namespace Sample

def tolerant : Monitor Unit :=
  { monitor with reporter := .stateless fun _ => false }

def blinking : World where
  call
    | .dependency _, _ => { ending := .status (.up "db" "ready") }
    | .primary _, number =>
        if number % 2 = 0 then { ending := .status (.up "http" "ok") }
        else { ending := .status (.down "http" "refused") }

def tolerantStart : State Unit :=
  (tolerant.perform blinking 0 (.initial tolerant ()) .start).2

def tolerantEnd : State Unit :=
  (tolerant.run blinking none 20 tolerantStart).2

theorem tolerant_fresh : tolerant.Fresh tolerantStart :=
  .performed (.built rfl) blinking 0 rfl

theorem tolerant_run_eq :
    tolerant.run blinking none 20 tolerantStart = (.ok none, tolerantEnd) := rfl

theorem blinking_neverTwice :
    tolerant.NeverTwice blinking { name := "http" } 0 := by
  intro number hsucceeds
  rcases Nat.mod_two_eq_zero_or_one number with heven | hodd
  · have hnext : (number + 1) % 2 = 1 := by omega
    simp only [blinking, hnext]
    rfl
  · simp only [blinking, hodd] at hsucceeds
    exact nomatch hsucceeds

end Sample

/-- The first live pass of the sample monitor completes a cycle and the second
does not; with a service that blinks there is no completed cycle. -/
theorem run_cycleRecord_sample :
    CycleRecord Sample.monitor Sample.world (some .shutdown)
        (Sample.final.since Sample.started) ∧
      .cycle ∉ callbacksIn (Sample.tolerantEnd.since Sample.tolerantStart) :=
  ⟨run_cycleRecord Sample.fresh Sample.run_eq,
    (run_cycleRecord Sample.tolerant_fresh
      Sample.tolerant_run_eq).alternating _ rfl Sample.blinking_neverTwice⟩

end HealthMonitor
