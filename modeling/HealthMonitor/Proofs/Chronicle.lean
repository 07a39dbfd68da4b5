import HealthMonitor.Proofs.Memory

/-!
# The chronicle of a run

The entries of a run follow a grammar with one level for each loop: the passes
over the dependencies, the passes over the primaries before live, and the live
passes, in which every ping has its block of callbacks.  `RunLog` is the
grammar with every way in which a run can stop; `Standing` ties a log that is
still open to the pass that the schedule is in.
-/

namespace HealthMonitor

variable {σ : Type}

/-! ## Passes before live -/

/-- Whether the gate takes a dependency as satisfied after `ping`, when its
slot has seen the pings `earlier`. -/
def Ping.opensGate
    (monitor : Monitor σ) (world : World) (origin : State σ)
    (earlier : List Ping) (ping : Ping) : Bool :=
  match monitor.probe? ping.position, ping.status? with
  | some probe, some status =>
      Run.satisfied monitor.timing.policy probe
        (((origin.slot? ping.position).map
          (·.absorbAll monitor world ping.position earlier)).getD {})
        status (world.call ping.position ping.number).safeMode
  | _, _ => false

/-- The first dependency of a pass that is not satisfied. -/
def gateBlocker
    (monitor : Monitor σ) (world : World) (origin : State σ)
    (earlier pass : List Ping) : Option Nat :=
  pass.findIdx? fun ping => !ping.opensGate monitor world origin earlier

def downBlocker (pass : List Ping) : Option Nat :=
  pass.findIdx? fun ping => !ping.succeeded

/-- The statuses that came in during a pass, marked with their phase. -/
def statusesIn (phase : Phase) (pass : List Ping) : List Status :=
  (pass.filterMap (·.status?)).map (·.inPhase phase)

theorem downBlocker_eq_none_iff {pass : List Ping} :
    downBlocker pass = none ↔ ∀ ping ∈ pass, ping.succeeded = true := by
  simp [downBlocker, List.findIdx?_eq_none_iff]

theorem length_pos_of_downBlocker
    {pass : List Ping} {blocker : Nat}
    (hblocker : downBlocker pass = some blocker) :
    0 < pass.length := by
  cases pass with
  | nil => simp [downBlocker] at hblocker
  | cons ping pass => exact Nat.zero_lt_succ _

/-- A clean pass has a status for each of its pings. -/
theorem statusesIn_eq_map
    {pass : List Ping} (hclean : ∀ ping ∈ pass, ping.succeeded = true)
    (phase : Phase) :
    (statusesIn phase pass).map some =
      pass.map fun ping => ping.status?.map (·.inPhase phase) := by
  induction pass with
  | nil => rfl
  | cons ping pass ih =>
      obtain ⟨status, houtcome, -⟩ :=
        Ping.exists_status_of_succeeded (hclean ping List.mem_cons_self)
      have hrest :=
        ih fun other hmem => hclean other (List.mem_cons_of_mem _ hmem)
      unfold statusesIn at hrest ⊢
      simp [Ping.status?_of_completed houtcome, hrest]

/-- The wait for the dependencies: its complete passes, none of which opened
the gate, and the pings of the pass under way. -/
structure WaitLog
    (monitor : Monitor σ) (world : World) (origin : State σ)
    (passes : List (List Ping)) (current : List Ping)
    (entries : List Entry) : Prop where
  nonempty : monitor.dependencies ≠ []
  written : ∃ instant verdict,
    entries =
      .told instant (.phase .dependencyWait) verdict ::
        (passes.flatten ++ current).map .pinged
  complete : ∀ pass ∈ passes,
    Sweep .dependency false pass ∧ pass.length = monitor.dependencies.length
  blocked : ∀ before pass after, passes = before ++ pass :: after →
    gateBlocker monitor world origin before.flatten pass ≠ none
  sweep : Sweep .dependency false current
  bound : current.length ≤ monitor.dependencies.length

/-- A wait that is over, or was never needed. -/
inductive GateLog
    (monitor : Monitor σ) (world : World) (origin : State σ) :
    List Entry → Prop
  | skipped (hempty : monitor.dependencies = []) :
      GateLog monitor world origin []
  | opened {passes : List (List Ping)} {pass : List Ping} {entries : List Entry}
      (hlog : WaitLog monitor world origin passes pass entries)
      (hfull : pass.length = monitor.dependencies.length)
      (hopen : gateBlocker monitor world origin passes.flatten pass = none) :
      GateLog monitor world origin entries

/-- The entries with which a bootstrap begins or ends for the primaries. -/
def Monitor.bootstrapEntries
    (monitor : Monitor σ) (entry : Position → Entry) : List Entry :=
  monitor.primaryPositions.map entry

/-- A bootstrap after the wait `wait`: its complete passes, none of which was
clean, and the pings of the pass under way. -/
structure BootLog
    (monitor : Monitor σ) (world : World) (origin : State σ)
    (wait : List Entry) (passes : List (List Ping)) (current : List Ping)
    (entries : List Entry) : Prop where
  gate : GateLog monitor world origin wait
  written : ∃ instant verdict,
    entries =
      wait ++ .told instant (.phase .bootstrap) verdict ::
        (monitor.bootstrapEntries .beganBootstrap ++
          (passes.flatten ++ current).map .pinged)
  complete : ∀ pass ∈ passes,
    Sweep .primary false pass ∧ pass.length = monitor.primaries.length
  blocked : ∀ pass ∈ passes, downBlocker pass ≠ none
  sweep : Sweep .primary false current
  bound : current.length ≤ monitor.primaries.length

/-- A bootstrap that a clean pass has ended, up to its last report. -/
structure BootedLog
    (monitor : Monitor σ) (world : World) (origin : State σ)
    (boot : List Entry) (pass : List Ping) (entries : List Entry) : Prop where
  bootstrap :
    ∃ wait passes, BootLog monitor world origin wait passes pass boot
  full : pass.length = monitor.primaries.length
  clean : downBlocker pass = none
  written : ∃ booted,
    entries = boot ++ (monitor.bootstrapEntries .endedBootstrap ++ booted) ∧
      booted.map Entry.callback? =
        (statusesIn .bootstrap pass).map (some ∘ .booted)

/-! ## Live passes -/

/-- A live ping and what the reporter was told before the next one. -/
structure Block where
  ping : Ping
  reports : List Entry

def Block.entries (block : Block) : List Entry :=
  .pinged block.ping :: block.reports

def IsBeat (entries : List Entry) : Prop :=
  entries = [] ∨
    ∃ instant status verdict,
      entries = [.told instant (.heartbeat status) verdict]

/-- The block of a ping after which the run goes on. -/
inductive Block.Settled (monitor : Monitor σ) : Block → Prop
  | up {ping : Ping} {status : Status} {instant : Nat} {verdict : Verdict}
      {beat : List Entry}
      (houtcome : ping.outcome = some (.completed status))
      (hsuccess : status.success = true) (hbeat : IsBeat beat) :
      Settled monitor
        ⟨ping, .told instant (.result .live (status.inPhase .live)) verdict ::
          beat⟩
  | down {ping : Ping} {status : Status} {instant : Nat} {verdict : Verdict}
      {beat : List Entry}
      (houtcome : ping.outcome = some (.completed status))
      (hsuccess : status.success = false) (hbeat : IsBeat beat) :
      Settled monitor
        ⟨ping, .told instant (.result .live (status.inPhase .live)) verdict ::
          .told instant (.failure (status.inPhase .live)) .proceed :: beat⟩
  | hung {ping : Ping} {last : Option Status} {instant : Nat}
      {beat : List Entry}
      (houtcome : ping.outcome = some .timedOut) (hbeat : IsBeat beat) :
      Settled monitor
        ⟨ping, .told instant
          (.timedOut .live (monitor.probeName ping.position) last instant)
            .proceed :: beat⟩

/-- A complete live pass: its blocks and what closes it. -/
structure LivePass where
  blocks : List Block
  closing : List Entry

namespace LivePass

def entries (pass : LivePass) : List Entry :=
  pass.blocks.flatMap Block.entries ++ pass.closing

end LivePass

def pingsOf (blocks : List Block) : List Ping :=
  blocks.map (·.ping)

/-- Whether all was well in some blocks. -/
def cleanIn (blocks : List Block) : Bool :=
  (pingsOf blocks).all (·.succeeded)

/-- Whether the last of some live passes was clean; `before` stands for the
pass before the first of them. -/
def cleanAfter (before : Bool) (passes : List LivePass) : Bool :=
  (passes.getLast?.map fun pass => cleanIn pass.blocks).getD before

/-- A pass over all primaries that is closed as a completed cycle exactly if it
and the pass before it were clean. -/
structure LivePass.Complete
    (monitor : Monitor σ) (before : Bool) (pass : LivePass) : Prop where
  sweep : Sweep .primary true (pingsOf pass.blocks)
  full : pass.blocks.length = monitor.primaries.length
  settled : ∀ block ∈ pass.blocks, block.Settled monitor
  closing :
    if cleanIn pass.blocks && before then
      ∃ instant, pass.closing = [.told instant .cycle .proceed]
    else pass.closing = []

def liveEntries (passes : List LivePass) (current : List Block) : List Entry :=
  passes.flatMap LivePass.entries ++ current.flatMap Block.entries

/-- A live phase after the bootstrap `boot`. -/
structure LiveLog
    (monitor : Monitor σ) (world : World) (origin : State σ)
    (boot : List Entry) (passes : List LivePass) (current : List Block)
    (entries : List Entry) : Prop where
  booted : ∃ before pass, BootedLog monitor world origin before pass boot
  written : ∃ instant verdict,
    entries =
      boot ++ .told instant (.phase .live) verdict ::
        liveEntries passes current
  complete : ∀ before pass after, passes = before ++ pass :: after →
    pass.Complete monitor (cleanAfter origin.cleanBefore before)
  sweep : Sweep .primary true (pingsOf current)
  settled : ∀ block ∈ current, block.Settled monitor
  bound : current.length ≤ monitor.primaries.length

/-! ## How a run stops -/

/-- What closing a monitor tells the reporter: nothing the second time. -/
def IsFarewell (origin : State σ) (entries : List Entry) : Prop :=
  if origin.closed then entries = []
  else ∃ instant verdict, entries = [.told instant .unregister verdict]

/-- What can happen at any wait for a ping at `position`: nothing yet, a
shutdown before the ping or in the middle of it, or an abort. -/
inductive Interrupted
    (origin : State σ) (position : Position) (live : Bool) :
    Option RunExit → List Entry → Prop
  | underway : Interrupted origin position live none []
  | shutDown {tail : List Entry} (htail : IsFarewell origin tail) :
      Interrupted origin position live (some .shutdown) tail
  | cutShort {ping : Ping} {tail : List Entry}
      (hposition : ping.position = position) (hlive : ping.live = live)
      (houtcome : ping.outcome = none) (htail : IsFarewell origin tail) :
      Interrupted origin position live (some .shutdown) (.pinged ping :: tail)
  | aborted {ping : Ping} {abort : Abort}
      (hposition : ping.position = position) (hlive : ping.live = live)
      (houtcome : ping.outcome = some (.aborted abort)) :
      Interrupted origin position live (some (.aborted abort)) [.pinged ping]

/-- What follows the blocks `current` of the live pass after `passes`. -/
inductive LiveTail
    (monitor : Monitor σ) (origin : State σ) (passes : List LivePass)
    (current : List Block) :
    Option RunExit → List Entry → Prop
  | stopped {exit : Option RunExit} {tail : List Entry}
      (hroom : current = [] ∨ current.length < monitor.primaries.length)
      (hstop : Interrupted origin (.primary current.length) true exit tail) :
      LiveTail monitor origin passes current exit tail
  | failed {ping : Ping} {status : Status} {instant : Nat} {verdict : Verdict}
      (hposition : ping.position = .primary current.length)
      (hlive : ping.live = true)
      (houtcome : ping.outcome = some (.completed status))
      (hsuccess : status.success = false) :
      LiveTail monitor origin passes current
        (some (.probeFailed (status.inPhase .live)))
        [.pinged ping,
          .told instant (.result .live (status.inPhase .live)) verdict,
          .told instant (.failure (status.inPhase .live)) .stop]
  | hung {ping : Ping} {last : Option Status} {instant : Nat}
      (hposition : ping.position = .primary current.length)
      (hlive : ping.live = true)
      (houtcome : ping.outcome = some .timedOut) :
      LiveTail monitor origin passes current
        (some (.probeTimedOut .live (monitor.probeName ping.position) last))
        [.pinged ping,
          .told instant (.timedOut .live (monitor.probeName ping.position) last
            instant) .stop]
  | completed {instant : Nat}
      (hfull : current.length = monitor.primaries.length)
      (hclean : cleanIn current = true)
      (hbefore : cleanAfter origin.cleanBefore passes = true) :
      LiveTail monitor origin passes current (some .cycleCompleted)
        [.told instant .cycle .stop]

/-- The entries of a run with the exit they led to, if it has ended. -/
inductive RunLog
    (monitor : Monitor σ) (world : World) (origin : State σ) :
    Option RunExit → List Entry → Prop
  | waiting {passes : List (List Ping)} {current : List Ping}
      {log tail : List Entry} {exit : Option RunExit}
      (hlog : WaitLog monitor world origin passes current log)
      (hroom : current.length < monitor.dependencies.length)
      (hstop :
        Interrupted origin (.dependency current.length) false exit tail) :
      RunLog monitor world origin exit (log ++ tail)
  | waitTimedOut {passes : List (List Ping)} {pass : List Ping}
      {log : List Entry} {blocker instant elapsed : Nat} {last : Option Status}
      {verdict : Verdict}
      (hlog : WaitLog monitor world origin passes pass log)
      (hfull : pass.length = monitor.dependencies.length)
      (hblocked :
        gateBlocker monitor world origin passes.flatten pass = some blocker) :
      RunLog monitor world origin
        (some (.bootstrapTimedOut .dependencyWait
          (monitor.probeName (.dependency blocker)) elapsed last))
        (log ++ [.told instant (.timedOut .dependencyWait
          (monitor.probeName (.dependency blocker)) last instant) verdict])
  | booting {wait : List Entry} {passes : List (List Ping)}
      {current : List Ping} {log tail : List Entry} {exit : Option RunExit}
      (hlog : BootLog monitor world origin wait passes current log)
      (hroom : current.length < monitor.primaries.length)
      (hstop : Interrupted origin (.primary current.length) false exit tail) :
      RunLog monitor world origin exit (log ++ tail)
  | bootTimedOut {wait : List Entry} {passes : List (List Ping)}
      {pass : List Ping} {log : List Entry} {blocker instant elapsed : Nat}
      {last : Option Status} {verdict : Verdict}
      (hlog : BootLog monitor world origin wait passes pass log)
      (hfull : pass.length = monitor.primaries.length)
      (hblocked : downBlocker pass = some blocker) :
      RunLog monitor world origin
        (some (.bootstrapTimedOut .bootstrap
          (monitor.probeName (.primary blocker)) elapsed last))
        (log ++ [.told instant (.timedOut .bootstrap
          (monitor.probeName (.primary blocker)) last instant) verdict])
  | living {boot : List Entry} {passes : List LivePass}
      {current : List Block} {log tail : List Entry} {exit : Option RunExit}
      (hlog : LiveLog monitor world origin boot passes current log)
      (htail : LiveTail monitor origin passes current exit tail) :
      RunLog monitor world origin exit (log ++ tail)

/-- A log that is open, the state it has led to, and the pass it is in. -/
inductive Standing
    (monitor : Monitor σ) (world : World) (origin : State σ) :
    State σ → Pass → List Entry → Prop
  | waiting {state : State σ} {passes : List (List Ping)} {current : List Ping}
      {log : List Entry}
      (hlog : WaitLog monitor world origin passes current log)
      (hroom : current.length < monitor.dependencies.length)
      (hphase : state.phase = .dependencyWait)
      (hclean : state.cleanBefore = origin.cleanBefore) :
      Standing monitor world origin state
        (.dependencies current.length
          (gateBlocker monitor world origin passes.flatten current)) log
  | booting {state : State σ} {wait : List Entry} {passes : List (List Ping)}
      {current : List Ping} {log : List Entry}
      (hlog : BootLog monitor world origin wait passes current log)
      (hroom : current.length < monitor.primaries.length)
      (hphase : state.phase = .bootstrap)
      (hclean : state.cleanBefore = origin.cleanBefore) :
      Standing monitor world origin state
        (.bootstrap current.length (downBlocker current)
          (statusesIn .bootstrap current)) log
  | living {state : State σ} {boot : List Entry} {passes : List LivePass}
      {current : List Block} {log : List Entry}
      (hlog : LiveLog monitor world origin boot passes current log)
      (hroom : current = [] ∨ current.length < monitor.primaries.length)
      (hphase : state.phase = .live)
      (hclean : state.cleanBefore = cleanAfter origin.cleanBefore passes) :
      Standing monitor world origin state
        (.live current.length (cleanIn current)) log

theorem Standing.congr
    {monitor : Monitor σ} {world : World} {origin state other : State σ}
    {pass : Pass} {entries : List Entry}
    (hstanding : Standing monitor world origin state pass entries)
    (hphase : other.phase = state.phase)
    (hclean : other.cleanBefore = state.cleanBefore) :
    Standing monitor world origin other pass entries := by
  cases hstanding with
  | waiting hlog hroom hold hbefore =>
      exact .waiting hlog hroom (hphase.trans hold) (hclean.trans hbefore)
  | booting hlog hroom hold hbefore =>
      exact .booting hlog hroom (hphase.trans hold) (hclean.trans hbefore)
  | living hlog hroom hold hbefore =>
      exact .living hlog hroom (hphase.trans hold) (hclean.trans hbefore)

/-! ## How a log grows -/

section Growth

variable {monitor : Monitor σ} {world : World} {origin : State σ}

theorem gateBlocker_append
    (earlier pass : List Ping) (ping : Ping) :
    gateBlocker monitor world origin earlier (pass ++ [ping]) =
      if ping.opensGate monitor world origin earlier then
        gateBlocker monitor world origin earlier pass
      else
        (gateBlocker monitor world origin earlier pass).or
          (some pass.length) := by
  unfold gateBlocker
  rw [List.findIdx?_append]
  cases hopen : ping.opensGate monitor world origin earlier with
  | false => simp [hopen]
  | true => simp [hopen]

theorem downBlocker_append (pass : List Ping) (ping : Ping) :
    downBlocker (pass ++ [ping]) =
      if ping.succeeded then downBlocker pass
      else (downBlocker pass).or (some pass.length) := by
  unfold downBlocker
  rw [List.findIdx?_append]
  cases hsucceeded : ping.succeeded with
  | false => simp [hsucceeded]
  | true => simp [hsucceeded]

theorem statusesIn_append (phase : Phase) (pass : List Ping) (ping : Ping) :
    statusesIn phase (pass ++ [ping]) =
      statusesIn phase pass ++
        (ping.status?.map (·.inPhase phase)).toList := by
  unfold statusesIn
  cases hstatus : ping.status? with
  | none => simp [hstatus]
  | some status => simp [hstatus]

theorem cleanIn_append (blocks : List Block) (block : Block) :
    cleanIn (blocks ++ [block]) =
      (cleanIn blocks && block.ping.succeeded) := by
  simp [cleanIn, pingsOf]

@[simp] theorem pingsOf_append (blocks more : List Block) :
    pingsOf (blocks ++ more) = pingsOf blocks ++ pingsOf more := by
  simp [pingsOf]

@[simp] theorem length_pingsOf (blocks : List Block) :
    (pingsOf blocks).length = blocks.length := by
  simp [pingsOf]

@[simp] theorem cleanAfter_append
    (before : Bool) (passes : List LivePass) (pass : LivePass) :
    cleanAfter before (passes ++ [pass]) = cleanIn pass.blocks := by
  simp [cleanAfter]

theorem WaitLog.append
    {passes : List (List Ping)} {current : List Ping} {entries : List Entry}
    (hlog : WaitLog monitor world origin passes current entries)
    {ping : Ping} (hposition : ping.position = .dependency current.length)
    (hlive : ping.live = false) (hanswered : ping.Answered)
    (hrange : current.length < monitor.dependencies.length) :
    WaitLog monitor world origin passes (current ++ [ping])
      (entries ++ [.pinged ping]) := by
  obtain ⟨instant, verdict, hwritten⟩ := hlog.written
  exact
    { nonempty := hlog.nonempty
      written := ⟨instant, verdict, by simp [hwritten]⟩
      complete := hlog.complete
      blocked := hlog.blocked
      sweep := hlog.sweep.append hposition hlive hanswered
      bound := by
        rw [List.length_append, List.length_singleton]
        omega }

theorem WaitLog.nextPass
    {passes : List (List Ping)} {pass : List Ping} {entries : List Entry}
    (hlog : WaitLog monitor world origin passes pass entries)
    (hfull : pass.length = monitor.dependencies.length)
    (hblocked :
      gateBlocker monitor world origin passes.flatten pass ≠ none) :
    WaitLog monitor world origin (passes ++ [pass]) [] entries := by
  obtain ⟨instant, verdict, hwritten⟩ := hlog.written
  exact
    { nonempty := hlog.nonempty
      written := ⟨instant, verdict, by simp [hwritten]⟩
      complete := forall_mem_concat hlog.complete ⟨hlog.sweep, hfull⟩
      blocked := forall_split_concat hlog.blocked hblocked
      sweep := .nil _ _
      bound := Nat.zero_le _ }

theorem BootLog.append
    {wait : List Entry} {passes : List (List Ping)} {current : List Ping}
    {entries : List Entry}
    (hlog : BootLog monitor world origin wait passes current entries)
    {ping : Ping} (hposition : ping.position = .primary current.length)
    (hlive : ping.live = false) (hanswered : ping.Answered)
    (hrange : current.length < monitor.primaries.length) :
    BootLog monitor world origin wait passes (current ++ [ping])
      (entries ++ [.pinged ping]) := by
  obtain ⟨instant, verdict, hwritten⟩ := hlog.written
  exact
    { gate := hlog.gate
      written := ⟨instant, verdict, by simp [hwritten]⟩
      complete := hlog.complete
      blocked := hlog.blocked
      sweep := hlog.sweep.append hposition hlive hanswered
      bound := by
        rw [List.length_append, List.length_singleton]
        omega }

theorem BootLog.nextPass
    {wait : List Entry} {passes : List (List Ping)} {pass : List Ping}
    {entries : List Entry}
    (hlog : BootLog monitor world origin wait passes pass entries)
    (hfull : pass.length = monitor.primaries.length)
    (hblocked : downBlocker pass ≠ none) :
    BootLog monitor world origin wait (passes ++ [pass]) [] entries := by
  obtain ⟨instant, verdict, hwritten⟩ := hlog.written
  exact
    { gate := hlog.gate
      written := ⟨instant, verdict, by simp [hwritten]⟩
      complete := forall_mem_concat hlog.complete ⟨hlog.sweep, hfull⟩
      blocked := forall_mem_concat hlog.blocked hblocked
      sweep := .nil _ _
      bound := Nat.zero_le _ }

theorem LiveLog.append
    {boot : List Entry} {passes : List LivePass} {current : List Block}
    {entries : List Entry}
    (hlog : LiveLog monitor world origin boot passes current entries)
    {block : Block}
    (hposition : block.ping.position = .primary current.length)
    (hlive : block.ping.live = true) (hanswered : block.ping.Answered)
    (hsettled : block.Settled monitor)
    (hrange : current.length < monitor.primaries.length) :
    LiveLog monitor world origin boot passes (current ++ [block])
      (entries ++ block.entries) := by
  obtain ⟨instant, verdict, hwritten⟩ := hlog.written
  exact
    { booted := hlog.booted
      written := ⟨instant, verdict, by simp [hwritten, liveEntries]⟩
      complete := hlog.complete
      sweep := by
        rw [pingsOf_append]
        exact hlog.sweep.append (by simpa using hposition) hlive hanswered
      settled := forall_mem_concat hlog.settled hsettled
      bound := by
        rw [List.length_append, List.length_singleton]
        omega }

theorem LiveLog.nextPass
    {boot : List Entry} {passes : List LivePass} {blocks : List Block}
    {entries : List Entry}
    (hlog : LiveLog monitor world origin boot passes blocks entries)
    (hfull : blocks.length = monitor.primaries.length) (closing : List Entry)
    (hclosing :
      if cleanIn blocks && cleanAfter origin.cleanBefore passes then
        ∃ instant, closing = [.told instant .cycle .proceed]
      else closing = []) :
    LiveLog monitor world origin boot (passes ++ [⟨blocks, closing⟩]) []
      (entries ++ closing) := by
  obtain ⟨instant, verdict, hwritten⟩ := hlog.written
  have hcomplete :
      LivePass.Complete monitor (cleanAfter origin.cleanBefore passes)
        ⟨blocks, closing⟩ :=
    { sweep := hlog.sweep
      full := hfull
      settled := hlog.settled
      closing := hclosing }
  exact
    { booted := hlog.booted
      written := ⟨instant, verdict, by
        simp [hwritten, liveEntries, LivePass.entries]⟩
      complete := forall_split_concat hlog.complete hcomplete
      sweep := .nil _ _
      settled := by simp
      bound := Nat.zero_le _ }

end Growth

end HealthMonitor
