import HealthMonitor.Proofs.Origins

/-!
# Live results are neither lost nor doubled

In live every ping is followed by one block of callbacks that says what came
of it, before the next ping begins.  Only a ping in which the run ends by a
shutdown or an abort has none.  So the live pings are as many as the results
and the timeouts of live, and one more if the run ended in such a ping.
-/

namespace HealthMonitor

variable {σ : Type}

/-- A live ping that was neither answered in time nor timed out. -/
def Ping.isLost (ping : Ping) : Bool :=
  ping.live &&
    match ping.outcome with
    | some (.completed _) | some .timedOut => false
    | _ => true

def Callback.isResult : Callback → Bool
  | .result _ _ => true
  | _ => false

def Callback.isLiveTimeout : Callback → Bool
  | .timedOut .live _ _ _ => true
  | _ => false

/-- What a run writes before live: no live ping, no result, and no callback of
live. -/
structure BeforeLive (entries : List Entry) : Prop where
  pings : ∀ ping ∈ pingsIn entries, ping.live = false
  callbacks : ∀ callback ∈ callbacksIn entries,
    callback ≠ .phase .live ∧ callback.isLive = false ∧
      callback.isResult = false

/-- What becomes of the live phase of a run: its complete passes, the blocks of
its last pass, and what follows them. -/
inductive LiveAccount
    (monitor : Monitor σ) (origin : State σ) (exit : Option RunExit) :
    List Entry → Prop
  | never {entries : List Entry} (hbefore : BeforeLive entries) :
      LiveAccount monitor origin exit entries
  | live {before tail : List Entry} {passes : List LivePass}
      {current : List Block} {instant : Nat} {verdict : Verdict}
      (hbefore : BeforeLive before)
      (hcomplete : ∀ pass ∈ passes,
        Sweep .primary true (pingsOf pass.blocks) ∧
          pass.blocks.length = monitor.primaries.length ∧
            (∀ block ∈ pass.blocks, block.Settled monitor) ∧
              (pass.closing = [] ∨
                ∃ instant, pass.closing = [.told instant .cycle .proceed]))
      (hsweep : Sweep .primary true (pingsOf current))
      (hbound : current.length ≤ monitor.primaries.length)
      (hsettled : ∀ block ∈ current, block.Settled monitor)
      (htail : LiveTail monitor origin passes current exit tail) :
      LiveAccount monitor origin exit
        (before ++ .told instant (.phase .live) verdict ::
          (liveEntries passes current ++ tail))

/-- Whether a run ended in a live ping, by a shutdown or by an abort. -/
def EndsInLivePing (exit : Option RunExit) (entries : List Entry) : Prop :=
  ∃ before ping after, entries = before ++ .pinged ping :: after ∧
    pingsIn after = [] ∧ ping.live = true ∧
      ((exit = some .shutdown ∧ ping.outcome = none) ∨
        ∃ abort, exit = some (.aborted abort) ∧
          ping.outcome = some (.aborted abort))

/-- The live pings of a run against the results and the timeouts. -/
structure LiveBalance
    (exit : Option RunExit) (entries : List Entry) : Prop where
  balance :
    (pingsIn entries).countP (·.live) =
      (callbacksIn entries).countP Callback.isResult +
        (callbacksIn entries).countP Callback.isLiveTimeout +
          if (pingsIn entries).any Ping.isLost then 1 else 0
  lost_iff :
    (pingsIn entries).any Ping.isLost = true ↔ EndsInLivePing exit entries

/-- What is known of the live phase of a run and of all its pings. -/
structure LiveRecord
    (monitor : Monitor σ) (world : World) (origin : State σ)
    (exit : Option RunExit) (entries : List Entry) : Prop where
  account : LiveAccount monitor origin exit entries
  faithful : ∀ ping ∈ pingsIn entries,
    ping.Faithful monitor world monitor.timing.probeTimeout
  counted : CountedFrom origin (pingsIn entries)
  balance : LiveBalance exit entries

/-! ## Balanced entries -/

/-- As many live pings as results and timeouts. -/
def Balanced (entries : List Entry) : Prop :=
  (pingsIn entries).countP (·.live) =
    (callbacksIn entries).countP Callback.isResult +
      (callbacksIn entries).countP Callback.isLiveTimeout

theorem balanced_nil : Balanced [] := rfl

theorem Balanced.append
    {entries more : List Entry} (hbalanced : Balanced entries)
    (hmore : Balanced more) :
    Balanced (entries ++ more) := by
  unfold Balanced at *
  simp only [pingsIn_append, callbacksIn_append, List.countP_append]
  omega

theorem balanced_flatMap
    {α : Type} {items : List α} {write : α → List Entry}
    (hitems : ∀ item ∈ items, Balanced (write item)) :
    Balanced (items.flatMap write) := by
  induction items with
  | nil => exact balanced_nil
  | cons item items ih =>
      rw [List.flatMap_cons]
      apply (hitems item List.mem_cons_self).append
      apply ih
      intro other hmem
      exact hitems other (List.mem_cons_of_mem _ hmem)

theorem IsBeat.balanced
    {beat : List Entry} (hbeat : IsBeat beat) : Balanced beat := by
  rcases hbeat with rfl | ⟨instant, status, verdict, rfl⟩
  · rfl
  · rfl

theorem balanced_result
    {ping : Ping} (hlive : ping.live = true) (instant : Nat) (status : Status)
    (verdict : Verdict) :
    Balanced [.pinged ping, .told instant (.result .live status) verdict] := by
  simp [Balanced, hlive, Callback.isResult, Callback.isLiveTimeout]

theorem balanced_timeout
    {ping : Ping} (hlive : ping.live = true) (instant : Nat) (probe : String)
    (last : Option Status) (now : Nat) (verdict : Verdict) :
    Balanced
      [.pinged ping,
        .told instant (.timedOut .live probe last now) verdict] := by
  simp [Balanced, hlive, Callback.isResult, Callback.isLiveTimeout]

theorem balanced_told
    {callback : Callback} (hresult : callback.isResult = false)
    (htimeout : callback.isLiveTimeout = false) (instant : Nat)
    (verdict : Verdict) :
    Balanced [.told instant callback verdict] := by
  simp [Balanced, hresult, htimeout]

theorem Block.Settled.balanced
    {monitor : Monitor σ} {block : Block} (hsettled : block.Settled monitor)
    (hlive : block.ping.live = true) :
    Balanced block.entries := by
  cases hsettled with
  | up houtcome hsuccess hbeat =>
      exact (balanced_result hlive _ _ _).append hbeat.balanced
  | down houtcome hsuccess hbeat =>
      exact ((balanced_result hlive _ _ _).append
        (balanced_told rfl rfl _ _)).append hbeat.balanced
  | hung houtcome hbeat =>
      exact (balanced_timeout hlive _ _ _ _ _).append hbeat.balanced

theorem BeforeLive.balanced
    {entries : List Entry} (hbefore : BeforeLive entries) :
    Balanced entries := by
  have hpings : (pingsIn entries).countP (·.live) = 0 := by
    rw [List.countP_eq_zero]
    intro ping hmem
    simp [hbefore.pings ping hmem]
  have hresults : (callbacksIn entries).countP Callback.isResult = 0 := by
    rw [List.countP_eq_zero]
    intro callback hmem
    simp [(hbefore.callbacks callback hmem).2.2]
  have htimeouts :
      (callbacksIn entries).countP Callback.isLiveTimeout = 0 := by
    rw [List.countP_eq_zero]
    intro callback hmem htimeout
    have hlive := (hbefore.callbacks callback hmem).2.1
    unfold Callback.isLiveTimeout at htimeout
    split at htimeout
    next => exact nomatch hlive
    next => exact nomatch htimeout
  rw [Balanced, hpings, hresults, htimeouts]

theorem BeforeLive.append
    {entries more : List Entry} (hbefore : BeforeLive entries)
    (hmore : BeforeLive more) :
    BeforeLive (entries ++ more) where
  pings := by
    rw [pingsIn_append, List.forall_mem_append]
    exact ⟨hbefore.pings, hmore.pings⟩
  callbacks := by
    rw [callbacksIn_append, List.forall_mem_append]
    exact ⟨hbefore.callbacks, hmore.callbacks⟩

theorem BeforeLive.phase_notMem
    {entries : List Entry} (hbefore : BeforeLive entries) :
    .phase .live ∉ callbacksIn entries :=
  fun hmem => (hbefore.callbacks _ hmem).1 rfl

theorem BeforeLive.cycle_notMem
    {entries : List Entry} (hbefore : BeforeLive entries) :
    .cycle ∉ callbacksIn entries :=
  fun hmem => nomatch (hbefore.callbacks _ hmem).2.1

/-! ## Lost pings -/

theorem Ping.Answered.isLost
    {ping : Ping} (hanswered : ping.Answered) : ping.isLost = false := by
  rcases hanswered with ⟨status, houtcome⟩ | houtcome
  · simp [Ping.isLost, houtcome]
  · simp [Ping.isLost, houtcome]

theorem Ping.isLost_of_not_live
    {ping : Ping} (hlive : ping.live = false) : ping.isLost = false := by
  simp [Ping.isLost, hlive]

theorem EndsInLivePing.any_isLost
    {exit : Option RunExit} {entries : List Entry}
    (hends : EndsInLivePing exit entries) :
    (pingsIn entries).any Ping.isLost = true := by
  obtain ⟨before, ping, after, rfl, -, hlive, houtcome⟩ := hends
  have hlost : ping.isLost = true := by
    rcases houtcome with ⟨-, hnone⟩ | ⟨abort, -, haborted⟩
    · simp [Ping.isLost, hlive, hnone]
    · simp [Ping.isLost, hlive, haborted]
  rw [List.any_eq_true]
  exact ⟨ping, by simp, hlost⟩

/-- Balanced entries without a lost ping keep the balance. -/
theorem Balanced.liveBalance
    {entries : List Entry} (hbalanced : Balanced entries)
    (hnone : ∀ ping ∈ pingsIn entries, ping.isLost = false)
    (exit : Option RunExit) :
    LiveBalance exit entries := by
  have hany : (pingsIn entries).any Ping.isLost = false := by
    rw [List.any_eq_false]
    intro ping hmem
    simp [hnone ping hmem]
  constructor
  · rw [hany]
    exact hbalanced
  · constructor
    · intro htrue
      rw [hany] at htrue
      exact nomatch htrue
    · exact EndsInLivePing.any_isLost

/-- A last ping that is lost makes the difference of one. -/
theorem Balanced.liveBalance_lost
    {front after : List Entry} (hbalanced : Balanced front) {ping : Ping}
    (hpings : pingsIn after = [])
    (hcallbacks : ∀ callback ∈ callbacksIn after, callback = .unregister)
    {exit : Option RunExit} (hlive : ping.live = true)
    (houtcome : (exit = some .shutdown ∧ ping.outcome = none) ∨
      ∃ abort, exit = some (.aborted abort) ∧
        ping.outcome = some (.aborted abort)) :
    LiveBalance exit (front ++ .pinged ping :: after) := by
  have hends : EndsInLivePing exit (front ++ .pinged ping :: after) :=
    ⟨front, ping, after, rfl, hpings, hlive, houtcome⟩
  have hresults : (callbacksIn after).countP Callback.isResult = 0 := by
    rw [List.countP_eq_zero]
    intro callback hmem
    simp [hcallbacks callback hmem, Callback.isResult]
  have htimeouts : (callbacksIn after).countP Callback.isLiveTimeout = 0 := by
    rw [List.countP_eq_zero]
    intro callback hmem
    simp [hcallbacks callback hmem, Callback.isLiveTimeout]
  unfold Balanced at hbalanced
  constructor
  · rw [if_pos hends.any_isLost]
    simp only [pingsIn_append, callbacksIn_append, pingsIn_pinged_cons,
      callbacksIn_pinged_cons, hpings, List.countP_append, List.countP_cons,
      List.countP_nil, hlive, hresults, htimeouts, if_true]
    omega
  · exact ⟨fun _ => hends, fun _ => hends.any_isLost⟩

/-! ## From logs to records -/

section Logs

variable {monitor : Monitor σ} {world : World} {origin : State σ}
  {entries : List Entry}

theorem WaitLog.beforeLive
    {passes : List (List Ping)} {current : List Ping}
    (hlog : WaitLog monitor world origin passes current entries) :
    BeforeLive entries where
  pings := by
    rw [hlog.pingsIn_eq]
    intro ping hmem
    exact (sweeps_pings hlog.complete hlog.sweep ping hmem).1
  callbacks := by simp [hlog.callbacksIn_eq, Callback.isLive, Callback.isResult]

theorem GateLog.beforeLive
    (hgate : GateLog monitor world origin entries) : BeforeLive entries := by
  cases hgate with
  | skipped hempty => constructor <;> simp
  | opened hlog hfull hopen => exact hlog.beforeLive

theorem BootLog.beforeLive
    {wait : List Entry} {passes : List (List Ping)} {current : List Ping}
    (hlog : BootLog monitor world origin wait passes current entries) :
    BeforeLive entries where
  pings := by
    rw [hlog.pingsIn_eq, List.forall_mem_append]
    refine ⟨hlog.gate.beforeLive.pings, ?_⟩
    intro ping hmem
    exact (sweeps_pings hlog.complete hlog.sweep ping hmem).1
  callbacks := by
    rw [hlog.callbacksIn_eq, ← hlog.gate.callbacksIn_eq]
    exact forall_mem_concat hlog.gate.beforeLive.callbacks
      ⟨by simp, rfl, rfl⟩

theorem BootedLog.beforeLive
    {boot : List Entry} {pass : List Ping}
    (hbooted : BootedLog monitor world origin boot pass entries) :
    BeforeLive entries := by
  obtain ⟨wait, passes, hlog⟩ := hbooted.bootstrap
  obtain ⟨booted, rfl, hstatuses⟩ := hbooted.written
  apply hlog.beforeLive.append
  constructor
  · simp [Monitor.bootstrapEntries, pingsIn_eq_nil (told_of_booted hstatuses)]
  · simp [Monitor.bootstrapEntries, callbacksIn_booted hstatuses,
      Callback.isLive, Callback.isResult]

theorem Interrupted.beforeLive
    {position : Position} {exit : Option RunExit} {tail : List Entry}
    (hstop : Interrupted origin position false exit tail) :
    BeforeLive tail where
  pings := hstop.live_eq
  callbacks := by
    intro callback hmem
    rw [hstop.callback_eq callback hmem]
    exact ⟨by simp, rfl, rfl⟩

/-- A run that stops before live has no live ping to answer for. -/
theorem BeforeLive.record
    (hbefore : BeforeLive entries)
    {exit : Option RunExit} :
    LiveAccount monitor origin exit entries ∧ LiveBalance exit entries := by
  refine ⟨.never hbefore, hbefore.balanced.liveBalance ?_ exit⟩
  intro ping hmem
  exact Ping.isLost_of_not_live (hbefore.pings ping hmem)

theorem LivePass.Complete.balanced
    {before : Bool} {pass : LivePass} (hpass : pass.Complete monitor before) :
    Balanced pass.entries := by
  have hblocks : Balanced (pass.blocks.flatMap Block.entries) := by
    apply balanced_flatMap
    intro block hmem
    exact (hpass.settled block hmem).balanced
      (hpass.sweep.live _ (List.mem_map_of_mem hmem))
  apply hblocks.append
  rcases hpass.closing_cases with hnone | ⟨instant, hcycle⟩
  · rw [hnone]
    exact balanced_nil
  · rw [hcycle]
    exact balanced_told rfl rfl _ _

theorem LiveLog.balanced
    {boot : List Entry} {passes : List LivePass} {current : List Block}
    (hlog : LiveLog monitor world origin boot passes current entries) :
    Balanced entries := by
  obtain ⟨before, pass, hbooted⟩ := hlog.booted
  obtain ⟨instant, verdict, hwritten⟩ := hlog.written
  have hpasses : Balanced (passes.flatMap LivePass.entries) := by
    apply balanced_flatMap
    intro pass hmem
    obtain ⟨earlier, hcomplete⟩ := hlog.complete_of_mem hmem
    exact hcomplete.balanced
  have hcurrent : Balanced (current.flatMap Block.entries) := by
    apply balanced_flatMap
    intro block hmem
    exact (hlog.settled block hmem).balanced
      (hlog.sweep.live _ (List.mem_map_of_mem hmem))
  rw [hwritten]
  exact hbooted.beforeLive.balanced.append
    ((balanced_told rfl rfl instant verdict).append (hpasses.append hcurrent))

theorem LiveLog.isLost
    {boot : List Entry} {passes : List LivePass} {current : List Block}
    (hlog : LiveLog monitor world origin boot passes current entries) :
    ∀ ping ∈ pingsIn entries, ping.isLost = false := by
  obtain ⟨before, pass, hbooted⟩ := hlog.booted
  obtain ⟨instant, verdict, hwritten⟩ := hlog.written
  intro ping hmem
  rw [hwritten, pingsIn_append, pingsIn_told_cons, hlog.pingsIn_live,
    List.mem_append, List.mem_append] at hmem
  rcases hmem with hboot | hpasses | hcurrent
  · exact Ping.isLost_of_not_live (hbooted.beforeLive.pings ping hboot)
  · obtain ⟨other, hother, hping⟩ := List.mem_flatMap.mp hpasses
    obtain ⟨earlier, hcomplete⟩ := hlog.complete_of_mem hother
    exact (hcomplete.sweep.answered ping hping).isLost
  · exact (hlog.sweep.answered ping hcurrent).isLost

/-- A live phase that ends with answers only is balanced. -/
theorem LiveLog.liveBalance
    {boot : List Entry} {passes : List LivePass} {current : List Block}
    (hlog : LiveLog monitor world origin boot passes current entries)
    {tail : List Entry} (htail : Balanced tail)
    (hnone : ∀ ping ∈ pingsIn tail, ping.isLost = false)
    (exit : Option RunExit) :
    LiveBalance exit (entries ++ tail) := by
  apply (hlog.balanced.append htail).liveBalance
  rw [pingsIn_append, List.forall_mem_append]
  exact ⟨hlog.isLost, hnone⟩

theorem IsFarewell.balanced
    {tail : List Entry} (htail : IsFarewell origin tail) : Balanced tail := by
  unfold IsFarewell at htail
  split at htail
  next =>
    rw [htail]
    exact balanced_nil
  next =>
    obtain ⟨instant, verdict, rfl⟩ := htail
    exact balanced_told rfl rfl _ _

theorem IsFarewell.callback_eq
    {tail : List Entry} (htail : IsFarewell origin tail) :
    ∀ callback ∈ callbacksIn tail, callback = .unregister := by
  have hstop :
      Interrupted origin (.primary 0) true (some .shutdown) tail :=
    .shutDown htail
  exact hstop.callback_eq

theorem LiveTail.liveBalance
    {boot : List Entry} {passes : List LivePass} {current : List Block}
    (hlog : LiveLog monitor world origin boot passes current entries)
    {exit : Option RunExit} {tail : List Entry}
    (htail : LiveTail monitor origin passes current exit tail) :
    LiveBalance exit (entries ++ tail) := by
  cases htail with
  | stopped hroom hstop =>
      cases hstop with
      | underway => exact hlog.liveBalance balanced_nil (by simp) _
      | shutDown hfarewell =>
          exact hlog.liveBalance hfarewell.balanced
            (by simp [hfarewell.pingsIn_eq]) _
      | cutShort hposition hlive houtcome hfarewell =>
          exact hlog.balanced.liveBalance_lost hfarewell.pingsIn_eq
            hfarewell.callback_eq hlive (.inl ⟨rfl, houtcome⟩)
      | aborted hposition hlive houtcome =>
          exact hlog.balanced.liveBalance_lost rfl (by simp) hlive
            (.inr ⟨_, rfl, houtcome⟩)
  | @failed ping status instant verdict hposition hlive houtcome hsuccess =>
      have hanswered : ping.Answered := .inl ⟨status, houtcome⟩
      exact hlog.liveBalance
        ((balanced_result hlive _ _ _).append (balanced_told rfl rfl _ _))
        (by simpa using hanswered.isLost) _
  | @hung ping last instant hposition hlive houtcome =>
      have hanswered : ping.Answered := .inr houtcome
      exact hlog.liveBalance (balanced_timeout hlive _ _ _ _ _)
        (by simpa using hanswered.isLost) _
  | completed hfull hclean hbefore =>
      exact hlog.liveBalance (balanced_told rfl rfl _ _) (by simp) _

theorem LiveTail.liveAccount
    {boot : List Entry} {passes : List LivePass} {current : List Block}
    (hlog : LiveLog monitor world origin boot passes current entries)
    {exit : Option RunExit} {tail : List Entry}
    (htail : LiveTail monitor origin passes current exit tail) :
    LiveAccount monitor origin exit (entries ++ tail) := by
  obtain ⟨before, pass, hbooted⟩ := hlog.booted
  obtain ⟨instant, verdict, hwritten⟩ := hlog.written
  have hcomplete : ∀ pass ∈ passes,
      Sweep .primary true (pingsOf pass.blocks) ∧
        pass.blocks.length = monitor.primaries.length ∧
          (∀ block ∈ pass.blocks, block.Settled monitor) ∧
            (pass.closing = [] ∨
              ∃ instant, pass.closing = [.told instant .cycle .proceed]) := by
    intro pass hmem
    obtain ⟨earlier, hpass⟩ := hlog.complete_of_mem hmem
    exact ⟨hpass.sweep, hpass.full, hpass.settled, hpass.closing_cases⟩
  rw [hwritten, List.append_assoc, List.cons_append]
  exact .live hbooted.beforeLive hcomplete hlog.sweep hlog.bound hlog.settled
    htail

/-- A run has written nothing of live yet, or it went live. -/
theorem RunLog.beforeLive_or_living
    {exit : Option RunExit} (hlog : RunLog monitor world origin exit entries) :
    BeforeLive entries ∨
      ∃ boot passes current log tail,
        entries = log ++ tail ∧
          LiveLog monitor world origin boot passes current log ∧
            LiveTail monitor origin passes current exit tail := by
  cases hlog with
  | waiting hlog hroom hstop =>
      exact .inl (hlog.beforeLive.append hstop.beforeLive)
  | waitTimedOut hlog hfull hblocked =>
      apply Or.inl
      apply hlog.beforeLive.append
      exact ⟨by simp, by simp [Callback.isLive, Callback.isResult]⟩
  | booting hlog hroom hstop =>
      exact .inl (hlog.beforeLive.append hstop.beforeLive)
  | bootTimedOut hlog hfull hblocked =>
      apply Or.inl
      apply hlog.beforeLive.append
      exact ⟨by simp, by simp [Callback.isLive, Callback.isResult]⟩
  | living hlog htail =>
      exact .inr ⟨_, _, _, _, _, rfl, hlog, htail⟩

theorem RunLog.live_record
    {exit : Option RunExit} (hlog : RunLog monitor world origin exit entries) :
    LiveAccount monitor origin exit entries ∧ LiveBalance exit entries := by
  rcases hlog.beforeLive_or_living with
    hbefore | ⟨boot, passes, current, log, tail, rfl, hlive, htail⟩
  · exact hbefore.record
  · exact ⟨htail.liveAccount hlive, htail.liveBalance hlive⟩

end Logs

/-- In every run each live ping but one in which the run ends has its block of
callbacks, and what is reported is what the watchdog answered. -/
theorem run_liveRecord
    {monitor : Monitor σ} {world : World} {stop : Option Nat} {fuel : Nat}
    {origin final : State σ} {exit : Option RunExit}
    (hreachable : monitor.Reachable origin)
    (hrun : monitor.run world stop fuel origin = (.ok exit, final)) :
    LiveRecord monitor world origin exit (final.since origin) := by
  obtain ⟨hcontinues, hlog⟩ := run_log hrun
  obtain ⟨haccount, hbalance⟩ := hlog.live_record
  have hfaithful := hcontinues.faithful
  rw [hreachable.timeout] at hfaithful
  exact
    { account := haccount
      faithful := hfaithful
      counted := hcontinues.counted
      balance := hbalance }

theorem run_liveRecord_sample :
    LiveRecord Sample.monitor Sample.world Sample.started (some .shutdown)
      (Sample.final.since Sample.started) :=
  run_liveRecord Sample.reachable Sample.run_eq

end HealthMonitor
