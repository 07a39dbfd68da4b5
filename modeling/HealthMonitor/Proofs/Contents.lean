import HealthMonitor.Proofs.Chronicle

/-!
# What the logs of a run hold

The pings and the callbacks of every kind of log, read off its form.
-/

namespace HealthMonitor

variable {σ : Type}

theorem pingsIn_eq_nil
    {entries : List Entry}
    (htold : ∀ entry ∈ entries, entry.callback?.isSome = true) :
    pingsIn entries = [] := by
  rw [pingsIn, List.filterMap_eq_nil_iff]
  intro entry hmem
  have hcallback := htold entry hmem
  cases entry with
  | told instant callback verdict => rfl
  | pinged ping => simp [Entry.callback?] at hcallback
  | prepared position => rfl
  | beganBootstrap position => rfl
  | endedBootstrap position => rfl

theorem silent_of_told
    {entries : List Entry}
    (htold : ∀ entry ∈ entries, entry.callback?.isSome = true) :
    Silent entries := by
  intro entry hmem
  have hcallback := htold entry hmem
  cases entry with
  | told instant callback verdict => rfl
  | pinged ping => rfl
  | prepared position => simp [Entry.callback?] at hcallback
  | beganBootstrap position => simp [Entry.callback?] at hcallback
  | endedBootstrap position => simp [Entry.callback?] at hcallback

/-- Reports of statuses, of which it is only known what they tell. -/
theorem told_of_booted
    {booted : List Entry} {statuses : List Status}
    (hbooted :
      booted.map Entry.callback? = statuses.map (some ∘ .booted)) :
    ∀ entry ∈ booted, entry.callback?.isSome = true := by
  intro entry hmem
  have hcallback : entry.callback? ∈ statuses.map (some ∘ .booted) := by
    rw [← hbooted]
    exact List.mem_map_of_mem hmem
  obtain ⟨status, -, heq⟩ := List.mem_map.mp hcallback
  rw [← heq]
  rfl

theorem callbacksIn_booted
    {booted : List Entry} {statuses : List Status}
    (hbooted :
      booted.map Entry.callback? = statuses.map (some ∘ .booted)) :
    callbacksIn booted = statuses.map .booted := by
  have hfilter := congrArg (·.filterMap id) hbooted
  simpa [callbacksIn, List.filterMap_map] using hfilter

/-- The word that a run tells before its bootstrap. -/
def Monitor.waitWord (monitor : Monitor σ) : List Callback :=
  if monitor.dependencies = [] then [] else [.phase .dependencyWait]

/-- Whether a callback is one that a live phase makes. -/
def Callback.isLive : Callback → Bool
  | .result .live _ | .failure _ | .timedOut .live _ _ _ | .heartbeat _
  | .cycle => true
  | _ => false

section Contents

variable {monitor : Monitor σ} {world : World} {origin : State σ}
  {entries : List Entry}

theorem WaitLog.pingsIn_eq
    {passes : List (List Ping)} {current : List Ping}
    (hlog : WaitLog monitor world origin passes current entries) :
    pingsIn entries = passes.flatten ++ current := by
  obtain ⟨instant, verdict, hwritten⟩ := hlog.written
  rw [hwritten, pingsIn_told_cons, pingsIn_map_pinged]

theorem WaitLog.callbacksIn_eq
    {passes : List (List Ping)} {current : List Ping}
    (hlog : WaitLog monitor world origin passes current entries) :
    callbacksIn entries = [.phase .dependencyWait] := by
  obtain ⟨instant, verdict, rfl⟩ := hlog.written
  rw [callbacksIn_told_cons, callbacksIn_map_pinged]

theorem GateLog.callbacksIn_eq
    (hgate : GateLog monitor world origin entries) :
    callbacksIn entries = monitor.waitWord := by
  cases hgate with
  | skipped hempty => simp [Monitor.waitWord, hempty]
  | opened hlog hfull hopen =>
      rw [hlog.callbacksIn_eq, Monitor.waitWord, if_neg hlog.nonempty]

theorem BootLog.callbacksIn_eq
    {wait : List Entry} {passes : List (List Ping)} {current : List Ping}
    (hlog : BootLog monitor world origin wait passes current entries) :
    callbacksIn entries = monitor.waitWord ++ [.phase .bootstrap] := by
  obtain ⟨instant, verdict, rfl⟩ := hlog.written
  rw [callbacksIn_append, hlog.gate.callbacksIn_eq, callbacksIn_told_cons,
    callbacksIn_append, Monitor.bootstrapEntries,
    callbacksIn_map_beganBootstrap, callbacksIn_map_pinged]
  rfl

theorem WaitLog.silent
    {passes : List (List Ping)} {current : List Ping}
    (hlog : WaitLog monitor world origin passes current entries) :
    Silent entries := by
  obtain ⟨instant, verdict, rfl⟩ := hlog.written
  exact (silent_told _ _ _).append (silent_map_pinged _)

theorem BootLog.pingsIn_eq
    {wait : List Entry} {passes : List (List Ping)} {current : List Ping}
    (hlog : BootLog monitor world origin wait passes current entries) :
    pingsIn entries = pingsIn wait ++ (passes.flatten ++ current) := by
  obtain ⟨instant, verdict, rfl⟩ := hlog.written
  rw [pingsIn_append, pingsIn_told_cons, pingsIn_append,
    Monitor.bootstrapEntries, pingsIn_map_beganBootstrap, pingsIn_map_pinged,
    List.nil_append]

theorem BootedLog.callbacksIn_eq
    {boot : List Entry} {pass : List Ping}
    (hbooted : BootedLog monitor world origin boot pass entries) :
    callbacksIn entries =
      monitor.waitWord ++ .phase .bootstrap ::
        (statusesIn .bootstrap pass).map .booted := by
  obtain ⟨wait, passes, hlog⟩ := hbooted.bootstrap
  obtain ⟨booted, rfl, hstatuses⟩ := hbooted.written
  rw [callbacksIn_append, hlog.callbacksIn_eq, callbacksIn_append,
    Monitor.bootstrapEntries, callbacksIn_map_endedBootstrap,
    callbacksIn_booted hstatuses]
  simp

theorem BootedLog.pingsIn_eq
    {boot : List Entry} {pass : List Ping}
    (hbooted : BootedLog monitor world origin boot pass entries) :
    pingsIn entries = pingsIn boot := by
  obtain ⟨booted, rfl, hstatuses⟩ := hbooted.written
  rw [pingsIn_append, pingsIn_append, Monitor.bootstrapEntries,
    pingsIn_map_endedBootstrap, pingsIn_eq_nil (told_of_booted hstatuses),
    List.append_nil, List.append_nil]

/-! ## Live -/

theorem IsBeat.pingsIn_eq
    {beat : List Entry} (hbeat : IsBeat beat) : pingsIn beat = [] := by
  rcases hbeat with rfl | ⟨instant, status, verdict, rfl⟩
  · rfl
  · rfl

theorem IsBeat.isLive
    {beat : List Entry} (hbeat : IsBeat beat) :
    ∀ callback ∈ callbacksIn beat, callback.isLive = true := by
  rcases hbeat with rfl | ⟨instant, status, verdict, rfl⟩
  · simp
  · simp [Callback.isLive]

theorem IsBeat.silent
    {beat : List Entry} (hbeat : IsBeat beat) : Silent beat := by
  rcases hbeat with rfl | ⟨instant, status, verdict, rfl⟩
  · simp [Silent]
  · exact silent_told _ _ _

theorem Block.Settled.silent
    {block : Block} (hsettled : block.Settled monitor) :
    Silent block.entries := by
  cases hsettled with
  | up houtcome hsuccess hbeat =>
      simpa [Silent, Block.entries, Entry.isSilent] using hbeat.silent
  | down houtcome hsuccess hbeat =>
      simpa [Silent, Block.entries, Entry.isSilent] using hbeat.silent
  | hung houtcome hbeat =>
      simpa [Silent, Block.entries, Entry.isSilent] using hbeat.silent

theorem silent_blocks
    {blocks : List Block}
    (hsettled : ∀ block ∈ blocks, block.Settled monitor) :
    Silent (blocks.flatMap Block.entries) := by
  intro entry hmem
  obtain ⟨block, hblock, hentry⟩ := List.mem_flatMap.mp hmem
  exact (hsettled block hblock).silent entry hentry

theorem Block.Settled.pingsIn_eq
    {block : Block} (hsettled : block.Settled monitor) :
    pingsIn block.entries = [block.ping] := by
  cases hsettled with
  | up houtcome hsuccess hbeat => simp [Block.entries, hbeat.pingsIn_eq]
  | down houtcome hsuccess hbeat => simp [Block.entries, hbeat.pingsIn_eq]
  | hung houtcome hbeat => simp [Block.entries, hbeat.pingsIn_eq]

theorem Block.Settled.isLive
    {block : Block} (hsettled : block.Settled monitor) :
    ∀ callback ∈ callbacksIn block.entries, callback.isLive = true := by
  cases hsettled with
  | up houtcome hsuccess hbeat =>
      simpa [Block.entries, Callback.isLive] using hbeat.isLive
  | down houtcome hsuccess hbeat =>
      simpa [Block.entries, Callback.isLive] using hbeat.isLive
  | hung houtcome hbeat =>
      simpa [Block.entries, Callback.isLive] using hbeat.isLive

theorem pingsIn_blocks
    {blocks : List Block}
    (hsettled : ∀ block ∈ blocks, block.Settled monitor) :
    pingsIn (blocks.flatMap Block.entries) = pingsOf blocks := by
  induction blocks with
  | nil => rfl
  | cons block blocks ih =>
      have hrest := ih fun other hmem =>
        hsettled other (List.mem_cons_of_mem _ hmem)
      rw [List.flatMap_cons, pingsIn_append, hrest,
        (hsettled block List.mem_cons_self).pingsIn_eq]
      rfl

theorem isLive_blocks
    {blocks : List Block}
    (hsettled : ∀ block ∈ blocks, block.Settled monitor) :
    ∀ callback ∈ callbacksIn (blocks.flatMap Block.entries),
      callback.isLive = true := by
  intro callback hmem
  rw [callbacksIn_flatMap] at hmem
  obtain ⟨block, hblock, hcallback⟩ := List.mem_flatMap.mp hmem
  exact (hsettled block hblock).isLive callback hcallback

theorem LivePass.Complete.closing_cases
    {before : Bool} {pass : LivePass} (hpass : pass.Complete monitor before) :
    pass.closing = [] ∨
      ∃ instant, pass.closing = [.told instant .cycle .proceed] := by
  have hclosing := hpass.closing
  split at hclosing
  next => exact .inr hclosing
  next => exact .inl hclosing

theorem LivePass.Complete.pingsIn_eq
    {before : Bool} {pass : LivePass} (hpass : pass.Complete monitor before) :
    pingsIn pass.entries = pingsOf pass.blocks := by
  have hblocks := pingsIn_blocks hpass.settled
  rcases hpass.closing_cases with hnone | ⟨instant, hcycle⟩
  · simp [LivePass.entries, hnone, hblocks]
  · simp [LivePass.entries, hcycle, hblocks]

theorem LivePass.Complete.isLive
    {before : Bool} {pass : LivePass} (hpass : pass.Complete monitor before) :
    ∀ callback ∈ callbacksIn pass.entries, callback.isLive = true := by
  intro callback hmem
  rw [LivePass.entries, callbacksIn_append, List.mem_append] at hmem
  rcases hmem with hblocks | hclosing
  · exact isLive_blocks hpass.settled callback hblocks
  · rcases hpass.closing_cases with hnone | ⟨instant, hcycle⟩
    · simp [hnone] at hclosing
    · simp only [hcycle, callbacksIn_told_cons, callbacksIn_nil,
        List.mem_singleton] at hclosing
      subst hclosing
      rfl

theorem LivePass.Complete.silent
    {before : Bool} {pass : LivePass} (hpass : pass.Complete monitor before) :
    Silent pass.entries := by
  apply (silent_blocks hpass.settled).append
  rcases hpass.closing_cases with hnone | ⟨instant, hcycle⟩
  · simp [Silent, hnone]
  · rw [hcycle]
    exact silent_told _ _ _

theorem LiveLog.complete_of_mem
    {boot : List Entry} {passes : List LivePass} {current : List Block}
    (hlog : LiveLog monitor world origin boot passes current entries)
    {pass : LivePass} (hmem : pass ∈ passes) :
    ∃ before, pass.Complete monitor before := by
  obtain ⟨earlier, later, hsplit⟩ := List.append_of_mem hmem
  exact ⟨_, hlog.complete earlier pass later hsplit⟩

theorem LiveLog.pingsIn_live
    {boot : List Entry} {passes : List LivePass} {current : List Block}
    (hlog : LiveLog monitor world origin boot passes current entries) :
    pingsIn (liveEntries passes current) =
      passes.flatMap (fun pass => pingsOf pass.blocks) ++ pingsOf current := by
  have hpasses :
      passes.flatMap (fun pass => pingsIn pass.entries) =
        passes.flatMap fun pass => pingsOf pass.blocks := by
    rw [List.flatMap_def, List.flatMap_def]
    congr 1
    apply List.map_congr_left
    intro pass hmem
    obtain ⟨before, hpass⟩ := hlog.complete_of_mem hmem
    exact hpass.pingsIn_eq
  rw [liveEntries, pingsIn_append, pingsIn_flatMap, hpasses,
    pingsIn_blocks hlog.settled]

theorem LiveLog.live_pings
    {boot : List Entry} {passes : List LivePass} {current : List Block}
    (hlog : LiveLog monitor world origin boot passes current entries) :
    ∀ ping ∈ pingsIn (liveEntries passes current),
      ping.live = true ∧ ∃ index, ping.position = .primary index := by
  rw [hlog.pingsIn_live]
  intro ping hmem
  rcases List.mem_append.mp hmem with hpasses | hcurrent
  · obtain ⟨pass, hpass, hping⟩ := List.mem_flatMap.mp hpasses
    obtain ⟨before, hcomplete⟩ := hlog.complete_of_mem hpass
    exact ⟨hcomplete.sweep.live ping hping,
      hcomplete.sweep.exists_index ping hping⟩
  · exact ⟨hlog.sweep.live ping hcurrent,
      hlog.sweep.exists_index ping hcurrent⟩

theorem LiveLog.live_callbacks
    {boot : List Entry} {passes : List LivePass} {current : List Block}
    (hlog : LiveLog monitor world origin boot passes current entries) :
    ∀ callback ∈ callbacksIn (liveEntries passes current),
      callback.isLive = true := by
  intro callback hmem
  rw [liveEntries, callbacksIn_append, List.mem_append] at hmem
  rcases hmem with hpasses | hblocks
  · rw [callbacksIn_flatMap] at hpasses
    obtain ⟨pass, hpass, hcallback⟩ := List.mem_flatMap.mp hpasses
    obtain ⟨before, hcomplete⟩ := hlog.complete_of_mem hpass
    exact hcomplete.isLive callback hcallback
  · exact isLive_blocks hlog.settled callback hblocks

theorem LiveLog.silent_live
    {boot : List Entry} {passes : List LivePass} {current : List Block}
    (hlog : LiveLog monitor world origin boot passes current entries) :
    Silent (liveEntries passes current) := by
  apply Silent.append _ (silent_blocks hlog.settled)
  intro entry hmem
  obtain ⟨pass, hpass, hentry⟩ := List.mem_flatMap.mp hmem
  obtain ⟨before, hcomplete⟩ := hlog.complete_of_mem hpass
  exact hcomplete.silent entry hentry

/-! ## Ends -/

theorem IsFarewell.callbacksIn_eq
    (hopen : origin.closed = false) {tail : List Entry}
    (htail : IsFarewell origin tail) :
    callbacksIn tail = [.unregister] := by
  rw [IsFarewell, if_neg (by simp [hopen])] at htail
  obtain ⟨instant, verdict, rfl⟩ := htail
  rfl

theorem IsFarewell.pingsIn_eq
    {tail : List Entry} (htail : IsFarewell origin tail) :
    pingsIn tail = [] := by
  unfold IsFarewell at htail
  split at htail
  next => rw [htail, pingsIn_nil]
  next =>
    obtain ⟨instant, verdict, rfl⟩ := htail
    rfl

theorem IsFarewell.silent
    {tail : List Entry} (htail : IsFarewell origin tail) : Silent tail := by
  unfold IsFarewell at htail
  split at htail
  next => simp [Silent, htail]
  next =>
    obtain ⟨instant, verdict, rfl⟩ := htail
    exact silent_told _ _ _

theorem Interrupted.silent
    {position : Position} {live : Bool} {exit : Option RunExit}
    {tail : List Entry}
    (hstop : Interrupted origin position live exit tail) : Silent tail := by
  cases hstop with
  | underway => simp [Silent]
  | shutDown htail => exact htail.silent
  | cutShort hposition hlive houtcome htail =>
      exact (silent_map_pinged [_]).append htail.silent
  | aborted hposition hlive houtcome => exact silent_map_pinged [_]

/-- A run that is stopped in a sweep leaves the sweep cut short. -/
theorem Interrupted.cutSweep
    {place : Nat → Position} {live : Bool} {current : List Ping} {count : Nat}
    (hsweep : Sweep place live current) (hroom : current.length < count)
    {exit : Option RunExit} {tail : List Entry}
    (hstop : Interrupted origin (place current.length) live exit tail) :
    CutSweep place live count (current ++ pingsIn tail) := by
  cases hstop with
  | underway => simpa using hsweep.cut hroom
  | shutDown htail => simpa [htail.pingsIn_eq] using hsweep.cut hroom
  | cutShort hposition hlive houtcome htail =>
      have hcut := hsweep.cut_append hroom hposition hlive
        (Ping.not_answered_of_none houtcome)
      simpa [htail.pingsIn_eq] using hcut
  | aborted hposition hlive houtcome =>
      exact hsweep.cut_append hroom hposition hlive
        (Ping.not_answered_of_aborted houtcome)

theorem Interrupted.exists_index
    {place : Nat → Position} {index : Nat} {live : Bool}
    {exit : Option RunExit} {tail : List Entry}
    (hstop : Interrupted origin (place index) live exit tail) :
    ∀ ping ∈ pingsIn tail, ∃ index, ping.position = place index := by
  cases hstop with
  | underway => simp
  | shutDown htail => simp [htail.pingsIn_eq]
  | cutShort hposition hlive houtcome htail =>
      simpa [htail.pingsIn_eq] using ⟨index, hposition⟩
  | aborted hposition hlive houtcome => simpa using ⟨index, hposition⟩

theorem Interrupted.live_eq
    {position : Position} {live : Bool} {exit : Option RunExit}
    {tail : List Entry}
    (hstop : Interrupted origin position live exit tail) :
    ∀ ping ∈ pingsIn tail, ping.live = live := by
  cases hstop with
  | underway => simp
  | shutDown htail => simp [htail.pingsIn_eq]
  | cutShort hposition hlive houtcome htail =>
      simpa [htail.pingsIn_eq] using hlive
  | aborted hposition hlive houtcome => simpa using hlive

/-- The entries with which a run is stopped: a last ping perhaps, and then
nothing or a farewell. -/
theorem Interrupted.split
    {position : Position} {live : Bool} {exit : Option RunExit}
    {tail : List Entry}
    (hstop : Interrupted origin position live exit tail) :
    ∃ after, tail = (pingsIn tail).map .pinged ++ after ∧
      (after = [] ∨ IsFarewell origin after) := by
  cases hstop with
  | underway => exact ⟨[], rfl, .inl rfl⟩
  | shutDown htail =>
      exact ⟨tail, by simp [htail.pingsIn_eq], .inr htail⟩
  | @cutShort ping after hposition hlive houtcome htail =>
      exact ⟨after, by simp [htail.pingsIn_eq], .inr htail⟩
  | aborted hposition hlive houtcome => exact ⟨[], rfl, .inl rfl⟩

theorem IsFarewell.eq_told
    {tail : List Entry} (htail : IsFarewell origin tail) {entry : Entry}
    (hmem : entry ∈ tail) :
    ∃ instant verdict, entry = .told instant .unregister verdict := by
  unfold IsFarewell at htail
  split at htail
  next => simp [htail] at hmem
  next =>
    obtain ⟨instant, verdict, rfl⟩ := htail
    exact ⟨instant, verdict, List.mem_singleton.mp hmem⟩

theorem Interrupted.callback_eq
    {position : Position} {live : Bool} {exit : Option RunExit}
    {tail : List Entry}
    (hstop : Interrupted origin position live exit tail) :
    ∀ callback ∈ callbacksIn tail, callback = .unregister := by
  obtain ⟨after, htail, hafter⟩ := hstop.split
  intro callback hmem
  rw [htail, callbacksIn_append, callbacksIn_map_pinged, List.nil_append]
    at hmem
  obtain ⟨entry, hentry, hcallback⟩ := List.mem_filterMap.mp hmem
  rcases hafter with rfl | hfarewell
  · exact nomatch hentry
  · obtain ⟨instant, verdict, rfl⟩ := hfarewell.eq_told hentry
    exact (Option.some.inj hcallback).symm

/-- How a run that stops in the middle of its work can end. -/
def IsBreak (exit : Option RunExit) : Prop :=
  exit = none ∨ exit = some .shutdown ∨ ∃ abort, exit = some (.aborted abort)

theorem Interrupted.isBreak
    {position : Position} {live : Bool} {exit : Option RunExit}
    {tail : List Entry}
    (hstop : Interrupted origin position live exit tail) :
    IsBreak exit := by
  cases hstop with
  | underway => exact .inl rfl
  | shutDown htail => exact .inr (.inl rfl)
  | cutShort hposition hlive houtcome htail => exact .inr (.inl rfl)
  | aborted hposition hlive houtcome => exact .inr (.inr ⟨_, rfl⟩)

theorem Interrupted.last_ping
    {position : Position} {live : Bool} {exit : Option RunExit}
    {tail : List Entry}
    (hstop : Interrupted origin position live exit tail) :
    pingsIn tail = [] ∨
      ∃ ping, pingsIn tail = [ping] ∧ ping.position = position ∧
        ping.live = live ∧ ping.succeeded = false ∧ exit ≠ none := by
  cases hstop with
  | underway => exact .inl rfl
  | shutDown htail => exact .inl htail.pingsIn_eq
  | cutShort hposition hlive houtcome htail =>
      refine .inr ⟨_, ?_, hposition, hlive, ?_, by simp⟩
      · rw [pingsIn_pinged_cons, htail.pingsIn_eq]
      · simp [Ping.succeeded, Ping.status?, houtcome]
  | aborted hposition hlive houtcome =>
      refine .inr ⟨_, rfl, hposition, hlive, ?_, by simp⟩
      simp [Ping.succeeded, Ping.status?, houtcome]

/-- A pass that is not closed has a ping less than there are primaries, or the
run ended in a ping of it that did not succeed. -/
theorem LiveTail.last_ping
    {passes : List LivePass} {current : List Block} {exit : Option RunExit}
    {tail : List Entry}
    (htail : LiveTail monitor origin passes current exit tail)
    (hexit : exit ≠ some .cycleCompleted) :
    (pingsIn tail = [] ∧
        (current = [] ∨ current.length < monitor.primaries.length)) ∨
      ∃ ping, pingsIn tail = [ping] ∧
        ping.position = .primary current.length ∧ ping.live = true ∧
          ping.succeeded = false ∧ exit ≠ none := by
  cases htail with
  | stopped hroom hstop => exact hstop.last_ping.imp_left (⟨·, hroom⟩)
  | failed hposition hlive houtcome hsuccess =>
      refine .inr ⟨_, rfl, hposition, hlive, ?_, by simp⟩
      rw [Ping.succeeded_of_completed houtcome, hsuccess]
  | hung hposition hlive houtcome =>
      exact .inr ⟨_, rfl, hposition, hlive,
        Ping.succeeded_of_timedOut houtcome, by simp⟩
  | completed hfull hclean hbefore => exact absurd rfl hexit

theorem LiveTail.live_pings
    {passes : List LivePass} {current : List Block} {exit : Option RunExit}
    {tail : List Entry}
    (htail : LiveTail monitor origin passes current exit tail) :
    ∀ ping ∈ pingsIn tail,
      ping.live = true ∧ ∃ index, ping.position = .primary index := by
  cases htail with
  | stopped hroom hstop =>
      intro ping hmem
      exact ⟨hstop.live_eq ping hmem, hstop.exists_index ping hmem⟩
  | failed hposition hlive houtcome hsuccess => simp [hposition, hlive]
  | hung hposition hlive houtcome => simp [hposition, hlive]
  | completed hfull hclean hbefore => simp

theorem LiveTail.silent
    {passes : List LivePass} {current : List Block} {exit : Option RunExit}
    {tail : List Entry}
    (htail : LiveTail monitor origin passes current exit tail) :
    Silent tail := by
  cases htail with
  | stopped hroom hstop => exact hstop.silent
  | failed hposition hlive houtcome hsuccess =>
      simp [Silent, Entry.isSilent]
  | hung hposition hlive houtcome => simp [Silent, Entry.isSilent]
  | completed hfull hclean hbefore => exact silent_told _ _ _

/-- A live phase ends with callbacks of live or with a farewell. -/
theorem LiveTail.callbacks
    {passes : List LivePass} {current : List Block} {exit : Option RunExit}
    {tail : List Entry}
    (htail : LiveTail monitor origin passes current exit tail) :
    ∀ callback ∈ callbacksIn tail,
      callback = .unregister ∨ callback.isLive = true := by
  cases htail with
  | stopped hroom hstop =>
      intro callback hmem
      exact .inl (hstop.callback_eq callback hmem)
  | failed hposition hlive houtcome hsuccess => simp [Callback.isLive]
  | hung hposition hlive houtcome => simp [Callback.isLive]
  | completed hfull hclean hbefore => simp [Callback.isLive]

end Contents

end HealthMonitor
