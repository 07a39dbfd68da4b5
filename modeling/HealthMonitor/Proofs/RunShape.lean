import HealthMonitor.Proofs.Origins

/-!
# The shape of a run

The callbacks of a run form a word: one change of phase after the other, the
statuses of the boot, and then the callbacks of live.  Only the end of the run
cuts the word short.  The reporter is told of an unregistration at the very
end, and only when the run was shut down.
-/

namespace HealthMonitor

variable {σ : Type}

/-- What is told in a phase before live, after the change to that phase, when
the run ends there. -/
inductive CutShort (phase : Phase) : Option RunExit → List Callback → Prop
  | underway : CutShort phase none []
  | timedOut {probe : String} {elapsed instant : Nat} {last : Option Status} :
      CutShort phase (some (.bootstrapTimedOut phase probe elapsed last))
        [.timedOut phase probe last instant]
  | shutDown : CutShort phase (some .shutdown) [.unregister]
  | aborted {abort : Abort} : CutShort phase (some (.aborted abort)) []

/-- What is told in a live phase, up to the end that it has. -/
inductive LiveWord : Option RunExit → List Callback → Prop
  | underway {body : List Callback}
      (hbody : ∀ callback ∈ body, callback.isLive = true) : LiveWord none body
  | shutDown {body : List Callback}
      (hbody : ∀ callback ∈ body, callback.isLive = true) :
      LiveWord (some .shutdown) (body ++ [.unregister])
  | aborted {body : List Callback} {abort : Abort}
      (hbody : ∀ callback ∈ body, callback.isLive = true) :
      LiveWord (some (.aborted abort)) body
  | failed {body : List Callback} {status : Status}
      (hbody : ∀ callback ∈ body, callback.isLive = true) :
      LiveWord (some (.probeFailed status)) (body ++ [.failure status])
  | hung {body : List Callback} {probe : String} {last : Option Status}
      {instant : Nat} (hbody : ∀ callback ∈ body, callback.isLive = true) :
      LiveWord (some (.probeTimedOut .live probe last))
        (body ++ [.timedOut .live probe last instant])
  | completed {body : List Callback}
      (hbody : ∀ callback ∈ body, callback.isLive = true) :
      LiveWord (some .cycleCompleted) (body ++ [.cycle])

/-- The statuses with which a monitor comes up: one for each primary, in order,
each the success that a ping of that primary before live came in with. -/
structure BootedBy
    (monitor : Monitor σ) (pings : List Ping) (booted : List Status) :
    Prop where
  length : booted.length = monitor.primaries.length
  source : ∀ index status, booted[index]? = some status →
    status.success = true ∧ status.phase = some .bootstrap ∧
      ∃ ping ∈ pings, ping.position = .primary index ∧ ping.live = false ∧
        ∃ found, ping.outcome = some (.completed found) ∧
          status = found.inPhase .bootstrap

/-- The words that a run with some pings can tell, with the exit it has. -/
inductive RunWord (monitor : Monitor σ) (pings : List Ping) :
    Option RunExit → List Callback → Prop
  | waiting {exit : Option RunExit} {tail : List Callback}
      (hdependencies : monitor.dependencies ≠ [])
      (hcut : CutShort .dependencyWait exit tail) :
      RunWord monitor pings exit (.phase .dependencyWait :: tail)
  | booting {exit : Option RunExit} {tail : List Callback}
      (hcut : CutShort .bootstrap exit tail) :
      RunWord monitor pings exit
        (monitor.waitWord ++ .phase .bootstrap :: tail)
  | living {exit : Option RunExit} {booted : List Status}
      {word : List Callback} (hbooted : BootedBy monitor pings booted)
      (hlive : LiveWord exit word) :
      RunWord monitor pings exit
        (monitor.waitWord ++ .phase .bootstrap ::
          (booted.map .booted ++ .phase .live :: word))

/-- The callbacks of a run form a word of the monitor; without dependencies
there is no wait in it, and a shutdown alone unregisters, at the end. -/
structure RunShape
    (monitor : Monitor σ) (pings : List Ping) (exit : Option RunExit)
    (callbacks : List Callback) : Prop where
  word : RunWord monitor pings exit callbacks
  noWait : monitor.dependencies = [] →
    .phase .dependencyWait ∉ callbacks
  unregister_mem_iff : .unregister ∈ callbacks ↔ exit = some .shutdown
  unregister_last : ∀ before after,
    callbacks = before ++ .unregister :: after → after = []

section Words

variable {monitor : Monitor σ} {world : World} {origin : State σ}
  {entries : List Entry}

theorem Interrupted.cutShort_word
    (hopen : origin.closed = false) {position : Position} {live : Bool}
    {exit : Option RunExit} {tail : List Entry}
    (hstop : Interrupted origin position live exit tail) (phase : Phase) :
    CutShort phase exit (callbacksIn tail) := by
  cases hstop with
  | underway => exact .underway
  | shutDown htail =>
      rw [htail.callbacksIn_eq hopen]
      exact .shutDown
  | cutShort hposition hlive houtcome htail =>
      rw [callbacksIn_pinged_cons, htail.callbacksIn_eq hopen]
      exact .shutDown
  | aborted hposition hlive houtcome => exact .aborted

theorem Interrupted.liveWord
    (hopen : origin.closed = false) {position : Position} {live : Bool}
    {exit : Option RunExit} {tail : List Entry}
    (hstop : Interrupted origin position live exit tail)
    {body : List Callback} (hbody : ∀ callback ∈ body, callback.isLive = true) :
    LiveWord exit (body ++ callbacksIn tail) := by
  cases hstop with
  | underway => simpa using LiveWord.underway hbody
  | shutDown htail =>
      rw [htail.callbacksIn_eq hopen]
      exact .shutDown hbody
  | cutShort hposition hlive houtcome htail =>
      rw [callbacksIn_pinged_cons, htail.callbacksIn_eq hopen]
      exact .shutDown hbody
  | aborted hposition hlive houtcome => simpa using LiveWord.aborted hbody

/-- A clean pass over all primaries gives the statuses to come up with. -/
theorem Sweep.bootedBy
    {pass pings : List Ping} (hsweep : Sweep .primary false pass)
    (hfull : pass.length = monitor.primaries.length)
    (hclean : ∀ ping ∈ pass, ping.succeeded = true)
    (hsubset : ∀ ping ∈ pass, ping ∈ pings) :
    BootedBy monitor pings (statusesIn .bootstrap pass) := by
  have hmap := statusesIn_eq_map hclean .bootstrap
  constructor
  · rw [← hfull]
    simpa using congrArg List.length hmap
  · intro index status hstatus
    have hindex := congrArg (·[index]?) hmap
    simp only [List.getElem?_map, hstatus, Option.map_some] at hindex
    cases hping : pass[index]? with
    | none => simp [hping] at hindex
    | some ping =>
        have hmem := List.mem_of_getElem? hping
        obtain ⟨found, houtcome, hsuccess⟩ :=
          Ping.exists_status_of_succeeded (hclean ping hmem)
        simp only [hping, Option.map_some,
          Ping.status?_of_completed houtcome, Option.some.injEq] at hindex
        subst hindex
        exact ⟨hsuccess, rfl, ping, hsubset ping hmem,
          hsweep.position_getElem? hping, hsweep.live ping hmem, found,
          houtcome, rfl⟩

theorem BootedLog.bootedBy
    {boot : List Entry} {pass : List Ping}
    (hbooted : BootedLog monitor world origin boot pass entries)
    {pings : List Ping} (hsubset : ∀ ping ∈ pingsIn entries, ping ∈ pings) :
    BootedBy monitor pings (statusesIn .bootstrap pass) := by
  obtain ⟨wait, passes, hlog⟩ := hbooted.bootstrap
  apply hlog.sweep.bootedBy hbooted.full
    (downBlocker_eq_none_iff.mp hbooted.clean)
  intro ping hmem
  apply hsubset
  simp [hbooted.pingsIn_eq, hlog.pingsIn_eq, hmem]

theorem LiveTail.liveWord
    (hopen : origin.closed = false) {passes : List LivePass}
    {current : List Block} {exit : Option RunExit} {tail : List Entry}
    (htail : LiveTail monitor origin passes current exit tail)
    {body : List Callback} (hbody : ∀ callback ∈ body, callback.isLive = true) :
    LiveWord exit (body ++ callbacksIn tail) := by
  cases htail with
  | stopped hroom hstop => exact hstop.liveWord hopen hbody
  | @failed ping status instant verdict hposition hlive houtcome hsuccess =>
      have hgrown : ∀ callback ∈
          body ++ [.result .live (status.inPhase .live)],
          callback.isLive = true :=
        forall_mem_concat hbody rfl
      have hword :
          LiveWord (some (.probeFailed (status.inPhase .live)))
            (body ++ [.result .live (status.inPhase .live)] ++
              [.failure (status.inPhase .live)]) :=
        .failed hgrown
      simpa using hword
  | hung hposition hlive houtcome => exact .hung hbody
  | completed hfull hclean hbefore => exact .completed hbody

/-- A live phase tells a word of the run, whatever it ends with. -/
theorem LiveTail.runWord
    (hopen : origin.closed = false) {boot : List Entry}
    {passes : List LivePass} {current : List Block}
    (hlog : LiveLog monitor world origin boot passes current entries)
    {exit : Option RunExit} {tail : List Entry}
    (htail : LiveTail monitor origin passes current exit tail) :
    RunWord monitor (pingsIn (entries ++ tail)) exit
      (callbacksIn (entries ++ tail)) := by
  obtain ⟨before, pass, hbooted⟩ := hlog.booted
  obtain ⟨instant, verdict, hwritten⟩ := hlog.written
  have hsource :
      BootedBy monitor (pingsIn (entries ++ tail))
        (statusesIn .bootstrap pass) := by
    apply hbooted.bootedBy
    intro ping hmem
    rw [hwritten, pingsIn_append, pingsIn_append]
    exact List.mem_append_left _ (List.mem_append_left _ hmem)
  have hword :=
    RunWord.living hsource (htail.liveWord hopen hlog.live_callbacks)
  rw [callbacksIn_append, hwritten, callbacksIn_append, hbooted.callbacksIn_eq]
  rw [hwritten] at hword
  simpa using hword

theorem RunLog.runWord
    {exit : Option RunExit} (hlog : RunLog monitor world origin exit entries)
    (hopen : origin.closed = false) :
    RunWord monitor (pingsIn entries) exit (callbacksIn entries) := by
  cases hlog with
  | waiting hlog hroom hstop =>
      rw [callbacksIn_append, hlog.callbacksIn_eq]
      exact .waiting hlog.nonempty (hstop.cutShort_word hopen _)
  | waitTimedOut hlog hfull hblocked =>
      rw [callbacksIn_append, hlog.callbacksIn_eq]
      exact .waiting hlog.nonempty .timedOut
  | booting hlog hroom hstop =>
      rw [callbacksIn_append, hlog.callbacksIn_eq, List.append_assoc]
      exact .booting (hstop.cutShort_word hopen _)
  | bootTimedOut hlog hfull hblocked =>
      rw [callbacksIn_append, hlog.callbacksIn_eq, List.append_assoc]
      exact .booting .timedOut
  | living hlog htail => exact htail.runWord hopen hlog

end Words

/-! ## Unregistration -/

/-- A shutdown alone unregisters, at the end. -/
def EndsWithFarewell
    (exit : Option RunExit) (callbacks : List Callback) : Prop :=
  (exit ≠ some .shutdown ∧ .unregister ∉ callbacks) ∨
    ∃ front, exit = some .shutdown ∧ callbacks = front ++ [.unregister] ∧
      .unregister ∉ front

theorem EndsWithFarewell.prepend
    {exit : Option RunExit} {callbacks : List Callback}
    (hend : EndsWithFarewell exit callbacks) {front : List Callback}
    (hfront : .unregister ∉ front) :
    EndsWithFarewell exit (front ++ callbacks) := by
  rcases hend with ⟨hexit, hnone⟩ | ⟨middle, hexit, rfl, hmiddle⟩
  · exact .inl ⟨hexit, by simp [hfront, hnone]⟩
  · exact .inr ⟨front ++ middle, hexit, by simp, by simp [hfront, hmiddle]⟩

theorem EndsWithFarewell.mem_iff
    {exit : Option RunExit} {callbacks : List Callback}
    (hend : EndsWithFarewell exit callbacks) :
    .unregister ∈ callbacks ↔ exit = some .shutdown := by
  rcases hend with ⟨hexit, hnone⟩ | ⟨front, hexit, rfl, -⟩
  · simp [hexit, hnone]
  · simp [hexit]

theorem EndsWithFarewell.eq_nil_of_eq
    {exit : Option RunExit} {callbacks before after : List Callback}
    (hend : EndsWithFarewell exit callbacks)
    (hsplit : callbacks = before ++ .unregister :: after) :
    after = [] := by
  rcases hend with ⟨-, hnone⟩ | ⟨front, -, rfl, hfront⟩
  · simp [hsplit] at hnone
  · rcases concat_split hsplit with ⟨hnil, -⟩ | ⟨rest, -, rfl⟩
    · exact hnil
    · simp at hfront

theorem CutShort.endsWithFarewell
    {phase : Phase} {exit : Option RunExit} {tail : List Callback}
    (hcut : CutShort phase exit tail) :
    EndsWithFarewell exit tail := by
  cases hcut with
  | underway => exact .inl (by simp)
  | timedOut => exact .inl (by simp)
  | shutDown => exact .inr ⟨[], by simp⟩
  | aborted => exact .inl (by simp)

theorem not_mem_of_isLive
    {body : List Callback}
    (hbody : ∀ callback ∈ body, callback.isLive = true) (callback : Callback)
    (hother : callback.isLive = false) :
    callback ∉ body := by
  intro hmem
  rw [hbody callback hmem] at hother
  contradiction

theorem LiveWord.endsWithFarewell
    {exit : Option RunExit} {word : List Callback}
    (hword : LiveWord exit word) :
    EndsWithFarewell exit word := by
  cases hword with
  | underway hbody =>
      exact .inl ⟨by simp, not_mem_of_isLive hbody .unregister rfl⟩
  | shutDown hbody =>
      exact .inr ⟨_, rfl, rfl, not_mem_of_isLive hbody .unregister rfl⟩
  | aborted hbody =>
      exact .inl ⟨by simp, not_mem_of_isLive hbody .unregister rfl⟩
  | failed hbody =>
      exact .inl ⟨by simp, by simp [not_mem_of_isLive hbody .unregister rfl]⟩
  | hung hbody =>
      exact .inl ⟨by simp, by simp [not_mem_of_isLive hbody .unregister rfl]⟩
  | completed hbody =>
      exact .inl ⟨by simp, by simp [not_mem_of_isLive hbody .unregister rfl]⟩

theorem LiveWord.callbacks
    {exit : Option RunExit} {word : List Callback}
    (hword : LiveWord exit word) :
    ∀ callback ∈ word, callback = .unregister ∨ callback.isLive = true := by
  have hlive : ∀ {body : List Callback},
      (∀ callback ∈ body, callback.isLive = true) →
        ∀ callback ∈ body,
          callback = .unregister ∨ callback.isLive = true := by
    intro body hbody callback hmem
    exact .inr (hbody callback hmem)
  cases hword with
  | underway hbody => exact hlive hbody
  | shutDown hbody => exact forall_mem_concat (hlive hbody) (.inl rfl)
  | aborted hbody => exact hlive hbody
  | failed hbody => exact forall_mem_concat (hlive hbody) (.inr rfl)
  | hung hbody => exact forall_mem_concat (hlive hbody) (.inr rfl)
  | completed hbody => exact forall_mem_concat (hlive hbody) (.inr rfl)

theorem unregister_not_mem_waitWord (monitor : Monitor σ) :
    .unregister ∉ monitor.waitWord := by
  unfold Monitor.waitWord
  split
  next => simp
  next => simp

theorem RunWord.endsWithFarewell
    {monitor : Monitor σ} {pings : List Ping} {exit : Option RunExit}
    {callbacks : List Callback}
    (hword : RunWord monitor pings exit callbacks) :
    EndsWithFarewell exit callbacks := by
  have hwait := unregister_not_mem_waitWord monitor
  cases hword with
  | waiting hdependencies hcut =>
      have hfront : .unregister ∉ [Callback.phase .dependencyWait] := by simp
      exact hcut.endsWithFarewell.prepend hfront
  | booting hcut =>
      have hfront : .unregister ∉ monitor.waitWord ++ [.phase .bootstrap] := by
        simp [hwait]
      have hend := hcut.endsWithFarewell.prepend hfront
      simpa using hend
  | @living booted word hbooted hlive =>
      have hfront : .unregister ∉
          monitor.waitWord ++ .phase .bootstrap ::
            (booted.map .booted ++ [.phase .live]) := by
        simp [hwait]
      have hend := hlive.endsWithFarewell.prepend hfront
      simpa using hend

theorem RunWord.no_wait
    {monitor : Monitor σ} {pings : List Ping} {exit : Option RunExit}
    {callbacks : List Callback}
    (hword : RunWord monitor pings exit callbacks)
    (hempty : monitor.dependencies = []) :
    .phase .dependencyWait ∉ callbacks := by
  cases hword with
  | waiting hdependencies hcut => exact absurd hempty hdependencies
  | booting hcut =>
      cases hcut with
      | underway => simp [Monitor.waitWord, hempty]
      | timedOut => simp [Monitor.waitWord, hempty]
      | shutDown => simp [Monitor.waitWord, hempty]
      | aborted => simp [Monitor.waitWord, hempty]
  | @living booted word hbooted hlive =>
      have hword : .phase .dependencyWait ∉ word := by
        intro hmem
        rcases hlive.callbacks _ hmem with heq | hisLive
        · contradiction
        · contradiction
      simp [Monitor.waitWord, hempty, hword]

/-- Whatever the probes, the reporter and the shutdown do, the run of a fresh
monitor tells a word of the monitor. -/
theorem fresh_run_shape
    {monitor : Monitor σ} {world : World} {stop : Option Nat} {fuel : Nat}
    {origin final : State σ} {exit : Option RunExit}
    (hfresh : monitor.Fresh origin)
    (hrun : monitor.run world stop fuel origin = (.ok exit, final)) :
    RunShape monitor (pingsIn (final.since origin)) exit
      (callbacksIn (final.since origin)) := by
  have hword := (run_log hrun).2.runWord hfresh.closed
  exact
    { word := hword
      noWait := hword.no_wait
      unregister_mem_iff := hword.endsWithFarewell.mem_iff
      unregister_last := fun _ _ hsplit =>
        hword.endsWithFarewell.eq_nil_of_eq hsplit }

theorem fresh_run_shape_sample :
    RunShape Sample.monitor (pingsIn (Sample.final.since Sample.started))
      (some .shutdown)
      (callbacksIn (Sample.final.since Sample.started)) :=
  fresh_run_shape Sample.fresh Sample.run_eq

end HealthMonitor
