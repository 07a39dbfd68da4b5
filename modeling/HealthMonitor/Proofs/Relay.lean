import HealthMonitor.Proofs.Strides

/-!
# What the reporter hears

A run changes its reporter only by telling it things, and what the reporter is
told is written down.  So the state of the reporter and each of its verdicts can
be read off the callbacks before, whatever the reporter is.  On the way a run
neither starts a monitor nor prepares a probe, and it says farewell at most
once.  The main statement is `run_relays`.
-/

namespace HealthMonitor

variable {σ : Type}

namespace Reporter

/-- The state of a reporter that was told `history`. -/
def hear (reporter : Reporter σ) (state : σ) (history : List Callback) : σ :=
  history.foldl (fun state callback => (reporter.react state callback).2) state

/-- What a reporter that was told `history` says to one more callback. -/
def verdictAfter
    (reporter : Reporter σ) (state : σ) (history : List Callback)
    (callback : Callback) : Verdict :=
  (reporter.react (reporter.hear state history) callback).1

theorem hear_append
    (reporter : Reporter σ) (state : σ) (history more : List Callback) :
    reporter.hear state (history ++ more) =
      reporter.hear (reporter.hear state history) more :=
  List.foldl_append

theorem verdictAfter_append
    (reporter : Reporter σ) (state : σ) (history more : List Callback)
    (callback : Callback) :
    reporter.verdictAfter state (history ++ more) callback =
      reporter.verdictAfter (reporter.hear state history) more callback := by
  rw [verdictAfter, hear_append]
  rfl

end Reporter

def Callback.isStart : Callback → Bool
  | start .. => true
  | _ => false

/-- Whether an entry is of a kind that runs write. -/
def Entry.isOfRun : Entry → Bool
  | told _ callback _ => !callback.isStart
  | prepared _ => false
  | _ => true

/-- How often the reporter was told of an unregistration. -/
def farewellsIn (entries : List Entry) : Nat :=
  (callbacksIn entries).count .unregister

theorem farewellsIn_append (entries more : List Entry) :
    farewellsIn (entries ++ more) = farewellsIn entries + farewellsIn more := by
  rw [farewellsIn, callbacksIn_append, List.count_append]
  rfl

/-- From `state` to `other` a run wrote `entries`, and its reporter heard of
them what they tell. -/
structure Relays
    (monitor : Monitor σ) (state other : State σ) (entries : List Entry) :
    Prop where
  transcript : other.transcript = entries.reverse ++ state.transcript
  reporter : other.reporter =
    monitor.reporter.hear state.reporter (callbacksIn entries)
  verdict : ∀ before instant callback verdict after,
    entries = before ++ .told instant callback verdict :: after →
      verdict =
        monitor.reporter.verdictAfter state.reporter (callbacksIn before)
          callback
  ofRun : ∀ entry ∈ entries, entry.isOfRun = true
  started : other.started = state.started
  farewells : farewellsIn entries + state.closed.toNat = other.closed.toNat

/-- From `state` to `other` a run wrote something that its reporter heard. -/
def Relayed (monitor : Monitor σ) (state other : State σ) : Prop :=
  ∃ entries, Relays monitor state other entries

/-! ## Small changes -/

section Changes

variable {monitor : Monitor σ} {state middle other : State σ}
  {entries more : List Entry}

theorem Relays.refl : Relays monitor state state [] where
  transcript := rfl
  reporter := rfl
  verdict := by simp
  ofRun := List.forall_mem_nil _
  started := rfl
  farewells := Nat.zero_add _

theorem Relays.trans
    (hrelays : Relays monitor state middle entries)
    (hmore : Relays monitor middle other more) :
    Relays monitor state other (entries ++ more) where
  transcript := by simp [hmore.transcript, hrelays.transcript]
  reporter := by
    rw [callbacksIn_append, Reporter.hear_append, ← hrelays.reporter,
      hmore.reporter]
  verdict := by
    intro before instant callback verdict after hsplit
    rcases append_split hsplit with ⟨rest, -, hfirst⟩ | ⟨front, rfl, hsecond⟩
    · exact hrelays.verdict before instant callback verdict rest hfirst
    · rw [callbacksIn_append, Reporter.verdictAfter_append, ← hrelays.reporter]
      exact hmore.verdict front instant callback verdict after hsecond
  ofRun := List.forall_mem_append.mpr ⟨hrelays.ofRun, hmore.ofRun⟩
  started := hmore.started.trans hrelays.started
  farewells := by
    rw [farewellsIn_append, ← hmore.farewells, ← hrelays.farewells]
    omega

/-- One callback, of which the reporter makes what it makes of it. -/
theorem relays_told
    {instant : Nat} {callback : Callback} {verdict : Verdict}
    (htranscript :
      other.transcript = .told instant callback verdict :: state.transcript)
    (hreact :
      monitor.reporter.react state.reporter callback =
        (verdict, other.reporter))
    (hstart : callback.isStart = false)
    (hstarted : other.started = state.started)
    (hfarewells :
      [callback].count .unregister + state.closed.toNat =
        other.closed.toNat) :
    Relays monitor state other [.told instant callback verdict] where
  transcript := htranscript
  reporter := (congrArg Prod.snd hreact).symm
  verdict := by
    intro before instant other verdict after hsplit
    rw [← List.nil_append [_]] at hsplit
    rcases concat_split hsplit with ⟨-, rfl, htold⟩ | ⟨rest, -, hnone⟩
    · obtain ⟨-, rfl, rfl⟩ := Entry.told.inj htold
      exact (congrArg Prod.fst hreact).symm
    · simp at hnone
  ofRun := by simp [Entry.isOfRun, hstart]
  started := hstarted
  farewells := hfarewells

theorem relays_tell
    (monitor : Monitor σ) (state : State σ) {callback : Callback}
    (hstart : callback.isStart = false) (hcallback : callback ≠ .unregister) :
    Relays monitor state (state.tell monitor callback)
      [.told state.now.instant callback (state.verdict monitor callback)] := by
  refine relays_told rfl rfl hstart rfl ?_
  rw [List.count_singleton, if_neg (by simpa using hcallback), Nat.zero_add]
  rfl

namespace Relayed

theorem refl : Relayed monitor state state :=
  ⟨[], .refl⟩

theorem trans
    (hrelayed : Relayed monitor state middle)
    (hmore : Relayed monitor middle other) :
    Relayed monitor state other := by
  obtain ⟨entries, hrelayed⟩ := hrelayed
  obtain ⟨more, hmore⟩ := hmore
  exact ⟨entries ++ more, hrelayed.trans hmore⟩

/-- The reporter has no part in what a run remembers and in its clock. -/
theorem congr
    (hrelayed : Relayed monitor state middle)
    (htranscript : other.transcript = middle.transcript)
    (hreporter : other.reporter = middle.reporter)
    (hstarted : other.started = middle.started)
    (hclosed : other.closed = middle.closed) :
    Relayed monitor state other := by
  obtain ⟨entries, hrelayed⟩ := hrelayed
  exact ⟨entries,
    { transcript := htranscript.trans hrelayed.transcript
      reporter := hreporter.trans hrelayed.reporter
      verdict := hrelayed.verdict
      ofRun := hrelayed.ofRun
      started := hstarted.trans hrelayed.started
      farewells := by rw [hrelayed.farewells, hclosed] }⟩

theorem tell
    (hrelayed : Relayed monitor state middle) (callback : Callback)
    (hstart : callback.isStart = false) (hcallback : callback ≠ .unregister) :
    Relayed monitor state (middle.tell monitor callback) :=
  hrelayed.trans ⟨_, relays_tell monitor middle hstart hcallback⟩

theorem note
    (hrelayed : Relayed monitor state middle) {entry : Entry}
    (hrun : entry.isOfRun = true) (hcallback : entry.callback? = none) :
    Relayed monitor state (middle.note entry) := by
  have hquiet : callbacksIn [entry] = [] := by
    simp [callbacksIn, hcallback]
  refine hrelayed.trans ⟨[entry],
    { transcript := rfl
      reporter := by rw [hquiet]; rfl
      verdict := ?_
      ofRun := List.forall_mem_singleton.mpr hrun
      started := rfl
      farewells := by
        rw [farewellsIn, hquiet]
        exact Nat.zero_add _ }⟩
  intro before instant callback verdict after hsplit
  have hmem : .told instant callback verdict ∈ [entry] := by
    rw [hsplit]
    simp
  obtain rfl := List.mem_singleton.mp hmem
  exact absurd hcallback (Option.some_ne_none callback)

theorem modifySlot
    (hrelayed : Relayed monitor state middle) (position : Position)
    (change : Slot → Slot) :
    Relayed monitor state (middle.modifySlot position change) := by
  cases position with
  | dependency index => exact hrelayed.congr rfl rfl rfl rfl
  | primary index => exact hrelayed.congr rfl rfl rfl rfl

/-- What the reporter says decides only which way a run goes on. -/
theorem ite
    {condition : Prop} [Decidable condition] {stopped next : Run σ}
    (hstopped : Relayed monitor state stopped.state)
    (hnext : Relayed monitor state next.state) :
    Relayed monitor state (if condition then stopped else next).state := by
  by_cases hcondition : condition
  · rwa [if_pos hcondition]
  · rwa [if_neg hcondition]

theorem foldl
    {α : Type} (hrelayed : Relayed monitor state middle)
    (change : State σ → α → State σ)
    (hchange : ∀ (state : State σ) (item : α),
      Relayed monitor state (change state item))
    (items : List α) :
    Relayed monitor state (items.foldl change middle) := by
  induction items generalizing middle with
  | nil => exact hrelayed
  | cons item items ih => exact ih (hrelayed.trans (hchange middle item))

theorem close (hrelayed : Relayed monitor state middle) :
    Relayed monitor state (middle.close monitor) := by
  unfold State.close
  split
  next => exact hrelayed
  next hopen =>
    have hopen : middle.closed = false := by simpa using hopen
    refine hrelayed.trans ⟨_, relays_told rfl rfl rfl rfl ?_⟩
    rw [hopen]
    rfl

end Relayed

end Changes

/-! ## The schedule -/

section Schedule

variable (monitor : Monitor σ) (state : State σ)

theorem relayed_enter (phase : Phase) :
    Relayed monitor state (Run.enter monitor state phase) := by
  have hmarked : Relayed monitor state
      { state with phase, phaseEntered := state.now.instant } :=
    Relayed.refl.congr rfl rfl rfl rfl
  exact hmarked.tell _ rfl nofun

theorem relayed_blocked (blocker : Position) :
    Relayed monitor state (Run.blocked monitor state blocker).state := by
  unfold Run.blocked
  cases monitor.timing.bootstrapLimit with
  | none => exact .refl
  | some limit =>
      simp only
      split
      next => exact .refl
      next => exact Relayed.refl.tell _ rfl nofun

theorem relayed_endLive (clean : Bool) :
    Relayed monitor state (Run.endLive monitor state clean).state := by
  have hmarked : Relayed monitor state { state with cleanBefore := clean } :=
    Relayed.refl.congr rfl rfl rfl rfl
  have htold := hmarked.tell .cycle rfl nofun
  unfold Run.endLive
  exact Relayed.ite (Relayed.ite htold htold) hmarked

theorem relayed_goOnLive (index : Nat) (clean : Bool) :
    Relayed monitor state (Run.goOnLive monitor state index clean).state := by
  unfold Run.goOnLive
  split
  next => exact .refl
  next => exact relayed_endLive monitor state clean

theorem relayed_endBootstrap (seen : List Status) :
    Relayed monitor state (Run.endBootstrap monitor state seen).state := by
  unfold Run.endBootstrap Run.enterLive
  have hended : Relayed monitor state
      (monitor.primaryPositions.foldl
        (fun state position => state.note (.endedBootstrap position)) state) :=
    Relayed.refl.foldl _ (fun _ _ => Relayed.refl.note rfl rfl) _
  have htold := hended.foldl
    (fun state status => state.tell monitor (.booted status))
    (fun _ _ => Relayed.refl.tell _ rfl nofun) seen
  exact (htold.trans (relayed_enter monitor _ .live)).trans
    (relayed_goOnLive monitor _ 0 true)

theorem relayed_goOnBootstrap
    (index : Nat) (blocker : Option Nat) (seen : List Status) :
    Relayed monitor state
      (Run.goOnBootstrap monitor state index blocker seen).state := by
  unfold Run.goOnBootstrap
  split
  next => exact .refl
  next =>
    cases blocker with
    | none => exact relayed_endBootstrap monitor state seen
    | some blocker => exact relayed_blocked monitor state (.primary blocker)

theorem relayed_enterBootstrap :
    Relayed monitor state (Run.enterBootstrap monitor state).state := by
  unfold Run.enterBootstrap
  have hbegan := (relayed_enter monitor state .bootstrap).foldl
    (fun state position => state.note (.beganBootstrap position))
    (fun _ _ => Relayed.refl.note rfl rfl) monitor.primaryPositions
  exact hbegan.trans (relayed_goOnBootstrap monitor _ 0 none [])

theorem relayed_goOnDependencies (index : Nat) (blocker : Option Nat) :
    Relayed monitor state
      (Run.goOnDependencies monitor state index blocker).state := by
  unfold Run.goOnDependencies
  split
  next => exact .refl
  next =>
    cases blocker with
    | none => exact relayed_enterBootstrap monitor state
    | some blocker => exact relayed_blocked monitor state (.dependency blocker)

theorem relayed_begin :
    Relayed monitor state (Run.begin monitor state).state := by
  unfold Run.begin
  split
  next => exact relayed_enterBootstrap monitor state
  next =>
    exact (relayed_enter monitor state .dependencyWait).trans
      (relayed_goOnDependencies monitor _ 0 none)

theorem relayed_resume :
    Relayed monitor state (Run.resume monitor state).state := by
  unfold Run.resume
  split
  next => exact relayed_goOnDependencies monitor state 0 none
  next => exact relayed_goOnBootstrap monitor state 0 none []
  next => exact relayed_goOnLive monitor state 0 true

/-! ## Answers -/

theorem relayed_heartbeat :
    Relayed monitor state (Run.heartbeat monitor state) := by
  unfold Run.heartbeat
  simp only
  split
  next status hdue hlatest =>
    have htold :
        Relayed monitor state (state.tell monitor (.heartbeat status)) :=
      Relayed.refl.tell _ rfl nofun
    exact htold.congr rfl rfl rfl rfl
  next => exact .refl

theorem relayed_answerDependencies
    (index : Nat) (blocker : Option Nat) (probe : Probe) (safeMode : Bool)
    (outcome : PingOutcome) :
    Relayed monitor state
      (Run.answerDependencies monitor state index blocker probe safeMode
        outcome).state := by
  cases outcome with
  | completed status =>
      exact (Relayed.refl.modifySlot _ _).trans
        (relayed_goOnDependencies monitor _ (index + 1) _)
  | timedOut => exact relayed_goOnDependencies monitor state (index + 1) _
  | aborted abort => exact .refl

theorem relayed_answerBootstrap
    (index : Nat) (blocker : Option Nat) (seen : List Status)
    (outcome : PingOutcome) :
    Relayed monitor state
      (Run.answerBootstrap monitor state index blocker seen outcome).state := by
  cases outcome with
  | completed status =>
      exact (Relayed.refl.modifySlot _ _).trans
        (relayed_goOnBootstrap monitor _ (index + 1) _ _)
  | timedOut => exact relayed_goOnBootstrap monitor state (index + 1) _ _
  | aborted abort => exact .refl

variable {state}

theorem Relayed.reported
    {middle : State σ} (hrelayed : Relayed monitor state middle) (index : Nat)
    (clean : Bool) :
    Relayed monitor state
      (Run.goOnLive monitor (Run.heartbeat monitor middle) index clean).state :=
  (hrelayed.trans (relayed_heartbeat monitor middle)).trans
    (relayed_goOnLive monitor _ index clean)

variable (state)

theorem relayed_takeResult (index : Nat) (status : Status) :
    Relayed monitor state (Run.takeResult monitor state index status) := by
  have hlatest :
      Relayed monitor state
        { state.modifySlot (.primary index)
            (fun slot => { slot with last := some status }) with
          latest := some status } :=
    (Relayed.refl.modifySlot _ _).congr rfl rfl rfl rfl
  exact hlatest.tell _ rfl nofun

theorem relayed_answerLive
    (index : Nat) (clean : Bool) (probe : Probe) (outcome : PingOutcome) :
    Relayed monitor state
      (Run.answerLive monitor state index clean probe outcome).state := by
  cases outcome with
  | completed status =>
      have htaken :=
        relayed_takeResult monitor state index (status.inPhase state.phase)
      have hfailed := htaken.tell
        (.failure (status.inPhase state.phase)) rfl nofun
      exact Relayed.ite (htaken.reported monitor (index + 1) clean)
        (Relayed.ite hfailed (hfailed.reported monitor (index + 1) false))
  | timedOut =>
      have htold : Relayed monitor state
          (state.tell monitor (.timedOut state.phase probe.name
            (state.lastStatus (.primary index)) state.now.instant)) :=
        Relayed.refl.tell _ rfl nofun
      exact Relayed.ite htold (htold.reported monitor (index + 1) false)
  | aborted abort => exact .refl

theorem relayed_answer
    (pass : Pass) (probe : Probe) (safeMode : Bool) (outcome : PingOutcome) :
    Relayed monitor state
      (Run.answer monitor state pass probe safeMode outcome).state := by
  cases pass with
  | dependencies index blocker =>
      exact relayed_answerDependencies monitor state index blocker probe
        safeMode outcome
  | bootstrap index blocker seen =>
      exact relayed_answerBootstrap monitor state index blocker seen outcome
  | live index clean =>
      exact relayed_answerLive monitor state index clean probe outcome

end Schedule

/-! ## Runs -/

section Runs

variable (monitor : Monitor σ) (world : World) (stop : Option Nat)

theorem relayed_recordPing (state : State σ) (ping : Ping) :
    Relayed monitor state (Run.recordPing state ping) :=
  (Relayed.refl.note rfl rfl).modifySlot _ _

theorem relayed_stepPing (state : State σ) (pass : Pass) (probe : Probe) :
    Relayed monitor state
      (Run.stepPing monitor world stop state pass probe).state := by
  rw [Run.stepPing_eq]
  split
  next moment hstopped =>
    apply Relayed.close
    split
    next => exact Relayed.refl.congr rfl rfl rfl rfl
    next =>
      exact (relayed_recordPing monitor state _).congr rfl rfl rfl rfl
  next =>
    have hanswered :
        Relayed monitor state (Run.afterAnswer world state pass probe) :=
      (relayed_recordPing monitor state _).congr rfl rfl rfl rfl
    exact hanswered.trans (relayed_answer monitor _ pass probe _ _)

theorem relayed_stepPause (state : State σ) :
    Relayed monitor state (Run.stepPause monitor stop state).state := by
  rw [Run.stepPause_eq]
  have hmoved : ∀ moment, Relayed monitor state (state.moveTo moment) :=
    fun moment => Relayed.refl.congr rfl rfl rfl rfl
  split
  next moment hstopped => exact (hmoved moment).close
  next => exact (hmoved _).trans (relayed_resume monitor _)

theorem relayed_step (run : Run σ) :
    Relayed monitor run.state (Run.step monitor world stop run).state := by
  unfold Run.step
  split
  next => exact .refl
  next => exact relayed_stepPause monitor stop run.state
  next pass hcontrol =>
    split
    next probe hprobe =>
      exact relayed_stepPing monitor world stop run.state pass probe
    next => exact .refl

theorem relayed_play (fuel : Nat) (run : Run σ) :
    Relayed monitor run.state (Run.play monitor world stop fuel run).state := by
  induction fuel generalizing run with
  | zero => exact .refl
  | succ fuel ih =>
      rw [Run.play_succ]
      exact (relayed_step monitor world stop run).trans (ih _)

end Runs

/-- A run tells its reporter what it writes down, and nothing else. -/
theorem run_relays
    {monitor : Monitor σ} {world : World} {stop : Option Nat} {fuel : Nat}
    {origin final : State σ} {exit : Option RunExit}
    (hrun : monitor.run world stop fuel origin = (.ok exit, final)) :
    Relays monitor origin final (final.since origin) := by
  obtain ⟨control, hplayed, -⟩ := played_of_run hrun
  obtain ⟨entries, hrelays⟩ :=
    (relayed_begin monitor origin).trans
      (relayed_play monitor world stop fuel (Run.begin monitor origin))
  rw [hplayed] at hrelays
  rw [State.since_eq hrelays.transcript]
  exact hrelays

end HealthMonitor
