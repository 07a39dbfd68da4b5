import HealthMonitor.Proofs.Instants

/-!
# On to the next wait

Once it has taken in the answer to a ping and reported it, a run goes on to its
next wait and learns nothing on the way.  All it tells there is the news of its
schedule: a phase, a report of the bootstrap, a completed cycle, the farewell,
or that the phase has used up its time.
-/

namespace HealthMonitor

variable {σ : Type}

def Callback.isNews : Callback → Bool
  | .phase _ | .booted _ | .cycle | .unregister => true
  | _ => false

/-- The report that a phase has used up its time, with what is remembered at
`state` of the position that held it up. -/
def State.limitReport
    (state : State σ) (monitor : Monitor σ) (blocker : Position) : Callback :=
  .timedOut state.phase (monitor.probeName blocker) (state.lastStatus blocker)
    state.now.instant

/-- The position that holds a run up when its pass has come this far.  There is
one only at the end of a pass before live that is blocked. -/
def Pass.holdUp? (monitor : Monitor σ) : Pass → Option Position
  | dependencies index blocker =>
      if index < monitor.dependencies.length then none
      else blocker.map .dependency
  | bootstrap index blocker _ =>
      if index < monitor.primaries.length then none else blocker.map .primary
  | live .. => none

@[simp] theorem Pass.holdUp?_dependencies_none
    (monitor : Monitor σ) (index : Nat) :
    (Pass.dependencies index none).holdUp? monitor = none := ite_self none

@[simp] theorem Pass.holdUp?_bootstrap_none
    (monitor : Monitor σ) (index : Nat) (seen : List Status) :
    (Pass.bootstrap index none seen).holdUp? monitor = none := ite_self none

theorem Pass.of_holdUp?_dependencies
    {monitor : Monitor σ} {index : Nat} {blocker : Option Nat}
    {position : Position}
    (hheld : (Pass.dependencies index blocker).holdUp? monitor = some position) :
    monitor.dependencies.length ≤ index ∧
      ∃ place, blocker = some place ∧ .dependency place = position := by
  simp only [holdUp?] at hheld
  by_cases hrange : index < monitor.dependencies.length
  · rw [if_pos hrange] at hheld
    exact nomatch hheld
  · rw [if_neg hrange] at hheld
    exact ⟨Nat.le_of_not_lt hrange, Option.map_eq_some_iff.mp hheld⟩

theorem Pass.of_holdUp?_bootstrap
    {monitor : Monitor σ} {index : Nat} {blocker : Option Nat}
    {seen : List Status} {position : Position}
    (hheld :
      (Pass.bootstrap index blocker seen).holdUp? monitor = some position) :
    monitor.primaries.length ≤ index ∧
      ∃ place, blocker = some place ∧ .primary place = position := by
  simp only [holdUp?] at hheld
  by_cases hrange : index < monitor.primaries.length
  · rw [if_pos hrange] at hheld
    exact nomatch hheld
  · rw [if_neg hrange] at hheld
    exact ⟨Nat.le_of_not_lt hrange, Option.map_eq_some_iff.mp hheld⟩

/-- Whether a run that `blocker` holds up, if anything does, can write an entry
on its way from `state` to its next wait. -/
def Entry.IsNews
    (monitor : Monitor σ) (blocker : Option Position) (state : State σ) :
    Entry → Prop
  | told instant callback _ =>
      instant = state.now.instant ∧
        (callback.isNews = true ∨
          ∃ position, blocker = some position ∧
            callback = state.limitReport monitor position)
  | pinged _ => False
  | _ => True

structure Advances
    (monitor : Monitor σ) (blocker : Option Position) (state other : State σ)
    (entries : List Entry) : Prop where
  transcript : other.transcript = entries.reverse ++ state.transcript
  now : other.now = state.now
  latest : other.latest = state.latest
  lastHeartbeat : other.lastHeartbeat = state.lastHeartbeat
  news : ∀ entry ∈ entries, entry.IsNews monitor blocker state

section Advancing

variable {monitor : Monitor σ} {blocker : Option Position}
  {state middle other : State σ} {entries more : List Entry}

theorem Advances.pingsIn_eq
    (hadvances : Advances monitor blocker state other entries) :
    pingsIn entries = [] := by
  rw [pingsIn, List.filterMap_eq_nil_iff]
  intro entry hmem
  have hnews := hadvances.news entry hmem
  cases entry with
  | pinged ping => exact hnews.elim
  | told instant callback verdict => rfl
  | prepared position => rfl
  | beganBootstrap position => rfl
  | endedBootstrap position => rfl

theorem Entry.IsNews.congr
    {entry : Entry} (hnews : entry.IsNews monitor none state)
    (hnow : other.now = state.now) :
    entry.IsNews monitor none other := by
  cases entry with
  | told instant callback verdict =>
      obtain ⟨hinstant, hcallback | ⟨position, hnone, -⟩⟩ := hnews
      · exact ⟨hinstant.trans (congrArg Moment.instant hnow.symm), .inl hcallback⟩
      · exact nomatch hnone
  | pinged ping => exact hnews
  | prepared position => trivial
  | beganBootstrap position => trivial
  | endedBootstrap position => trivial

theorem Advances.refl : Advances monitor blocker state state [] where
  transcript := rfl
  now := rfl
  latest := rfl
  lastHeartbeat := rfl
  news := List.forall_mem_nil _

theorem Advances.trans
    (hadvances : Advances monitor none state middle entries)
    (hmore : Advances monitor none middle other more) :
    Advances monitor none state other (entries ++ more) where
  transcript := by simp [hmore.transcript, hadvances.transcript]
  now := hmore.now.trans hadvances.now
  latest := hmore.latest.trans hadvances.latest
  lastHeartbeat := hmore.lastHeartbeat.trans hadvances.lastHeartbeat
  news := by
    rw [List.forall_mem_append]
    exact ⟨hadvances.news, fun entry hmem =>
      (hmore.news entry hmem).congr hadvances.now.symm⟩

theorem advances_note
    (monitor : Monitor σ) (state : State σ) {entry : Entry}
    (hnews : entry.IsNews monitor none state) :
    Advances monitor none state (state.note entry) [entry] where
  transcript := rfl
  now := rfl
  latest := rfl
  lastHeartbeat := rfl
  news := List.forall_mem_singleton.mpr hnews

theorem advances_tell
    (monitor : Monitor σ) (state : State σ) {callback : Callback}
    (hnews : callback.isNews = true) :
    Advances monitor none state (state.tell monitor callback)
      [.told state.now.instant callback (state.verdict monitor callback)] where
  transcript := rfl
  now := rfl
  latest := rfl
  lastHeartbeat := rfl
  news := List.forall_mem_singleton.mpr ⟨rfl, .inl hnews⟩

theorem advances_foldl
    (monitor : Monitor σ) {α : Type} (change : State σ → α → State σ)
    (hchange : ∀ (state : State σ) (item : α),
      ∃ entries, Advances monitor none state (change state item) entries)
    (items : List α) (state : State σ) :
    ∃ entries,
      Advances monitor none state (items.foldl change state) entries := by
  induction items generalizing state with
  | nil => exact ⟨[], .refl⟩
  | cons item items ih =>
      obtain ⟨first, hfirst⟩ := hchange state item
      obtain ⟨rest, hrest⟩ := ih (change state item)
      exact ⟨first ++ rest, hfirst.trans hrest⟩

theorem advances_enter
    (monitor : Monitor σ) (state : State σ) (phase : Phase) :
    ∃ entries,
      Advances monitor none state (Run.enter monitor state phase) entries :=
  ⟨[.told state.now.instant (.phase phase)
      (State.verdict { state with phase, phaseEntered := state.now.instant }
        monitor (.phase phase))],
    ⟨rfl, rfl, rfl, rfl, List.forall_mem_singleton.mpr ⟨rfl, .inl rfl⟩⟩⟩

theorem advances_close (monitor : Monitor σ) (state : State σ) :
    ∃ entries,
      Advances monitor none state (state.close monitor) entries := by
  unfold State.close
  split
  next => exact ⟨[], .refl⟩
  next =>
    exact ⟨[.told state.now.instant .unregister
        (State.verdict { state with closed := true } monitor .unregister)],
      ⟨rfl, rfl, rfl, rfl, List.forall_mem_singleton.mpr ⟨rfl, .inl rfl⟩⟩⟩

end Advancing

/-! ## The ways to the next wait -/

section Schedule

variable (monitor : Monitor σ) (state : State σ)

theorem advances_blocked (blocker : Position) :
    ∃ entries,
      Advances monitor (some blocker) state
        (Run.blocked monitor state blocker).state entries := by
  unfold Run.blocked
  cases monitor.timing.bootstrapLimit with
  | none => exact ⟨[], .refl⟩
  | some limit =>
      by_cases hearly : state.now.instant - state.phaseEntered < limit
      · simp only [if_pos hearly]
        exact ⟨[], .refl⟩
      · simp only [if_neg hearly]
        exact ⟨[.told state.now.instant (state.limitReport monitor blocker)
            (state.verdict monitor (state.limitReport monitor blocker))],
          ⟨rfl, rfl, rfl, rfl, List.forall_mem_singleton.mpr
              ⟨rfl, .inr ⟨blocker, rfl, rfl⟩⟩⟩⟩

theorem advances_endLive (clean : Bool) :
    ∃ entries,
      Advances monitor none state (Run.endLive monitor state clean).state
        entries := by
  have hmarked : Advances monitor none state
      { state with cleanBefore := clean } [] :=
    ⟨rfl, rfl, rfl, rfl, List.forall_mem_nil _⟩
  simp only [Run.endLive]
  by_cases hcompleted : (clean && state.cleanBefore) = true
  · rw [if_pos hcompleted, State.ask_eq]
    have hcycle : Callback.cycle.isNews = true := rfl
    have htold := hmarked.trans
      (advances_tell monitor { state with cleanBefore := clean } hcycle)
    cases State.verdict { state with cleanBefore := clean } monitor .cycle with
    | proceed => exact ⟨_, htold⟩
    | stop => exact ⟨_, htold⟩
  · rw [if_neg hcompleted]
    exact ⟨[], hmarked⟩

theorem advances_goOnLive (index : Nat) (clean : Bool) :
    ∃ entries,
      Advances monitor none state
        (Run.goOnLive monitor state index clean).state entries := by
  unfold Run.goOnLive
  by_cases hrange : index < monitor.primaries.length
  · rw [if_pos hrange]
    exact ⟨[], .refl⟩
  · rw [if_neg hrange]
    exact advances_endLive monitor state clean

theorem advances_endBootstrap (seen : List Status) :
    ∃ entries,
      Advances monitor none state (Run.endBootstrap monitor state seen).state
        entries := by
  unfold Run.endBootstrap Run.enterLive
  obtain ⟨notes, hended⟩ :=
    advances_foldl monitor
      (fun state position => state.note (.endedBootstrap position))
      (fun state index => ⟨_, advances_note monitor state trivial⟩)
      monitor.primaryPositions state
  obtain ⟨reports, htold⟩ :=
    advances_foldl monitor
      (fun state status => state.tell monitor (.booted status))
      (fun state status => ⟨_, advances_tell monitor state rfl⟩) seen
      (monitor.primaryPositions.foldl
        (fun state position => state.note (.endedBootstrap position)) state)
  obtain ⟨phase, hentered⟩ := advances_enter monitor _ .live
  obtain ⟨more, hgone⟩ := advances_goOnLive monitor _ 0 true
  exact ⟨_, ((hended.trans htold).trans hentered).trans hgone⟩

theorem advances_goOnBootstrap
    (index : Nat) (blocker : Option Nat) (seen : List Status) :
    ∃ entries,
      Advances monitor (Pass.holdUp? monitor (.bootstrap index blocker seen))
        state (Run.goOnBootstrap monitor state index blocker seen).state
        entries := by
  unfold Run.goOnBootstrap Pass.holdUp?
  by_cases hrange : index < monitor.primaries.length
  · simp only [if_pos hrange]
    exact ⟨[], .refl⟩
  · simp only [if_neg hrange]
    cases blocker with
    | none => exact advances_endBootstrap monitor state seen
    | some blocker => exact advances_blocked monitor state (.primary blocker)

theorem advances_enterBootstrap :
    ∃ entries,
      Advances monitor none state (Run.enterBootstrap monitor state).state
        entries := by
  unfold Run.enterBootstrap
  obtain ⟨phase, hentered⟩ := advances_enter monitor state .bootstrap
  obtain ⟨notes, hbegan⟩ :=
    advances_foldl monitor
      (fun state position => state.note (.beganBootstrap position))
      (fun state index => ⟨_, advances_note monitor state trivial⟩)
      monitor.primaryPositions
      (Run.enter monitor state .bootstrap)
  obtain ⟨more, hgone⟩ := advances_goOnBootstrap monitor _ 0 none []
  rw [Pass.holdUp?_bootstrap_none] at hgone
  exact ⟨_, (hentered.trans hbegan).trans hgone⟩

theorem advances_goOnDependencies (index : Nat) (blocker : Option Nat) :
    ∃ entries,
      Advances monitor (Pass.holdUp? monitor (.dependencies index blocker))
        state (Run.goOnDependencies monitor state index blocker).state
        entries := by
  unfold Run.goOnDependencies Pass.holdUp?
  by_cases hrange : index < monitor.dependencies.length
  · simp only [if_pos hrange]
    exact ⟨[], .refl⟩
  · simp only [if_neg hrange]
    cases blocker with
    | none => exact advances_enterBootstrap monitor state
    | some blocker => exact advances_blocked monitor state (.dependency blocker)

theorem advances_begin :
    ∃ entries,
      Advances monitor none state (Run.begin monitor state).state entries := by
  unfold Run.begin
  by_cases hempty : monitor.dependencies.isEmpty = true
  · rw [if_pos hempty]
    exact advances_enterBootstrap monitor state
  · rw [if_neg hempty]
    obtain ⟨phase, hentered⟩ := advances_enter monitor state .dependencyWait
    obtain ⟨more, hgone⟩ := advances_goOnDependencies monitor
      (Run.enter monitor state .dependencyWait) 0 none
    rw [Pass.holdUp?_dependencies_none] at hgone
    exact ⟨_, hentered.trans hgone⟩

theorem advances_resume :
    ∃ entries,
      Advances monitor none state (Run.resume monitor state).state entries := by
  unfold Run.resume
  cases state.phase with
  | dependencyWait =>
      have hgone := advances_goOnDependencies monitor state 0 none
      rwa [Pass.holdUp?_dependencies_none] at hgone
  | bootstrap =>
      have hgone := advances_goOnBootstrap monitor state 0 none []
      rwa [Pass.holdUp?_bootstrap_none] at hgone
  | live => exact advances_goOnLive monitor state 0 true

end Schedule

/-! ## Answers -/

namespace State

variable (state : State σ) (position : Position) (change : Slot → Slot)

@[simp] theorem latest_modifySlot :
    (state.modifySlot position change).latest = state.latest := by
  cases position <;> rfl

@[simp] theorem lastHeartbeat_modifySlot :
    (state.modifySlot position change).lastHeartbeat = state.lastHeartbeat := by
  cases position <;> rfl

end State

/-- What the reporter hears of an answered live ping, and whether the run goes
on after that.  `last` is what was remembered of the position of the ping. -/
inductive Reports
    (monitor : Monitor σ) (last : Option Status) (ping : Ping) :
    Verdict → List Entry → Prop
  | up {status : Status} {heard : Verdict}
      (houtcome : ping.outcome = some (.completed status))
      (hsuccess : status.success = true) :
      Reports monitor last ping .proceed
        [.told ping.answered (.result .live (status.inPhase .live)) heard]
  | down {status : Status} {heard verdict : Verdict}
      (houtcome : ping.outcome = some (.completed status))
      (hsuccess : status.success = false) :
      Reports monitor last ping verdict
        [.told ping.answered (.result .live (status.inPhase .live)) heard,
          .told ping.answered (.failure (status.inPhase .live)) verdict]
  | hung {verdict : Verdict} (houtcome : ping.outcome = some .timedOut) :
      Reports monitor last ping verdict
        [.told ping.answered
          (.timedOut .live (monitor.probeName ping.position) last
            ping.answered)
          verdict]

/-- From `state`, which has taken in the answer to a live ping, to `told`, which
has reported it. -/
structure Heard
    (state told : State σ) (ping : Ping) (reports : List Entry) : Prop where
  transcript : told.transcript = reports.reverse ++ state.transcript
  now : told.now = state.now
  latest : told.latest = (ping.status?.map (·.inPhase .live)).or state.latest
  lastHeartbeat : told.lastHeartbeat = state.lastHeartbeat

section Answers

variable {monitor : Monitor σ} {state told : State σ} {ping : Ping}
  {last : Option Status} {verdict : Verdict} {reports : List Entry}

theorem Reports.pingsIn_eq
    (hreports : Reports monitor last ping verdict reports) :
    pingsIn reports = [] := by
  cases hreports with
  | up _ _ => rfl
  | down _ _ => rfl
  | hung _ => rfl

theorem heard_takeResult
    (monitor : Monitor σ) (state : State σ) (index : Nat) {status : Status}
    (houtcome : ping.outcome = some (.completed status)) :
    ∃ heard,
      Heard state
        (Run.takeResult monitor state index (status.inPhase .live)) ping
        [.told state.now.instant (.result .live (status.inPhase .live))
          heard] := by
  refine ⟨_, ⟨rfl, rfl, ?_, rfl⟩⟩
  rw [Ping.status?_of_completed houtcome]
  rfl

theorem Heard.ask
    {asked : State σ} {callback : Callback}
    (hheard : Heard state told ping reports)
    (hask : told.ask monitor callback = (verdict, asked)) :
    Heard state asked ping
      (reports ++ [.told state.now.instant callback verdict]) := by
  rw [State.ask_eq] at hask
  obtain ⟨rfl, rfl⟩ := Prod.mk.inj hask
  refine ⟨?_, hheard.now, hheard.latest, hheard.lastHeartbeat⟩
  rw [List.reverse_concat, List.cons_append, ← hheard.transcript, ← hheard.now]
  rfl

/-- After an answered live ping and its reports the run ends, or goes on with a
heartbeat if one is due. -/
theorem answerLive_cases
    (hphase : state.phase = .live) {index : Nat} (clean : Bool)
    {probe : Probe} (hprobe : monitor.probe? (.primary index) = some probe)
    (ping : Ping) (hposition : ping.position = .primary index)
    (hanswered : ping.answered = state.now.instant) {outcome : PingOutcome}
    (houtcome : ping.outcome = some outcome) :
    (∃ abort, outcome = .aborted abort ∧
        Run.answerLive monitor state index clean probe outcome =
          ⟨state, .ended (.aborted abort)⟩) ∨
      ∃ told verdict reports,
        Reports monitor (state.lastStatus (.primary index)) ping verdict
            reports ∧
          Heard state told ping reports ∧
          ((verdict = .stop ∧ ∃ exit,
              Run.answerLive monitor state index clean probe outcome =
                ⟨told, .ended exit⟩) ∨
            (verdict = .proceed ∧ ∃ still,
              Run.answerLive monitor state index clean probe outcome =
                Run.goOnLive monitor (Run.heartbeat monitor told) (index + 1)
                  still)) := by
  cases outcome with
  | aborted abort => exact .inl ⟨abort, rfl, rfl⟩
  | completed status =>
      right
      obtain ⟨heard, htold⟩ :=
        heard_takeResult monitor state index houtcome
      rw [Run.answerLive_completed hphase]
      cases hsuccess : status.success with
      | true =>
          rw [← hanswered] at htold
          exact ⟨_, _, _, .up houtcome hsuccess, htold,
            .inr ⟨rfl, clean, by simp⟩⟩
      | false =>
          rcases hask : State.ask
              (Run.takeResult monitor state index (status.inPhase .live))
              monitor (.failure (status.inPhase .live)) with ⟨verdict, asked⟩
          have hasked := htold.ask hask
          rw [← hanswered] at hasked
          refine ⟨_, verdict, _, .down houtcome hsuccess, hasked, ?_⟩
          cases verdict with
          | stop =>
              exact .inl ⟨rfl, .probeFailed (status.inPhase .live),
                by simp [hask, Verdict.stops]⟩
          | proceed => exact .inr ⟨rfl, false, by simp [hask, Verdict.stops]⟩
  | timedOut =>
      right
      have hname : probe.name = monitor.probeName ping.position := by
        rw [hposition, Monitor.probeName, hprobe]
        rfl
      have hsame : Heard state state ping [] := by
        refine ⟨rfl, rfl, ?_, rfl⟩
        rw [Ping.status?_of_timedOut houtcome]
        rfl
      simp only [Run.answerLive, hphase, hname]
      rcases hask : State.ask state monitor
          (.timedOut .live (monitor.probeName ping.position)
            (state.lastStatus (.primary index)) state.now.instant)
          with ⟨verdict, asked⟩
      have hasked := hsame.ask hask
      rw [← hanswered] at hasked
      refine ⟨_, verdict, _, .hung houtcome, hasked, ?_⟩
      cases verdict with
      | stop =>
          exact .inl ⟨rfl,
            .probeTimedOut asked.phase (monitor.probeName ping.position)
              (state.lastStatus (.primary index)), by simp [Verdict.stops]⟩
      | proceed => exact .inr ⟨rfl, false, by simp [Verdict.stops]⟩

end Answers

end HealthMonitor
