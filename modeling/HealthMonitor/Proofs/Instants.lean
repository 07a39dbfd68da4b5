import HealthMonitor.Proofs.Answers

/-!
# Between two waits

Between two waits the clock of a run stands still.  What is written there are
callbacks of that one instant and what the probes are told, but no ping.
`Turn` lists where such a stretch can lead, with what it writes: on to the next
probe, into a pause, into a later phase, or to the end.
-/

namespace HealthMonitor

variable {σ : Type}

/-! ## Phases and their probes -/

def Phase.place : Phase → Nat → Position
  | .dependencyWait => .dependency
  | .bootstrap | .live => .primary

def Monitor.countIn (monitor : Monitor σ) : Phase → Nat
  | .dependencyWait => monitor.dependencies.length
  | .bootstrap | .live => monitor.primaries.length

def Position.index : Position → Nat
  | .dependency index | .primary index => index

namespace Pass

def phase : Pass → Phase
  | dependencies .. => .dependencyWait
  | bootstrap .. => .bootstrap
  | live .. => .live

def index : Pass → Nat
  | dependencies index _ | bootstrap index _ _ | live index _ => index

theorem index_position (pass : Pass) : pass.position.index = pass.index := by
  cases pass with
  | dependencies index blocker => rfl
  | bootstrap index blocker seen => rfl
  | live index clean => rfl

end Pass

theorem Ping.phase_eq_of_pass
    {ping : Ping} {pass : Pass} (hposition : ping.position = pass.position)
    (hlive : ping.live = pass.isLive) :
    ping.phase = pass.phase := by
  unfold Ping.phase
  rw [hposition, hlive]
  cases pass with
  | dependencies index blocker => rfl
  | bootstrap index blocker seen => rfl
  | live index clean => rfl

theorem Monitor.exists_probe_of_lt
    {monitor : Monitor σ} (phase : Phase) {index : Nat}
    (hindex : index < monitor.countIn phase) :
    ∃ probe, monitor.probe? (phase.place index) = some probe := by
  cases phase with
  | dependencyWait => exact ⟨_, List.getElem?_eq_getElem hindex⟩
  | bootstrap => exact ⟨_, List.getElem?_eq_getElem hindex⟩
  | live => exact ⟨_, List.getElem?_eq_getElem hindex⟩

theorem Monitor.index_lt_countIn
    {monitor : Monitor σ} {pass : Pass} {probe : Probe}
    (hprobe : monitor.probe? pass.position = some probe) :
    pass.index < monitor.countIn pass.phase := by
  cases pass with
  | dependencies index blocker => exact (List.getElem?_eq_some_iff.mp hprobe).1
  | bootstrap index blocker seen => exact (List.getElem?_eq_some_iff.mp hprobe).1
  | live index clean => exact (List.getElem?_eq_some_iff.mp hprobe).1

/-! ## What is written at one instant -/

/-- Whether an entry can be written at `instant` while no time passes. -/
def Entry.IsAt (instant : Nat) : Entry → Prop
  | told time _ _ => time = instant
  | pinged _ => False
  | _ => True

/-- When the last phase of some entries was entered; `start` if none was. -/
def enteredAfter (start : Nat) (entries : List Entry) : Nat :=
  entries.foldl
    (fun entered entry =>
      match entry with
      | .told instant (.phase _) _ => instant
      | _ => entered)
    start

@[simp] theorem enteredAfter_nil (start : Nat) : enteredAfter start [] = start :=
  rfl

@[simp] theorem enteredAfter_append
    (start : Nat) (entries more : List Entry) :
    enteredAfter start (entries ++ more) =
      enteredAfter (enteredAfter start entries) more :=
  List.foldl_append

@[simp] theorem enteredAfter_pinged_cons
    (start : Nat) (ping : Ping) (entries : List Entry) :
    enteredAfter start (.pinged ping :: entries) = enteredAfter start entries :=
  rfl

@[simp] theorem enteredAfter_phase_cons
    (start instant : Nat) (phase : Phase) (verdict : Verdict)
    (entries : List Entry) :
    enteredAfter start (.told instant (.phase phase) verdict :: entries) =
      enteredAfter instant entries :=
  rfl

/-- From `state` to `other` no time passes and `entries` are written. -/
structure Writes (state other : State σ) (entries : List Entry) : Prop where
  now : other.now = state.now
  transcript : other.transcript = entries.reverse ++ state.transcript
  instants : ∀ entry ∈ entries, entry.IsAt state.now.instant
  entered : other.phaseEntered = enteredAfter state.phaseEntered entries
  watchdog : other.watchdog = state.watchdog

/-- The same without a change of phase. -/
structure Stays (state other : State σ) (entries : List Entry) : Prop
    extends Writes state other entries where
  phase : other.phase = state.phase
  phaseEntered : other.phaseEntered = state.phaseEntered

section Writing

variable {monitor : Monitor σ} {state middle other : State σ}
  {entries more : List Entry}

theorem Writes.trans
    (hwrites : Writes state middle entries) (hmore : Writes middle other more) :
    Writes state other (entries ++ more) where
  now := hmore.now.trans hwrites.now
  transcript := by simp [hmore.transcript, hwrites.transcript]
  instants := by
    have hinstants := hmore.instants
    rw [hwrites.now] at hinstants
    exact List.forall_mem_append.mpr ⟨hwrites.instants, hinstants⟩
  entered := by
    rw [enteredAfter_append, ← hwrites.entered, hmore.entered]
  watchdog := hmore.watchdog.trans hwrites.watchdog

theorem Writes.timeout
    (hwrites : Writes state other entries) :
    other.watchdog.timeout = state.watchdog.timeout :=
  congrArg Watchdog.timeout hwrites.watchdog

theorem Writes.pingsIn_eq
    (hwrites : Writes state other entries) : pingsIn entries = [] := by
  rw [pingsIn, List.filterMap_eq_nil_iff]
  intro entry hmem
  have hinstant := hwrites.instants entry hmem
  cases entry with
  | pinged ping => exact hinstant.elim
  | told instant callback verdict => rfl
  | prepared position => rfl
  | beganBootstrap position => rfl
  | endedBootstrap position => rfl

theorem Stays.refl : Stays state state [] where
  now := rfl
  transcript := rfl
  instants := by simp
  entered := rfl
  watchdog := rfl
  phase := rfl
  phaseEntered := rfl

theorem Stays.trans
    (hstays : Stays state middle entries) (hmore : Stays middle other more) :
    Stays state other (entries ++ more) where
  toWrites := hstays.toWrites.trans hmore.toWrites
  phase := hmore.phase.trans hstays.phase
  phaseEntered := hmore.phaseEntered.trans hstays.phaseEntered

/-- Only what a run goes by in time has to be the same. -/
theorem Stays.congr
    (hstays : Stays state middle entries) (hnow : other.now = middle.now)
    (htranscript : other.transcript = middle.transcript)
    (hphase : other.phase = middle.phase)
    (hentered : other.phaseEntered = middle.phaseEntered)
    (hwatchdog : other.watchdog = middle.watchdog) :
    Stays state other entries where
  now := hnow.trans hstays.now
  transcript := htranscript.trans hstays.transcript
  instants := hstays.instants
  entered := hentered.trans hstays.entered
  watchdog := hwatchdog.trans hstays.watchdog
  phase := hphase.trans hstays.phase
  phaseEntered := hentered.trans hstays.phaseEntered

theorem Stays.modifySlot
    (hstays : Stays state middle entries) (position : Position)
    (change : Slot → Slot) :
    Stays state (middle.modifySlot position change) entries := by
  cases position with
  | dependency index => exact hstays.congr rfl rfl rfl rfl rfl
  | primary index => exact hstays.congr rfl rfl rfl rfl rfl

theorem Stays.note
    (hstays : Stays state middle entries) {entry : Entry}
    (hinstant : entry.IsAt state.now.instant)
    (hentered : enteredAfter middle.phaseEntered [entry] = middle.phaseEntered) :
    Stays state (middle.note entry) (entries ++ [entry]) where
  now := hstays.now
  transcript := by simp [State.note, hstays.transcript]
  instants := forall_mem_concat hstays.instants hinstant
  entered := by
    rw [enteredAfter_append, ← hstays.entered, hentered]
    rfl
  watchdog := hstays.watchdog
  phase := hstays.phase
  phaseEntered := hstays.phaseEntered

theorem Stays.tell
    (hstays : Stays state middle entries) (monitor : Monitor σ)
    (callback : Callback) (hphase : ∀ phase, callback ≠ .phase phase) :
    Stays state (middle.tell monitor callback)
      (entries ++
        [.told middle.now.instant callback
          (middle.verdict monitor callback)]) := by
  have hreporter :
      Stays state
        { middle with
          reporter := (monitor.reporter.react middle.reporter callback).2 }
        entries :=
    hstays.congr rfl rfl rfl rfl rfl
  apply hreporter.note
  · exact congrArg Moment.instant hstays.now
  · cases callback with
    | phase phase => exact absurd rfl (hphase phase)
    | _ => rfl

theorem Stays.ask
    (hstays : Stays state middle entries) {callback : Callback}
    {verdict : Verdict} (hphase : ∀ phase, callback ≠ .phase phase)
    (hask : middle.ask monitor callback = (verdict, other)) :
    Stays state other
      (entries ++ [.told middle.now.instant callback verdict]) := by
  rw [State.ask_eq] at hask
  obtain ⟨rfl, rfl⟩ := Prod.mk.inj hask
  exact hstays.tell monitor callback hphase

theorem Stays.foldl
    {α : Type} (hstays : Stays state middle entries)
    (change : State σ → α → State σ)
    (hchange : ∀ (state : State σ) (item : α),
      ∃ more, Stays state (change state item) more)
    (items : List α) :
    ∃ more, Stays state (items.foldl change middle) (entries ++ more) := by
  induction items generalizing middle entries with
  | nil => exact ⟨[], by simpa using hstays⟩
  | cons item items ih =>
      obtain ⟨first, hfirst⟩ := hchange middle item
      obtain ⟨rest, hrest⟩ := ih (hstays.trans hfirst)
      exact ⟨first ++ rest, by simpa using hrest⟩

theorem Stays.heartbeat
    (hstays : Stays state middle entries) (monitor : Monitor σ) :
    ∃ beat, Stays state (Run.heartbeat monitor middle) (entries ++ beat) := by
  unfold Run.heartbeat
  simp only
  split
  next status hdue hlatest =>
    have htold := hstays.tell monitor (.heartbeat status) (by simp)
    exact ⟨_, htold.congr rfl rfl rfl rfl rfl⟩
  next => exact ⟨[], by simpa using hstays⟩

theorem Stays.takeResult
    (monitor : Monitor σ) (state : State σ) (index : Nat) (status : Status) :
    ∃ entries,
      Stays state (Run.takeResult monitor state index status) entries := by
  have hsame : Stays state state [] := .refl
  have hlast := hsame.modifySlot (.primary index)
    fun slot => { slot with last := some status }
  have hlatest :
      Stays state
        { state.modifySlot (.primary index)
            (fun slot => { slot with last := some status }) with
          latest := some status } [] :=
    hlast.congr rfl rfl rfl rfl rfl
  exact ⟨_, hlatest.tell monitor _ (by simp)⟩

theorem Writes.enter (monitor : Monitor σ) (state : State σ) (phase : Phase) :
    ∃ verdict,
      Writes state (Run.enter monitor state phase)
        [.told state.now.instant (.phase phase) verdict] := by
  exact ⟨State.verdict { state with phase, phaseEntered := state.now.instant }
      monitor (.phase phase),
    { now := rfl
      transcript := rfl
      instants := by simp [Entry.IsAt]
      entered := rfl
      watchdog := rfl }⟩

end Writing

/-! ## Turns -/

/-- A run that has just opened a phase, the `earliest` or a later one: it is
about to ping, or it is live and has nothing to ping. -/
inductive Opens
    (monitor : Monitor σ) (state : State σ) (earliest : Phase) :
    Run σ → List Entry → Prop
  | ping {other : State σ} {pass : Pass} {entries : List Entry}
      (hwrites : Writes state other entries)
      (hphase : pass.phase = other.phase)
      (hlater : earliest.rank ≤ other.phase.rank)
      (hentered : .phase other.phase ∈ callbacksIn entries)
      (hfirst : pass.index = 0)
      (hprobe : ∃ probe, monitor.probe? pass.position = some probe) :
      Opens monitor state earliest ⟨other, .ping pass⟩ entries
  | idle {other : State σ} {entries : List Entry}
      (hwrites : Writes state other entries) (hphase : other.phase = .live)
      (hempty : monitor.primaries = [])
      (hlive : .phase .live ∈ callbacksIn entries) :
      Opens monitor state earliest ⟨other, .pause⟩ entries
  | completed {other : State σ} {entries : List Entry}
      (hwrites : Writes state other entries) :
      Opens monitor state earliest ⟨other, .ended .cycleCompleted⟩ entries

/-- What the exit of a run says of a time limit is so at `state`. -/
def TellsLimit
    (monitor : Monitor σ) (state : State σ) (exit : RunExit) : Prop :=
  ∀ phase probe elapsed last,
    exit = .bootstrapTimedOut phase probe elapsed last →
      elapsed = state.now.instant - state.phaseEntered ∧
        ∃ limit, monitor.timing.bootstrapLimit = some limit ∧ limit ≤ elapsed

/-- Where a run can turn when it goes on at `state` with the probe of number
`index`, if there is one. -/
inductive Turn
    (monitor : Monitor σ) (state : State σ) (index : Nat) :
    Run σ → List Entry → Prop
  | next {other : State σ} {pass : Pass} {entries : List Entry}
      (hstays : Stays state other entries) (hphase : pass.phase = state.phase)
      (hindex : pass.index = index)
      (hprobe : ∃ probe, monitor.probe? pass.position = some probe) :
      Turn monitor state index ⟨other, .ping pass⟩ entries
  | pause {other : State σ} {entries : List Entry}
      (hstays : Stays state other entries)
      (hfull : monitor.countIn state.phase ≤ index)
      (hearly : state.phase ≠ .live →
        ∀ limit, monitor.timing.bootstrapLimit = some limit →
          state.now.instant - state.phaseEntered < limit) :
      Turn monitor state index ⟨other, .pause⟩ entries
  | opened {run : Run σ} {phase : Phase} {entries : List Entry}
      (hopens : Opens monitor state phase run entries)
      (hfull : monitor.countIn state.phase ≤ index)
      (hlater : state.phase.rank < phase.rank) :
      Turn monitor state index run entries
  | ended {other : State σ} {exit : RunExit} {entries : List Entry}
      (hstays : Stays state other entries)
      (hexit : exit ≠ .shutdown) (hlimit : TellsLimit monitor state exit) :
      Turn monitor state index ⟨other, .ended exit⟩ entries

section Turning

variable {monitor : Monitor σ} {state middle : State σ} {run : Run σ}
  {entries more : List Entry}

theorem Opens.after
    (hwrites : Writes state middle entries) {earliest : Phase}
    (hopens : Opens monitor middle earliest run more) :
    Opens monitor state earliest run (entries ++ more) := by
  cases hopens with
  | ping hmore hphase hlater hentered hfirst hprobe =>
      exact .ping (hwrites.trans hmore) hphase hlater (by simp [hentered])
        hfirst hprobe
  | idle hmore hphase hempty hlive =>
      exact .idle (hwrites.trans hmore) hphase hempty (by simp [hlive])
  | completed hmore => exact .completed (hwrites.trans hmore)

theorem Opens.weaken
    {earliest later : Phase} (hle : earliest.rank ≤ later.rank)
    (hopens : Opens monitor state later run entries) :
    Opens monitor state earliest run entries := by
  cases hopens with
  | ping hwrites hphase hlater hentered hfirst hprobe =>
      exact .ping hwrites hphase (Nat.le_trans hle hlater) hentered hfirst
        hprobe
  | idle hwrites hphase hempty hlive => exact .idle hwrites hphase hempty hlive
  | completed hwrites => exact .completed hwrites

theorem TellsLimit.of_not_limit
    {exit : RunExit}
    (hexit : ∀ phase probe elapsed last,
      exit ≠ .bootstrapTimedOut phase probe elapsed last) :
    TellsLimit monitor state exit :=
  fun phase probe elapsed last heq => absurd heq (hexit phase probe elapsed last)

theorem Turn.after
    (hstays : Stays state middle entries) {index : Nat}
    (hturn : Turn monitor middle index run more) :
    Turn monitor state index run (entries ++ more) := by
  have hnow : middle.now.instant = state.now.instant :=
    congrArg Moment.instant hstays.now
  cases hturn with
  | next hmore hphase hindex hprobe =>
      exact .next (hstays.trans hmore) (hphase.trans hstays.phase) hindex hprobe
  | pause hmore hfull hearly =>
      rw [hstays.phase, hnow, hstays.phaseEntered] at hearly
      rw [hstays.phase] at hfull
      exact .pause (hstays.trans hmore) hfull hearly
  | opened hopens hfull hlater =>
      rw [hstays.phase] at hfull hlater
      exact .opened (hopens.after hstays.toWrites) hfull hlater
  | ended hmore hexit hlimit =>
      unfold TellsLimit at hlimit
      rw [hnow, hstays.phaseEntered] at hlimit
      exact .ended (hstays.trans hmore) hexit hlimit

/-! ## The turns of the schedule -/

theorem turn_blocked
    (monitor : Monitor σ) (state : State σ) {index : Nat}
    (hfull : monitor.countIn state.phase ≤ index) (blocker : Position) :
    ∃ entries,
      Turn monitor state index (Run.blocked monitor state blocker) entries := by
  unfold Run.blocked
  cases hlimit : monitor.timing.bootstrapLimit with
  | none => exact ⟨[], .pause .refl hfull (by simp [hlimit])⟩
  | some limit =>
      simp only
      split
      next hearly =>
        refine ⟨[], .pause .refl hfull ?_⟩
        intro _ other hother
        rw [hlimit] at hother
        exact Option.some.inj hother ▸ hearly
      next hlate =>
        refine ⟨_, .ended (Stays.refl.tell monitor _ (by simp)) nofun ?_⟩
        intro phase probe elapsed last heq
        obtain ⟨-, -, rfl, -⟩ := RunExit.bootstrapTimedOut.inj heq
        exact ⟨rfl, limit, hlimit, Nat.le_of_not_lt hlate⟩

theorem endLive_cases
    (monitor : Monitor σ) (state : State σ) (clean : Bool) :
    ∃ other entries,
      Stays state other entries ∧
        (entries = [] ∨
          ∃ verdict, entries = [.told state.now.instant .cycle verdict]) ∧
        (Run.endLive monitor state clean = ⟨other, .pause⟩ ∨
          Run.endLive monitor state clean = ⟨other, .ended .cycleCompleted⟩) := by
  have hmarked : Stays state { state with cleanBefore := clean } [] :=
    Stays.refl.congr rfl rfl rfl rfl rfl
  simp only [Run.endLive]
  split
  next =>
    rcases hask : State.ask { state with cleanBefore := clean } monitor .cycle
      with ⟨verdict, asked⟩
    refine ⟨asked, _, hmarked.ask (by simp) hask, .inr ⟨verdict, rfl⟩, ?_⟩
    cases verdict with
    | stop => exact .inr rfl
    | proceed => exact .inl rfl
  next => exact ⟨_, [], hmarked, .inl rfl, .inl rfl⟩

theorem turn_goOnLive
    (monitor : Monitor σ) (hphase : state.phase = .live) (index : Nat)
    (clean : Bool) :
    ∃ entries,
      Turn monitor state index (Run.goOnLive monitor state index clean)
        entries := by
  unfold Run.goOnLive
  split
  next hrange =>
    exact ⟨[], .next .refl hphase.symm rfl
      (Monitor.exists_probe_of_lt .live hrange)⟩
  next hfull =>
    obtain ⟨other, entries, hstays, -, hpause | hended⟩ :=
      endLive_cases monitor state clean
    · rw [hpause]
      have hcount : monitor.countIn state.phase ≤ index := by
        rw [hphase]
        exact Nat.le_of_not_lt hfull
      exact ⟨entries, .pause hstays hcount fun hne => absurd hphase hne⟩
    · rw [hended]
      exact ⟨entries, .ended hstays nofun (.of_not_limit (by simp))⟩

theorem opens_enterLive (monitor : Monitor σ) (state : State σ) :
    ∃ entries,
      Opens monitor state .live (Run.enterLive monitor state) entries := by
  obtain ⟨verdict, hentered⟩ := Writes.enter monitor state .live
  unfold Run.enterLive Run.goOnLive
  split
  next hrange =>
    exact ⟨_, .ping hentered rfl (Nat.le_refl _) List.mem_cons_self rfl
      (Monitor.exists_probe_of_lt .live hrange)⟩
  next hempty =>
    obtain ⟨other, entries, hstays, -, hpause | hended⟩ :=
      endLive_cases monitor (Run.enter monitor state .live) true
    · rw [hpause]
      have hnone : monitor.primaries = [] := by
        rw [← List.length_eq_zero_iff]
        omega
      exact ⟨_, .idle (hentered.trans hstays.toWrites) hstays.phase hnone
        (by simp)⟩
    · rw [hended]
      exact ⟨_, .completed (hentered.trans hstays.toWrites)⟩

theorem opens_endBootstrap
    (monitor : Monitor σ) (state : State σ) (seen : List Status) :
    ∃ entries,
      Opens monitor state .live (Run.endBootstrap monitor state seen)
        entries := by
  unfold Run.endBootstrap
  have hsame : Stays state state [] := .refl
  obtain ⟨notes, hended⟩ :=
    hsame.foldl
      (fun state position => state.note (.endedBootstrap position))
      (fun state index => ⟨_, Stays.refl.note trivial rfl⟩)
      monitor.primaryPositions
  obtain ⟨reports, htold⟩ :=
    hended.foldl
      (fun state status => state.tell monitor (.booted status))
      (fun state status => ⟨_, Stays.refl.tell monitor _ (by simp)⟩) seen
  obtain ⟨entries, hopens⟩ := opens_enterLive monitor _
  exact ⟨_, hopens.after htold.toWrites⟩

theorem turn_goOnBootstrap
    (monitor : Monitor σ) (hphase : state.phase = .bootstrap) (index : Nat)
    (blocker : Option Nat) (seen : List Status) :
    ∃ entries,
      Turn monitor state index
        (Run.goOnBootstrap monitor state index blocker seen) entries := by
  unfold Run.goOnBootstrap
  split
  next hrange =>
    exact ⟨[], .next .refl hphase.symm rfl
      (Monitor.exists_probe_of_lt .bootstrap hrange)⟩
  next hfull =>
    have hcount : monitor.countIn state.phase ≤ index := by
      rw [hphase]
      exact Nat.le_of_not_lt hfull
    cases blocker with
    | some blocker => exact turn_blocked monitor state hcount (.primary blocker)
    | none =>
        obtain ⟨entries, hopens⟩ :=
          opens_endBootstrap monitor state seen
        exact ⟨entries, .opened hopens hcount (by rw [hphase]; decide)⟩

theorem opens_enterBootstrap (monitor : Monitor σ) (state : State σ) :
    ∃ entries,
      Opens monitor state .bootstrap (Run.enterBootstrap monitor state)
        entries := by
  obtain ⟨verdict, hentered⟩ := Writes.enter monitor state .bootstrap
  unfold Run.enterBootstrap
  have hsame : Stays (Run.enter monitor state .bootstrap) _ [] := .refl
  obtain ⟨notes, hbegan⟩ :=
    hsame.foldl
      (fun state position => state.note (.beganBootstrap position))
      (fun state index => ⟨_, Stays.refl.note trivial rfl⟩)
      monitor.primaryPositions
  have hwrites := hentered.trans hbegan.toWrites
  simp only
  unfold Run.goOnBootstrap
  split
  next hrange =>
    refine ⟨_, .ping hwrites hbegan.phase.symm ?_ ?_ rfl
      (Monitor.exists_probe_of_lt .bootstrap hrange)⟩
    · rw [hbegan.phase]
      exact Nat.le_refl _
    · rw [hbegan.phase]
      exact List.mem_cons_self
  next =>
    obtain ⟨entries, hopens⟩ := opens_endBootstrap monitor _ []
    exact ⟨_, (hopens.weaken (by decide)).after hwrites⟩

theorem turn_goOnDependencies
    (monitor : Monitor σ) (hphase : state.phase = .dependencyWait) (index : Nat)
    (blocker : Option Nat) :
    ∃ entries,
      Turn monitor state index
        (Run.goOnDependencies monitor state index blocker) entries := by
  unfold Run.goOnDependencies
  split
  next hrange =>
    exact ⟨[], .next .refl hphase.symm rfl
      (Monitor.exists_probe_of_lt .dependencyWait hrange)⟩
  next hfull =>
    have hcount : monitor.countIn state.phase ≤ index := by
      rw [hphase]
      exact Nat.le_of_not_lt hfull
    cases blocker with
    | some blocker =>
        exact turn_blocked monitor state hcount (.dependency blocker)
    | none =>
        obtain ⟨entries, hopens⟩ :=
          opens_enterBootstrap monitor state
        exact ⟨entries, .opened hopens hcount (by rw [hphase]; decide)⟩

theorem opens_begin (monitor : Monitor σ) (state : State σ) :
    ∃ entries,
      Opens monitor state .dependencyWait (Run.begin monitor state)
        entries := by
  unfold Run.begin
  split
  next =>
    obtain ⟨entries, hopens⟩ :=
      opens_enterBootstrap monitor state
    exact ⟨entries, hopens.weaken (by decide)⟩
  next hnonempty =>
    obtain ⟨verdict, hentered⟩ := Writes.enter monitor state .dependencyWait
    have hrange : 0 < monitor.dependencies.length := by
      apply List.length_pos_iff.mpr
      simpa using hnonempty
    unfold Run.goOnDependencies
    rw [if_pos hrange]
    exact ⟨_, .ping hentered rfl (Nat.le_refl _) List.mem_cons_self rfl
      (Monitor.exists_probe_of_lt .dependencyWait hrange)⟩

/-! ## The turns after an answer -/

theorem turn_answerDependencies
    (monitor : Monitor σ) (hphase : state.phase = .dependencyWait) (index : Nat)
    (blocker : Option Nat) (probe : Probe) (safeMode : Bool)
    (outcome : PingOutcome) :
    ∃ entries,
      Turn monitor state (index + 1)
        (Run.answerDependencies monitor state index blocker probe safeMode
          outcome) entries := by
  cases outcome with
  | completed status =>
      have hsame : Stays state state [] := .refl
      have hstays := hsame.modifySlot (.dependency index)
        (Run.recordDependency probe (status.inPhase state.phase) safeMode)
      obtain ⟨entries, hturn⟩ :=
        turn_goOnDependencies monitor
          (hstays.phase.trans hphase) (index + 1) _
      exact ⟨_, hturn.after hstays⟩
  | timedOut => exact turn_goOnDependencies monitor hphase (index + 1) _
  | aborted abort => exact ⟨[], .ended .refl nofun (.of_not_limit (by simp))⟩

theorem turn_answerBootstrap
    (monitor : Monitor σ) (hphase : state.phase = .bootstrap) (index : Nat)
    (blocker : Option Nat) (seen : List Status) (outcome : PingOutcome) :
    ∃ entries,
      Turn monitor state (index + 1)
        (Run.answerBootstrap monitor state index blocker seen outcome)
        entries := by
  cases outcome with
  | completed status =>
      have hsame : Stays state state [] := .refl
      have hstays := hsame.modifySlot (.primary index)
        fun slot => { slot with last := some (status.inPhase state.phase) }
      obtain ⟨entries, hturn⟩ :=
        turn_goOnBootstrap monitor (hstays.phase.trans hphase)
          (index + 1) _ _
      exact ⟨_, hturn.after hstays⟩
  | timedOut => exact turn_goOnBootstrap monitor hphase (index + 1) _ _
  | aborted abort => exact ⟨[], .ended .refl nofun (.of_not_limit (by simp))⟩

/-- Once a live ping was reported, at most a heartbeat comes before the next
probe. -/
theorem turn_reported
    (hstays : Stays state middle entries) (hphase : state.phase = .live)
    (index : Nat) (clean : Bool) :
    ∃ entries,
      Turn monitor state index
        (Run.goOnLive monitor (Run.heartbeat monitor middle) index clean)
        entries := by
  obtain ⟨beat, hbeaten⟩ := hstays.heartbeat monitor
  obtain ⟨more, hturn⟩ :=
    turn_goOnLive monitor (hbeaten.phase.trans hphase) index clean
  exact ⟨_, hturn.after hbeaten⟩

theorem turn_answerLive
    (monitor : Monitor σ) (hphase : state.phase = .live) (index : Nat)
    (clean : Bool) (probe : Probe) (outcome : PingOutcome) :
    ∃ entries,
      Turn monitor state (index + 1)
        (Run.answerLive monitor state index clean probe outcome) entries := by
  cases outcome with
  | completed status =>
      obtain ⟨taken, htaken⟩ :=
        Stays.takeResult monitor state index
          (status.inPhase .live)
      rw [Run.answerLive_completed hphase]
      simp only
      split
      next => exact turn_reported htaken hphase (index + 1) clean
      next =>
        rcases hask : State.ask
            (Run.takeResult monitor state index (status.inPhase .live)) monitor
            (.failure (status.inPhase .live)) with ⟨verdict, asked⟩
        have hasked := htaken.ask (by simp) hask
        cases verdict with
        | stop => exact ⟨_, .ended hasked (by simp) (.of_not_limit (by simp))⟩
        | proceed => exact turn_reported hasked hphase (index + 1) false
  | timedOut =>
      simp only [Run.answerLive]
      rcases hask : State.ask state monitor
          (.timedOut state.phase probe.name
            (state.lastStatus (.primary index)) state.now.instant)
          with ⟨verdict, asked⟩
      have hsame : Stays state state [] := .refl
      have hasked := hsame.ask (by simp) hask
      cases verdict with
      | stop => exact ⟨_, .ended hasked (by simp) (.of_not_limit (by simp))⟩
      | proceed => exact turn_reported hasked hphase (index + 1) false
  | aborted abort => exact ⟨[], .ended .refl (by simp) (.of_not_limit (by simp))⟩

/-- Every answer to a ping leads to a turn. -/
theorem turn_answer
    (monitor : Monitor σ) {pass : Pass} (hphase : state.phase = pass.phase)
    (probe : Probe) (safeMode : Bool) (outcome : PingOutcome) :
    ∃ entries,
      Turn monitor state (pass.index + 1)
        (Run.answer monitor state pass probe safeMode outcome) entries := by
  cases pass with
  | dependencies index blocker =>
      exact turn_answerDependencies monitor hphase index blocker probe safeMode
        outcome
  | bootstrap index blocker seen =>
      exact turn_answerBootstrap monitor hphase index blocker seen outcome
  | live index clean => exact turn_answerLive monitor hphase index clean probe outcome

/-- After a pause the phase is gone through once more. -/
theorem turn_resume (monitor : Monitor σ) (state : State σ) :
    ∃ entries, Turn monitor state 0 (Run.resume monitor state) entries := by
  unfold Run.resume
  cases hphase : state.phase with
  | dependencyWait => exact turn_goOnDependencies monitor hphase 0 none
  | bootstrap => exact turn_goOnBootstrap monitor hphase 0 none []
  | live => exact turn_goOnLive monitor hphase 0 true

theorem resume_eq (hprobes : 0 < monitor.countIn state.phase) :
    Run.resume monitor state = ⟨state, .ping (Pass.first state.phase)⟩ := by
  unfold Run.resume
  cases hphase : state.phase with
  | dependencyWait =>
      rw [hphase] at hprobes
      exact if_pos hprobes
  | bootstrap =>
      rw [hphase] at hprobes
      exact if_pos hprobes
  | live =>
      rw [hphase] at hprobes
      exact if_pos hprobes

theorem resume_idle
    (hphase : state.phase = .live) (hempty : monitor.primaries = []) :
    Run.resume monitor state = Run.endLive monitor state true := by
  unfold Run.resume Run.goOnLive
  rw [hphase, hempty]
  rfl

end Turning

end HealthMonitor
