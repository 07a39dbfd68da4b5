import HealthMonitor.Proofs.Courses
import HealthMonitor.Proofs.Rounds

/-!
# Laps of a run

`InLap` says that a run has come to some probe of a lap: what time it is, how
often each probe of the phase was called, and which milestones lie behind.
Callbacks, heartbeats and pauses keep it, and an answered ping brings it to the
next probe.
-/

namespace HealthMonitor

variable {σ : Type}

/-! ## Milestones of entries -/

def Entry.milestones (monitor : Monitor σ) : Entry → List (Nat × Milestone)
  | told instant (.phase phase) _ => [(instant, .entered phase)]
  | told instant .cycle _ => [(instant, .cycle)]
  | told instant (.timedOut phase _ _ _) _ =>
      if phase = .live then [] else [(instant, .limit phase)]
  | pinged ping =>
      (if ping.position.index = 0 then [(ping.started, .began ping.phase)]
        else []) ++
        if ping.position.index + 1 = monitor.countIn ping.phase ∧
            ping.outcome ≠ none then
          [(ping.answered, .ended ping.phase)]
        else []
  | _ => []

/-- The milestones that some entries tell of, the oldest first. -/
def milestonesIn (monitor : Monitor σ) (entries : List Entry) :
    List (Nat × Milestone) :=
  entries.flatMap (Entry.milestones monitor)

def State.milestones (monitor : Monitor σ) (state : State σ) :
    List (Nat × Milestone) :=
  milestonesIn monitor state.transcript.reverse

section Marking

variable {monitor : Monitor σ} {state other : State σ}

theorem milestonesIn_append (entries more : List Entry) :
    milestonesIn monitor (entries ++ more) =
      milestonesIn monitor entries ++ milestonesIn monitor more :=
  List.flatMap_append

theorem milestonesIn_cons (entry : Entry) (entries : List Entry) :
    milestonesIn monitor (entry :: entries) =
      entry.milestones monitor ++ milestonesIn monitor entries := rfl

theorem State.milestones_of_transcript
    {entries : List Entry}
    (htranscript : other.transcript = entries.reverse ++ state.transcript) :
    other.milestones monitor =
      state.milestones monitor ++ milestonesIn monitor entries := by
  rw [milestones, htranscript, List.reverse_append, List.reverse_reverse,
    milestonesIn_append, milestones]

theorem State.milestones_cons
    {entry : Entry} (htranscript : other.transcript = entry :: state.transcript) :
    other.milestones monitor =
      state.milestones monitor ++ entry.milestones monitor := by
  have hone : other.transcript = [entry].reverse ++ state.transcript :=
    htranscript
  rw [milestones_of_transcript hone]
  simp [milestonesIn]

theorem State.milestones_note (entry : Entry) :
    (state.note entry).milestones monitor =
      state.milestones monitor ++ entry.milestones monitor :=
  milestones_cons rfl

theorem State.milestones_tell (callback : Callback) :
    (state.tell monitor callback).milestones monitor =
      state.milestones monitor ++
        (Entry.told state.now.instant callback
          (state.verdict monitor callback)).milestones monitor :=
  milestones_cons rfl

/-- Whether a callback is no milestone, whenever it is made. -/
def Callback.IsPlain (monitor : Monitor σ) (callback : Callback) : Prop :=
  ∀ instant verdict, (Entry.told instant callback verdict).milestones monitor = []

end Marking

/-! ## Where a lap stands -/

/-- Each probe of a phase was called as often as `calls` says, and each
dependency is remembered to have left safe mode if one of its calls saw that. -/
def State.HasCalled
    (monitor : Monitor σ) (world : World) (state : State σ) (phase : Phase)
    (calls : Nat → Nat) : Prop :=
  ∀ place script, (monitor.scripts world phase)[place]? = some script →
    ∃ slot, state.slot? (phase.place place) = some slot ∧
      slot.calls = calls place ∧
      (phase = .dependencyWait →
        slot.leftSafeMode =
          script.hasLeft monitor.timing.probeTimeout (calls place))

/-- How long the pings before `index` take in a lap. -/
def Monitor.spanUpTo
    (monitor : Monitor σ) (world : World) (lap : Lap) (index : Nat) : Nat :=
  spanOf monitor.timing.probeTimeout
    ((monitor.scripts world lap.phase).take index) lap.number

def Monitor.clearUpTo
    (monitor : Monitor σ) (world : World) (lap : Lap) (index : Nat) : Bool :=
  clearOf monitor.timing lap.phase
    ((monitor.scripts world lap.phase).take index) lap.number

/-- A run is at the probe at `index` of a lap, with `log` behind it. -/
structure InLap
    (monitor : Monitor σ) (world : World) (log : List (Nat × Milestone))
    (lap : Lap) (index : Nat) (state : State σ) : Prop where
  log : state.milestones monitor = log
  phase : state.phase = lap.phase
  entered : state.phaseEntered = lap.entered
  cleanBefore : state.cleanBefore = lap.cleanBefore
  timeout : state.watchdog.timeout = monitor.timing.probeTimeout
  now : state.now.instant = lap.start + monitor.spanUpTo world lap index
  called : state.HasCalled monitor world lap.phase fun place =>
    if place < index then lap.number + 1 else lap.number
  uncalled : lap.phase = .dependencyWait →
    state.HasCalled monitor world .bootstrap fun _ => 0

/-! ## Spans -/

section Spans

variable {monitor : Monitor σ} {world : World} {lap : Lap} {index : Nat}
  {script : Script}

theorem count_course (phase : Phase) :
    (monitor.course world).count phase = monitor.countIn phase :=
  length_scripts monitor world phase

@[simp] theorem spanUpTo_zero : monitor.spanUpTo world lap 0 = 0 := by
  simp [Monitor.spanUpTo, spanOf]

@[simp] theorem clearUpTo_zero : monitor.clearUpTo world lap 0 = true := by
  simp [Monitor.clearUpTo, clearOf]

theorem spanUpTo_count :
    monitor.spanUpTo world lap (monitor.countIn lap.phase) =
      (monitor.course world).span lap.phase lap.number := by
  rw [Monitor.spanUpTo, ← length_scripts monitor world, List.take_length]
  rfl

theorem clearUpTo_count :
    monitor.clearUpTo world lap (monitor.countIn lap.phase) =
      (monitor.course world).clear lap.phase lap.number := by
  rw [Monitor.clearUpTo, ← length_scripts monitor world, List.take_length]
  rfl

theorem spanUpTo_succ
    (hscript : (monitor.scripts world lap.phase)[index]? = some script) :
    monitor.spanUpTo world lap (index + 1) =
      monitor.spanUpTo world lap index +
        (script.call lap.number).waited monitor.timing.probeTimeout :=
  spanOf_take_succ hscript lap.number

theorem clearUpTo_succ
    (hscript : (monitor.scripts world lap.phase)[index]? = some script) :
    monitor.clearUpTo world lap (index + 1) =
      (monitor.clearUpTo world lap index &&
        script.clears monitor.timing lap.phase lap.number) :=
  clearOf_take_succ hscript lap.number

end Spans

/-! ## What keeps the place in a lap -/

section Keeping

variable {monitor : Monitor σ} {world : World} {state other : State σ}
  {log more : List (Nat × Milestone)} {lap : Lap} {index : Nat}

theorem State.HasCalled.congr
    {phase : Phase} {calls : Nat → Nat}
    (hcalled : state.HasCalled monitor world phase calls)
    (hslot : ∀ position, other.slot? position = state.slot? position) :
    other.HasCalled monitor world phase calls := by
  intro place script hscript
  rw [hslot]
  exact hcalled place script hscript

theorem InLap.congr
    (hlap : InLap monitor world log lap index state)
    (hlog : other.milestones monitor = more)
    (hphase : other.phase = state.phase)
    (hentered : other.phaseEntered = state.phaseEntered)
    (hclean : other.cleanBefore = state.cleanBefore)
    (htimeout : other.watchdog.timeout = state.watchdog.timeout)
    (hnow : other.now = state.now)
    (hslot : ∀ position, other.slot? position = state.slot? position) :
    InLap monitor world more lap index other where
  log := hlog
  phase := hphase.trans hlap.phase
  entered := hentered.trans hlap.entered
  cleanBefore := hclean.trans hlap.cleanBefore
  timeout := htimeout.trans hlap.timeout
  now := by
    rw [hnow]
    exact hlap.now
  called := hlap.called.congr hslot
  uncalled := fun hwait => (hlap.uncalled hwait).congr hslot

theorem InLap.tell
    (hlap : InLap monitor world log lap index state) (callback : Callback)
    (hplain : callback.IsPlain monitor) :
    InLap monitor world log lap index (state.tell monitor callback) := by
  have hlog : (state.tell monitor callback).milestones monitor = log := by
    rw [State.milestones_tell, hplain, List.append_nil, hlap.log]
  exact hlap.congr hlog rfl rfl rfl rfl rfl (State.slot?_congr rfl rfl)

theorem InLap.note
    (hlap : InLap monitor world log lap index state) (entry : Entry)
    (hplain : entry.milestones monitor = []) :
    InLap monitor world log lap index (state.note entry) := by
  have hlog : (state.note entry).milestones monitor = log := by
    rw [State.milestones_note, hplain, List.append_nil, hlap.log]
  exact hlap.congr hlog rfl rfl rfl rfl rfl (State.slot?_congr rfl rfl)

theorem InLap.foldl
    {α : Type} (change : State σ → α → State σ)
    (hchange : ∀ state item, InLap monitor world log lap index state →
      InLap monitor world log lap index (change state item))
    (hlap : InLap monitor world log lap index state) (items : List α) :
    InLap monitor world log lap index (items.foldl change state) := by
  induction items generalizing state with
  | nil => exact hlap
  | cons item items ih => exact ih (hchange state item hlap)

theorem InLap.heartbeat
    (hlap : InLap monitor world log lap index state) :
    InLap monitor world log lap index (Run.heartbeat monitor state) := by
  unfold Run.heartbeat
  simp only
  split
  next status _ _ =>
    have htold := hlap.tell (.heartbeat status) fun _ _ => rfl
    exact htold.congr htold.log rfl rfl rfl rfl rfl (State.slot?_congr rfl rfl)
  next => exact hlap

theorem InLap.place_lt
    {place : Nat} {script : Script} {phase : Phase}
    (hscript : (monitor.scripts world phase)[place]? = some script) :
    place < monitor.countIn phase := by
  rw [← length_scripts monitor world]
  exact (List.getElem?_eq_some_iff.mp hscript).1

/-- After the last probe of a lap, the next lap is still to come. -/
theorem InLap.next
    (hlap : InLap monitor world log lap (monitor.countIn lap.phase) state) :
    InLap monitor world log
      { lap with number := lap.number + 1, start := state.now.instant } 0
      state where
  log := hlap.log
  phase := hlap.phase
  entered := hlap.entered
  cleanBefore := hlap.cleanBefore
  timeout := hlap.timeout
  now := by simp
  called := by
    intro place script hscript
    have hlt := InLap.place_lt hscript
    simpa [hlt] using hlap.called place script hscript
  uncalled := hlap.uncalled

theorem InLap.wait
    (hlap : InLap monitor world log lap 0 state) (moment : Moment) :
    InLap monitor world log { lap with start := moment.instant } 0
      (state.moveTo moment) where
  log := hlap.log
  phase := hlap.phase
  entered := hlap.entered
  cleanBefore := hlap.cleanBefore
  timeout := hlap.timeout
  now := by simp [State.moveTo]
  called := hlap.called.congr (State.slot?_congr rfl rfl)
  uncalled := fun hwait =>
    (hlap.uncalled hwait).congr (State.slot?_congr rfl rfl)

theorem InLap.mark
    (hlap : InLap monitor world log lap index state) (clean : Bool) :
    InLap monitor world log { lap with cleanBefore := clean } index
      { state with cleanBefore := clean } where
  log := hlap.log
  phase := hlap.phase
  entered := hlap.entered
  cleanBefore := rfl
  timeout := hlap.timeout
  now := hlap.now
  called := hlap.called.congr (State.slot?_congr rfl rfl)
  uncalled := fun hwait =>
    (hlap.uncalled hwait).congr (State.slot?_congr rfl rfl)

/-- Entering a phase begins a lap over its probes. -/
theorem InLap.enter
    (hlap : InLap monitor world log lap index state) (phase : Phase)
    {number : Nat}
    (hcalled : state.HasCalled monitor world phase fun _ => number)
    (huncalled : phase = .dependencyWait →
      state.HasCalled monitor world .bootstrap fun _ => 0) :
    InLap monitor world (log ++ [(state.now.instant, .entered phase)])
      { phase, number, entered := state.now.instant, start := state.now.instant,
        cleanBefore := lap.cleanBefore } 0
      (Run.enter monitor state phase) where
  log := by
    rw [Run.enter, State.milestones_tell]
    exact congrArg (· ++ [(state.now.instant, Milestone.entered phase)])
      hlap.log
  phase := rfl
  entered := rfl
  cleanBefore := hlap.cleanBefore
  timeout := hlap.timeout
  now := by
    simp [Run.enter, State.tell, State.ask, State.note]
  called := by
    have hentered : (Run.enter monitor state phase).HasCalled monitor world
        phase fun _ => number :=
      hcalled.congr (State.slot?_congr rfl rfl)
    simpa using hentered
  uncalled := fun hwait => (huncalled hwait).congr (State.slot?_congr rfl rfl)

end Keeping

/-! ## Beginnings -/

section Beginning

variable {monitor : Monitor σ} {world : World} {origin : State σ}

theorem Monitor.Fresh.milestones (hfresh : monitor.Fresh origin) :
    origin.milestones monitor = [] :=
  hfresh.keeps (State.milestones monitor) (fun _ => rfl)
    (fun state position => by
      rw [State.milestones_note]
      exact List.append_nil _)
    (fun state => by
      have htold : (state.tell monitor
          (.start monitor.name monitor.description)).milestones monitor =
            state.milestones monitor ++ [] :=
        State.milestones_tell _
      rw [List.append_nil] at htold
      exact htold)
    (fun _ _ => rfl)

theorem Monitor.Fresh.hasCalled
    (hfresh : monitor.Fresh origin) (phase : Phase) :
    origin.HasCalled monitor world phase fun _ => 0 := by
  intro place script hscript
  rw [scripts_getElem?] at hscript
  obtain ⟨probe, hprobe, -⟩ := Option.map_eq_some_iff.mp hscript
  refine ⟨{}, ?_, rfl, fun _ => rfl⟩
  rw [hfresh.slot?, hprobe]
  rfl

/-- A fresh monitor is at a lap that no probe of it was called for. -/
theorem Monitor.Fresh.inLap (hfresh : monitor.Fresh origin) :
    InLap monitor world []
      { phase := origin.phase, number := 0, entered := origin.phaseEntered,
        start := origin.now.instant, cleanBefore := true } 0 origin where
  log := hfresh.milestones
  phase := rfl
  entered := rfl
  cleanBefore := hfresh.cleanBefore
  timeout := hfresh.reachable.timeout
  now := by simp
  called := by simpa using hfresh.hasCalled origin.phase
  uncalled := fun _ => hfresh.hasCalled .bootstrap

end Beginning

/-! ## Answers -/

section Answering

variable {monitor : Monitor σ} {world : World} {state other : State σ}
  {log more : List (Nat × Milestone)} {lap : Lap} {index : Nat}
  {script : Script}

theorem State.HasCalled.modifySlot
    {phase : Phase} {calls : Nat → Nat}
    (hcalled : state.HasCalled monitor world phase calls) (position : Position)
    {change : Slot → Slot} (hcalls : ∀ slot, (change slot).calls = slot.calls)
    (hleft : ∀ slot, (change slot).leftSafeMode = slot.leftSafeMode) :
    (state.modifySlot position change).HasCalled monitor world phase calls := by
  intro place script hscript
  obtain ⟨slot, hslot, hnumber, hknown⟩ := hcalled place script hscript
  rw [State.slot?_modifySlot, hslot]
  by_cases hsame : position = phase.place place
  · refine ⟨change slot, if_pos hsame, (hcalls slot).trans hnumber, ?_⟩
    exact fun hwait => (hleft slot).trans (hknown hwait)
  · exact ⟨slot, if_neg hsame, hnumber, hknown⟩

/-- A status that comes in has no part in the course. -/
theorem InLap.learn
    (hlap : InLap monitor world log lap index state) (place : Nat)
    (status : Status) :
    InLap monitor world log lap index
      (state.modifySlot (.primary place)
        fun slot => { slot with last := some status }) where
  log := by
    rw [← hlap.log]
    rfl
  phase := hlap.phase
  entered := hlap.entered
  cleanBefore := hlap.cleanBefore
  timeout := hlap.timeout
  now := hlap.now
  called := hlap.called.modifySlot _ (fun _ => rfl) (fun _ => rfl)
  uncalled := fun hwait =>
    (hlap.uncalled hwait).modifySlot _ (fun _ => rfl) (fun _ => rfl)

theorem InLap.takeResult
    (hlap : InLap monitor world log lap index state) (place : Nat)
    (status : Status) :
    InLap monitor world log lap index
      (Run.takeResult monitor state place status) := by
  have hlearned := hlap.learn place status
  have hlatest : InLap monitor world log lap index
      { state.modifySlot (.primary place)
          (fun slot => { slot with last := some status }) with
        latest := some status } :=
    hlearned.congr hlearned.log rfl rfl rfl rfl rfl (State.slot?_congr rfl rfl)
  exact hlatest.tell (.result .live status) fun _ _ => rfl

end Answering

section Pinging

variable {monitor : Monitor σ} {world : World} {state : State σ}
  {log : List (Nat × Milestone)} {lap : Lap} {pass : Pass} {probe : Probe}

/-- The script of the probe that a pass is at. -/
def Pass.script (world : World) (pass : Pass) (probe : Probe) : Script :=
  ⟨probe, world.call pass.position⟩

theorem Pass.scripts_getElem?
    (world : World) (hphase : pass.phase = lap.phase)
    (hprobe : monitor.probe? pass.position = some probe) :
    (monitor.scripts world lap.phase)[pass.index]? =
      some (pass.script world probe) := by
  rw [HealthMonitor.scripts_getElem?, ← hphase, ← Pass.position_eq, hprobe]
  rfl

theorem InLap.callOf
    (hlap : InLap monitor world log lap pass.index state)
    (hphase : pass.phase = lap.phase)
    (hprobe : monitor.probe? pass.position = some probe) :
    Run.callOf world state pass = (pass.script world probe).call lap.number := by
  obtain ⟨slot, hslot, hcalls, -⟩ :=
    hlap.called _ _ (Pass.scripts_getElem? world hphase hprobe)
  rw [← hphase, ← Pass.position_eq] at hslot
  simp only [Nat.lt_irrefl, if_false] at hcalls
  rw [Run.callOf, Run.callsBefore, hslot, Pass.script]
  exact congrArg (world.call pass.position) hcalls

theorem InLap.outcome
    (hlap : InLap monitor world log lap pass.index state)
    (hphase : pass.phase = lap.phase)
    (hprobe : monitor.probe? pass.position = some probe) :
    (Run.watchOf world state pass probe).outcome =
      (pass.script world probe).outcome monitor.timing.probeTimeout
        lap.number := by
  rw [Run.watchOf, Watchdog.outcome_race, hlap.callOf hphase hprobe,
    hlap.timeout]
  rfl

theorem InLap.instant_answered
    (hlap : InLap monitor world log lap pass.index state)
    (hphase : pass.phase = lap.phase)
    (hprobe : monitor.probe? pass.position = some probe) :
    (Run.watchOf world state pass probe).answered.instant =
      state.now.instant +
        ((pass.script world probe).call lap.number).waited
          monitor.timing.probeTimeout := by
  rw [Run.watchOf, Watchdog.instant_answered_race, hlap.callOf hphase hprobe,
    hlap.timeout]

/-- A ping marks the beginning of a lap if it is the first, and the end if it is
the last. -/
theorem InLap.milestones_pinged
    (hlap : InLap monitor world log lap pass.index state)
    (hphase : pass.phase = lap.phase)
    (hprobe : monitor.probe? pass.position = some probe) :
    (Entry.pinged (Run.answeredPing world state pass probe)).milestones
        monitor =
      (monitor.course world).marks lap pass.index := by
  have hplace : (Run.answeredPing world state pass probe).position.index =
      pass.index :=
    pass.index_position
  have hsame : (Run.answeredPing world state pass probe).phase = lap.phase :=
    (Ping.phase_eq_of_pass rfl rfl).trans hphase
  simp only [Entry.milestones, Course.marks, hplace, hsame, count_course]
  congr 1
  · by_cases hfirst : pass.index = 0
    · have hstart : (Run.answeredPing world state pass probe).started =
          lap.start := by
        rw [hfirst] at hlap
        have hnow := hlap.now
        rw [spanUpTo_zero, Nat.add_zero] at hnow
        exact hnow
      rw [if_pos hfirst, if_pos hfirst, hstart]
    · rw [if_neg hfirst, if_neg hfirst]
  · by_cases hlast : pass.index + 1 = monitor.countIn lap.phase
    · have hend : (Run.answeredPing world state pass probe).answered =
          lap.start + (monitor.course world).span lap.phase lap.number := by
        rw [← spanUpTo_count, ← hlast,
          spanUpTo_succ (Pass.scripts_getElem? world hphase hprobe),
          ← Nat.add_assoc, ← hlap.now]
        exact hlap.instant_answered hphase hprobe
      rw [if_pos ⟨hlast, Option.some_ne_none _⟩, if_pos hlast, hend]
    · rw [if_neg fun hboth => hlast hboth.1, if_neg hlast]

/-- What the answer of a ping has to change for the lap to go on. -/
theorem InLap.answered
    (hlap : InLap monitor world log lap pass.index state)
    (hphase : pass.phase = lap.phase)
    (hprobe : monitor.probe? pass.position = some probe)
    (change : Slot → Slot) {other : State σ}
    (hlog : other.milestones monitor =
      (Run.afterAnswer world state pass probe).milestones monitor)
    (hkept : other.phase = (Run.afterAnswer world state pass probe).phase)
    (hentered : other.phaseEntered =
      (Run.afterAnswer world state pass probe).phaseEntered)
    (hclean : other.cleanBefore =
      (Run.afterAnswer world state pass probe).cleanBefore)
    (hwatchdog : other.watchdog =
      (Run.afterAnswer world state pass probe).watchdog)
    (hnow : other.now = (Run.afterAnswer world state pass probe).now)
    (hslot : ∀ position, other.slot? position =
      if pass.position = position then (state.slot? position).map change
      else state.slot? position)
    (hcalls : ∀ slot, (change slot).calls = slot.calls + 1)
    (hleft : lap.phase = .dependencyWait → ∀ slot,
      (change slot).leftSafeMode =
        (slot.leftSafeMode ||
          (pass.script world probe).frees monitor.timing.probeTimeout
            lap.number)) :
    InLap monitor world (log ++ (monitor.course world).marks lap pass.index) lap
      (pass.index + 1) other := by
  have hrecorded := recorded_afterAnswer world state pass probe
  have hscript := Pass.scripts_getElem? world hphase hprobe
  have hplace : pass.position = lap.phase.place pass.index := by
    rw [← hphase, ← pass.position_eq]
  constructor
  case log =>
    rw [hlog, State.milestones_cons hrecorded.transcript,
      hlap.milestones_pinged hphase hprobe, hlap.log]
  case phase => rw [hkept, hrecorded.phase, hlap.phase]
  case entered =>
    rw [hentered, ← hlap.entered]
    exact Run.phaseEntered_recordPing state _
  case cleanBefore => rw [hclean, hrecorded.cleanBefore, hlap.cleanBefore]
  case timeout => rw [hwatchdog, hrecorded.timeout, hlap.timeout]
  case now =>
    rw [hnow, spanUpTo_succ hscript, ← Nat.add_assoc, ← hlap.now]
    exact hlap.instant_answered hphase hprobe
  case called =>
    intro place found hfound
    obtain ⟨slot, hbefore, hnumber, hknown⟩ := hlap.called place found hfound
    rw [hslot, hplace]
    by_cases hsame : place = pass.index
    · subst hsame
      obtain rfl := Option.some.inj (hscript.symm.trans hfound)
      refine ⟨change slot, ?_, ?_, ?_⟩
      · rw [if_pos rfl, hbefore]
        rfl
      · rw [hcalls, hnumber]
        simp
      · intro hwait
        rw [hleft hwait, hknown hwait]
        simp [Script.hasLeft_succ]
    · have hother : lap.phase.place pass.index ≠ lap.phase.place place :=
        fun heq => hsame (Phase.index_eq_of_place_eq heq).symm
      have hcount : place < pass.index + 1 ↔ place < pass.index := by omega
      rw [if_neg hother]
      refine ⟨slot, hbefore, ?_, ?_⟩
      · simpa [hcount] using hnumber
      · simpa [hcount] using hknown
  case uncalled =>
    intro hwait place found hfound
    have hother : lap.phase.place pass.index ≠ Phase.bootstrap.place place := by
      rw [hwait]
      exact nofun
    rw [hslot, hplace, if_neg hother]
    exact hlap.uncalled hwait place found hfound

/-- An answered ping brings the run to the next probe of the lap, unless its
answer tells of safe mode. -/
theorem InLap.afterAnswer
    (hlap : InLap monitor world log lap pass.index state)
    (hphase : pass.phase = lap.phase)
    (hprobe : monitor.probe? pass.position = some probe)
    (hfrees : lap.phase = .dependencyWait →
      (pass.script world probe).frees monitor.timing.probeTimeout lap.number =
        false) :
    InLap monitor world (log ++ (monitor.course world).marks lap pass.index) lap
      (pass.index + 1) (Run.afterAnswer world state pass probe) := by
  apply hlap.answered hphase hprobe
    (fun slot => { slot with calls := slot.calls + 1 }) rfl rfl rfl rfl rfl rfl
    (recorded_afterAnswer world state pass probe).slot? (fun _ => rfl)
  intro hwait slot
  rw [hfrees hwait, Bool.or_false]

theorem Script.satisfied_eq_clears
    {timing : Timing} {script : Script} {number : Nat} {status : Status}
    {slot : Slot}
    (houtcome :
      script.outcome timing.probeTimeout number = .completed status)
    (hleft : slot.leftSafeMode = script.hasLeft timing.probeTimeout number)
    (phase : Phase) :
    Run.satisfied timing.policy script.probe slot (status.inPhase phase)
        (script.call number).safeMode =
      script.clears timing .dependencyWait number := by
  simp [Run.satisfied, clears, succeeds_of_completed houtcome, hleft]

/-- A successful ping before the end of a dependency wait is remembered if it
found its target out of safe mode. -/
theorem Script.leftSafeMode_recordDependency
    {timeout number : Nat} {script : Script} {status : Status}
    (houtcome : script.outcome timeout number = .completed status)
    (phase : Phase) (slot : Slot) :
    (Run.recordDependency script.probe (status.inPhase phase)
        (script.call number).safeMode slot).leftSafeMode =
      (slot.leftSafeMode || script.frees timeout number) := by
  simp [Run.recordDependency, frees, succeeds_of_completed houtcome]

theorem InLap.learnDependency
    (hlap : InLap monitor world log lap pass.index state)
    (hphase : pass.phase = lap.phase)
    (hprobe : monitor.probe? pass.position = some probe)
    {index : Nat} (hposition : pass.position = .dependency index)
    {status : Status}
    (houtcome : (pass.script world probe).outcome monitor.timing.probeTimeout
      lap.number = .completed status) :
    InLap monitor world (log ++ (monitor.course world).marks lap pass.index) lap
      (pass.index + 1)
      ((Run.afterAnswer world state pass probe).modifySlot (.dependency index)
        (Run.recordDependency probe (status.inPhase state.phase)
          ((pass.script world probe).call lap.number).safeMode)) := by
  apply hlap.answered hphase hprobe fun slot =>
    Run.recordDependency probe (status.inPhase state.phase)
      ((pass.script world probe).call lap.number).safeMode
      { slot with calls := slot.calls + 1 }
  case hlog => rfl
  case hkept => rfl
  case hentered => rfl
  case hclean => rfl
  case hwatchdog => rfl
  case hnow => rfl
  case hslot =>
    intro position
    have hping : (Run.answeredPing world state pass probe).position =
        .dependency index :=
      hposition
    rw [State.slot?_modifySlot,
      (recorded_afterAnswer world state pass probe).slot?, hping, hposition]
    by_cases hsame : Position.dependency index = position
    · rw [if_pos hsame, if_pos hsame, if_pos hsame, Option.map_map]
      rfl
    · rw [if_neg hsame, if_neg hsame, if_neg hsame]
  case hcalls => exact fun _ => rfl
  case hleft =>
    intro _ slot
    exact Script.leftSafeMode_recordDependency houtcome _ _

end Pinging

end HealthMonitor
