import HealthMonitor.Proofs.Calls
import HealthMonitor.Proofs.Instants

/-!
# The course of a run

When the phases of a run begin, when its passes do, and when its time is up
hangs on little: how many probes each list has, how long each lap over it takes,
and whether a lap is clear.  `Course` holds just that, and steps through the
stages of a run with it.  None of it depends on the order of the probes.
-/

namespace HealthMonitor

variable {σ : Type}

/-! ## Scripts -/

/-- A probe with what its calls come to, wherever it stands in its list. -/
structure Script where
  probe : Probe
  call : Nat → Call

namespace Script

variable (timeout : Nat) (script : Script)

def outcome (number : Nat) : PingOutcome :=
  (script.call number).answer timeout script.probe

def succeeds (number : Nat) : Bool :=
  match script.outcome timeout number with
  | .completed status => status.success
  | _ => false

/-- Whether a call finds its target out of safe mode. -/
def frees (number : Nat) : Bool :=
  script.succeeds timeout number && script.probe.hasSafeMode &&
    !(script.call number).safeMode

/-- Whether one of the first calls found its target out of safe mode. -/
def hasLeft (calls : Nat) : Bool :=
  (List.range calls).any (script.frees timeout)

/-- Whether a call leaves nothing to wait for in its phase. -/
def clears (timing : Timing) (phase : Phase) (number : Nat) : Bool :=
  script.succeeds timing.probeTimeout number &&
    match phase with
    | .dependencyWait =>
        !script.probe.hasSafeMode || !(script.call number).safeMode ||
          (timing.policy == .ignoreReentry &&
            script.hasLeft timing.probeTimeout number)
    | .bootstrap | .live => true

theorem hasLeft_succ (calls : Nat) :
    script.hasLeft timeout (calls + 1) =
      (script.hasLeft timeout calls || script.frees timeout calls) := by
  simp [hasLeft, List.range_succ]

theorem succeeds_of_completed
    {timeout number : Nat} {script : Script} {status : Status}
    (houtcome : script.outcome timeout number = .completed status) :
    script.succeeds timeout number = status.success := by
  rw [succeeds, houtcome]

theorem succeeds_of_timedOut
    {timeout number : Nat} {script : Script}
    (houtcome : script.outcome timeout number = .timedOut) :
    script.succeeds timeout number = false := by
  rw [succeeds, houtcome]

end Script

def Monitor.probesIn (monitor : Monitor σ) : Phase → List Probe
  | .dependencyWait => monitor.dependencies
  | .bootstrap | .live => monitor.primaries

/-- The scripts of the probes of a phase, in their order. -/
def Monitor.scripts (monitor : Monitor σ) (world : World) (phase : Phase) :
    List Script :=
  (monitor.probesIn phase).mapIdx fun index probe =>
    ⟨probe, world.call (phase.place index)⟩

section Scripts

variable (monitor : Monitor σ) (world : World)

theorem length_scripts (phase : Phase) :
    (monitor.scripts world phase).length = monitor.countIn phase := by
  rw [Monitor.scripts, List.length_mapIdx]
  cases phase <;> rfl

theorem scripts_getElem? (phase : Phase) (index : Nat) :
    (monitor.scripts world phase)[index]? =
      (monitor.probe? (phase.place index)).map fun probe =>
        ⟨probe, world.call (phase.place index)⟩ := by
  rw [Monitor.scripts, List.getElem?_mapIdx]
  cases phase <;> rfl

end Scripts

/-! ## Laps and milestones -/

/-- A lap is one pass over the probes of a phase, or one still to come. -/
structure Lap where
  phase : Phase
  /-- How many calls each probe of the phase had before. -/
  number : Nat
  /-- When the phase was entered. -/
  entered : Nat
  start : Nat
  /-- Whether the live pass before was clean. -/
  cleanBefore : Bool

/-- What can be told of a run without naming a probe. -/
inductive Milestone where
  | entered (phase : Phase)
  | began (phase : Phase)
  | ended (phase : Phase)
  | cycle
  /-- The time of a phase is used up. -/
  | limit (phase : Phase)
  deriving DecidableEq, Repr

/-- What a run is at: the next ping of a lap, the pause before one, or its end
at a time limit. -/
inductive Stage where
  | pinging (lap : Lap) (index : Nat)
  | pausing (lap : Lap)
  | ended (phase : Phase) (elapsed now : Nat)

/-- A stage of a run with the milestones up to it. -/
structure Leg where
  log : List (Nat × Milestone)
  stage : Stage

/-! ## Courses -/

structure Course where
  interval : Nat
  limit : Option Nat
  count : Phase → Nat
  /-- How long the lap of each number takes. -/
  span : Phase → Nat → Nat
  /-- Whether the lap of each number is clear. -/
  clear : Phase → Nat → Bool

/-- How long the calls of one number take, one after the other. -/
def spanOf (timeout : Nat) : List Script → Nat → Nat
  | [], _ => 0
  | script :: scripts, number =>
      (script.call number).waited timeout + spanOf timeout scripts number

def clearOf
    (timing : Timing) (phase : Phase) (scripts : List Script) (number : Nat) :
    Bool :=
  scripts.all fun script => script.clears timing phase number

/-- The course that scripts set. -/
def Course.ofScripts (timing : Timing) (scripts : Phase → List Script) :
    Course where
  interval := timing.probeInterval
  limit := timing.bootstrapLimit
  count phase := (scripts phase).length
  span phase := spanOf timing.probeTimeout (scripts phase)
  clear phase := clearOf timing phase (scripts phase)

theorem spanOf_append (timeout : Nat) (scripts more : List Script) (number : Nat) :
    spanOf timeout (scripts ++ more) number =
      spanOf timeout scripts number + spanOf timeout more number := by
  induction scripts with
  | nil => rw [List.nil_append, spanOf, Nat.zero_add]
  | cons script scripts ih =>
      rw [List.cons_append, spanOf, spanOf, ih, Nat.add_assoc]

theorem spanOf_perm
    {timeout : Nat} {scripts others : List Script}
    (hperm : others.Perm scripts) :
    spanOf timeout others = spanOf timeout scripts := by
  funext number
  induction hperm with
  | nil => rfl
  | cons script _ ih => rw [spanOf, spanOf, ih]
  | swap script other scripts =>
      simp only [spanOf]
      omega
  | trans _ _ ih ih' => exact ih.trans ih'

theorem clearOf_perm
    {timing : Timing} {phase : Phase} {scripts others : List Script}
    (hperm : others.Perm scripts) :
    clearOf timing phase others = clearOf timing phase scripts := by
  funext number
  exact hperm.all_eq

/-- Scripts in another order set the same course. -/
theorem Course.ofScripts_perm
    {timing : Timing} {scripts others : Phase → List Script}
    (hperm : ∀ phase, (others phase).Perm (scripts phase)) :
    Course.ofScripts timing others = Course.ofScripts timing scripts := by
  unfold Course.ofScripts
  congr 1
  · funext phase
    exact (hperm phase).length_eq
  · funext phase
    exact spanOf_perm (hperm phase)
  · funext phase
    exact clearOf_perm (hperm phase)

def Monitor.course (monitor : Monitor σ) (world : World) : Course :=
  .ofScripts monitor.timing (monitor.scripts world)

section Summing

variable {timeout : Nat} {timing : Timing} {phase : Phase}
  {scripts : List Script} {index : Nat} {script : Script}

theorem spanOf_take_succ
    (hscript : scripts[index]? = some script) (number : Nat) :
    spanOf timeout (scripts.take (index + 1)) number =
      spanOf timeout (scripts.take index) number +
        (script.call number).waited timeout := by
  rw [List.take_add_one, hscript, spanOf_append]
  rfl

theorem clearOf_take_succ
    (hscript : scripts[index]? = some script) (number : Nat) :
    clearOf timing phase (scripts.take (index + 1)) number =
      (clearOf timing phase (scripts.take index) number &&
        script.clears timing phase number) := by
  rw [List.take_add_one, hscript, clearOf, List.all_append]
  simp [clearOf]

end Summing

/-! ## Stage by stage -/

namespace Course

variable (course : Course) (log : List (Nat × Milestone)) (lap : Lap)

/-- The pause after a lap that ended `now`. -/
def pause (now : Nat) : Leg :=
  ⟨log, .pausing { lap with number := lap.number + 1, start := now }⟩

/-- What follows a lap that was not clear before live. -/
def blocked (now : Nat) : Leg :=
  match course.limit with
  | none => pause log lap now
  | some limit =>
      if now - lap.entered < limit then pause log lap now
      else
        ⟨log ++ [(now, .limit lap.phase)],
          .ended lap.phase (now - lap.entered) now⟩

/-- What follows the first `index` probes of a lap: its next ping, or what
`finish` says if there is none. -/
def goOn
    (finish : List (Nat × Milestone) → Lap → Nat → Bool → Leg) (index now : Nat)
    (clear : Bool) :
    Leg :=
  if index < course.count lap.phase then ⟨log, .pinging lap index⟩
  else finish log lap now clear

def endLive (now : Nat) (clear : Bool) : Leg :=
  pause (if clear && lap.cleanBefore then log ++ [(now, .cycle)] else log)
    { lap with cleanBefore := clear } now

/-- The first lap of a phase that is entered `now`. -/
def enter
    (finish : List (Nat × Milestone) → Lap → Nat → Bool → Leg) (phase : Phase)
    (number now : Nat) (cleanBefore : Bool) : Leg :=
  course.goOn (log ++ [(now, .entered phase)])
    { phase, number, entered := now, start := now, cleanBefore } finish 0 now
    true

def endBootstrap (now : Nat) (clear : Bool) : Leg :=
  if clear then
    course.enter log endLive .live (lap.number + 1) now lap.cleanBefore
  else course.blocked log lap now

def endWait (now : Nat) (clear : Bool) : Leg :=
  if clear then
    course.enter log course.endBootstrap .bootstrap 0 now lap.cleanBefore
  else course.blocked log lap now

/-- What follows a lap that ended `now`. -/
def endLap (now : Nat) (clear : Bool) : Leg :=
  match lap.phase with
  | .dependencyWait => course.endWait log lap now clear
  | .bootstrap => course.endBootstrap log lap now clear
  | .live => endLive log lap now clear

/-- The beginning of a run.  Without dependencies there is nothing to wait for. -/
def start (now : Nat) : Leg :=
  if course.count .dependencyWait = 0 then
    course.enter [] course.endBootstrap .bootstrap 0 now true
  else course.enter [] course.endWait .dependencyWait 0 now true

/-- The milestones that the ping at `index` of a lap marks. -/
def marks (index : Nat) : List (Nat × Milestone) :=
  (if index = 0 then [(lap.start, .began lap.phase)] else []) ++
    if index + 1 = course.count lap.phase then
      [(lap.start + course.span lap.phase lap.number, .ended lap.phase)]
    else []

/-- One ping or one pause. -/
def step (leg : Leg) : Leg :=
  match leg.stage with
  | .ended _ _ _ => leg
  | .pausing lap =>
      let now := lap.start + course.interval
      course.goOn leg.log { lap with start := now } course.endLap 0 now true
  | .pinging lap index =>
      course.goOn (leg.log ++ course.marks lap index) lap course.endLap
        (index + 1) (lap.start + course.span lap.phase lap.number)
        (course.clear lap.phase lap.number)

section Ending

variable {course : Course} {log : List (Nat × Milestone)} {lap : Lap}
  {index now : Nat} {clear : Bool}

theorem goOn_endWait (hphase : lap.phase = .dependencyWait) :
    course.goOn log lap course.endLap index now clear =
      course.goOn log lap course.endWait index now clear := by
  simp [goOn, endLap, hphase]

theorem goOn_endBootstrap (hphase : lap.phase = .bootstrap) :
    course.goOn log lap course.endLap index now clear =
      course.goOn log lap course.endBootstrap index now clear := by
  simp [goOn, endLap, hphase]

theorem goOn_endLive (hphase : lap.phase = .live) :
    course.goOn log lap course.endLap index now clear =
      course.goOn log lap endLive index now clear := by
  simp [goOn, endLap, hphase]

end Ending

/-- A run that begins `now`, after some steps. -/
def after (now : Nat) : Nat → Leg
  | 0 => course.start now
  | steps + 1 => course.step (after now steps)

end Course

end HealthMonitor
