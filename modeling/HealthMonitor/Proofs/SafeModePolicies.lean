import HealthMonitor.Proofs.BootstrapCompletion
import HealthMonitor.Proofs.DependencyGate
import HealthMonitor.Proofs.Relay
import HealthMonitor.Proofs.Shutdown

/-!
# The two policies about safe mode

A strict monitor and one that ignores re-entries go the same way step by step
until a dependency is seen back in safe mode and the two differ over it.  From
there on the one that ignores it can only open the gate earlier.  The main
statement is `run_eased`.
-/

namespace HealthMonitor

variable {σ : Type}

/-- The monitor with another policy about safe mode. -/
def Monitor.under (monitor : Monitor σ) (policy : SafeModePolicy) :
    Monitor σ :=
  { monitor with timing := { monitor.timing with policy } }

/-- A ping that succeeded and saw its target in safe mode, when one of the
pings `earlier` had succeeded and seen it out of safe mode. -/
structure Ping.Reenters
    (monitor : Monitor σ) (world : World) (earlier : List Ping)
    (ping : Ping) : Prop where
  watched : monitor.watchesSafeMode ping.position = true
  succeeded : ping.succeeded = true
  safeMode : (world.call ping.position ping.number).safeMode = true
  left : ∃ other ∈ earlier,
    other.position = ping.position ∧ other.leftSafeMode world = true

/-- Whether some pings saw a dependency go back into safe mode. -/
def Reentered
    (monitor : Monitor σ) (world : World) (pings : List Ping) : Prop :=
  ∃ earlier ping later,
    pings = earlier ++ ping :: later ∧ ping.Reenters monitor world earlier

/-- What a run that ignores re-entries has over a strict one. -/
structure EasedRecord
    (monitor : Monitor σ) (world : World) (origin : State σ)
    (strictExit exit : Option RunExit) (strictFinal final : State σ) :
    Prop where
  /-- Where the strict run begins its bootstrap, the other one has done so in
  that pass or before, and no later. -/
  enters : ∀ before instant verdict after,
    strictFinal.since origin =
        before ++ .told instant (.phase .bootstrap) verdict :: after →
      ∃ sooner time answer later,
        final.since origin =
            sooner ++ .told time (.phase .bootstrap) answer :: later ∧
          passesBegun (pingsIn sooner) ≤ passesBegun (pingsIn before) ∧
          time ≤ instant
  /-- If the run that ignores re-entries reaches the limit of the wait, so does
  the strict one, with the same pings and so in the same pass. -/
  expires : ∀ probe elapsed last,
    exit = some (.bootstrapTimedOut .dependencyWait probe elapsed last) →
      (∃ blocker seen,
        strictExit =
          some (.bootstrapTimedOut .dependencyWait blocker elapsed seen)) ∧
        pingsIn (strictFinal.since origin) = pingsIn (final.since origin)
  /-- Without a re-entry there is no difference at all. -/
  agrees :
    ¬Reentered monitor world (pingsIn (strictFinal.since origin)) ∨
        ¬Reentered monitor world (pingsIn (final.since origin)) →
      exit = strictExit ∧ final = strictFinal

/-! ## What does not depend on the policy -/

section Under

variable (monitor : Monitor σ) (policy other : SafeModePolicy)
  (state : State σ)

@[simp] theorem Monitor.dependencies_under :
    (monitor.under policy).dependencies = monitor.dependencies := rfl

@[simp] theorem Monitor.bootstrapLimit_under :
    (monitor.under policy).timing.bootstrapLimit =
      monitor.timing.bootstrapLimit := rfl

@[simp] theorem Monitor.probe?_under (position : Position) :
    (monitor.under policy).probe? position = monitor.probe? position := rfl

@[simp] theorem Monitor.probeName_under (position : Position) :
    (monitor.under policy).probeName position = monitor.probeName position :=
  rfl

theorem Monitor.prepareFrom_under
    (world : World) (positions : List Position) :
    (monitor.under policy).prepareFrom world positions state =
      monitor.prepareFrom world positions state := by
  induction positions generalizing state with
  | nil => rfl
  | cons position positions ih =>
      simp only [prepareFrom, probeName_under, ih]

theorem Monitor.prepare_under (world : World) :
    (monitor.under policy).prepare world state = monitor.prepare world state :=
  monitor.prepareFrom_under policy state world monitor.positions

namespace Run

theorem begin_under :
    begin (monitor.under policy) state = begin (monitor.under other) state :=
  rfl

theorem answerDependencies_completed
    (index : Nat) (blocker : Option Nat) (probe : Probe) (safeMode : Bool)
    (status : Status) :
    answerDependencies (monitor.under policy) state index blocker probe safeMode
        (.completed status) =
      goOnDependencies (monitor.under policy)
        (state.modifySlot (.dependency index)
          (recordDependency probe (status.inPhase state.phase) safeMode))
        (index + 1)
        (if satisfied policy probe
            ((state.slot? (.dependency index)).getD {})
            (status.inPhase state.phase) safeMode then
          blocker
        else blocker.or (some index)) := rfl

end Run

/-- Until its first run a monitor makes nothing of its policy. -/
theorem Monitor.Fresh.under
    {monitor : Monitor σ} {state : State σ} (hfresh : monitor.Fresh state)
    (policy : SafeModePolicy) :
    (monitor.under policy).Fresh state := by
  induction hfresh with
  | built hbuilt => exact .built hbuilt
  | @performed state hfresh world fuel operation hoperation ih =>
      have hsame :
          (monitor.under policy).perform world fuel state operation =
            monitor.perform world fuel state operation := by
        cases operation with
        | prepare => simp only [perform, prepare_under]
        | start => rfl
        | sleep wait => rfl
        | run signal => exact absurd hoperation Bool.false_ne_true
        | close => exact absurd hoperation Bool.false_ne_true
      rw [← hsame]
      exact .performed ih world fuel hoperation

end Under

/-! ## Where the policies differ -/

/-- The policies differ only over a dependency that is back in safe mode. -/
theorem Run.satisfied_cases
    (probe : Probe) (slot : Slot) (status : Status) (safeMode : Bool) :
    satisfied .ignoreReentry probe slot status safeMode =
        satisfied .strict probe slot status safeMode ∨
      status.success = true ∧ safeMode = true ∧ slot.leftSafeMode = true ∧
        satisfied .strict probe slot status safeMode = false := by
  unfold satisfied
  cases status.success <;> cases probe.hasSafeMode <;> cases safeMode <;>
    cases slot.leftSafeMode <;> decide

section Sighting

variable {monitor : Monitor σ} {world : World} {origin state other : State σ}
  {entries : List Entry} {pings more : List Ping} {ping : Ping}

theorem Reentered.append
    (hreentered : Reentered monitor world pings) (more : List Ping) :
    Reentered monitor world (pings ++ more) := by
  obtain ⟨earlier, ping, later, rfl, hreenters⟩ := hreentered
  exact ⟨earlier, ping, later ++ more, by simp, hreenters⟩

/-- A run that still waits for the dependencies and has seen one of them go
back into safe mode. -/
structure Sighted
    (monitor : Monitor σ) (world : World) (origin state : State σ)
    (entries : List Entry) : Prop where
  transcript : state.transcript = entries.reverse ++ origin.transcript
  waiting : .phase .bootstrap ∉ callbacksIn entries
  reentered : Reentered monitor world (pingsIn entries)

theorem Sighted.congr
    (hsighted : Sighted monitor world origin state entries)
    (htranscript : other.transcript = state.transcript) :
    Sighted monitor world origin other entries :=
  { hsighted with transcript := htranscript.trans hsighted.transcript }

theorem Sighted.pinged
    (hsighted : Sighted monitor world origin state entries)
    (hrecorded : Recorded state ping other) :
    Sighted monitor world origin other (entries ++ [.pinged ping]) where
  transcript := by
    rw [hrecorded.transcript, hsighted.transcript]
    simp
  waiting := by simpa using hsighted.waiting
  reentered := by
    rw [pingsIn_append]
    exact hsighted.reentered.append _

theorem BeforeBootstrap.phase_notMem
    (hbefore : BeforeBootstrap entries) :
    .phase .bootstrap ∉ callbacksIn entries := by
  intro hmem
  rcases hbefore.callbacks _ hmem with
    hwait | hbye | ⟨probe, last, now, hlate⟩
  · exact nomatch hwait
  · exact nomatch hbye
  · exact nomatch hlate

/-- The ping over which the policies differ sees a re-entry. -/
theorem sighted_of_latched
    (htranscript : state.transcript = entries.reverse ++ origin.transcript)
    (hbefore : BeforeBootstrap entries)
    (hlatched : Latched monitor world state (pingsIn entries))
    (hrecorded : Recorded state ping other) {index : Nat}
    (hposition : ping.position = .dependency index)
    (hsucceeded : ping.succeeded = true)
    (hsafeMode : (world.call ping.position ping.number).safeMode = true)
    (hleft :
      ((other.slot? (.dependency index)).getD {}).leftSafeMode = true) :
    Sighted monitor world origin other (entries ++ [.pinged ping]) where
  transcript := by
    rw [hrecorded.transcript, htranscript]
    simp
  waiting := by simpa using hbefore.phase_notMem
  reentered := by
    rw [hrecorded.slot?, if_pos hposition] at hleft
    cases hslot : state.slot? (.dependency index) with
    | none => simp [hslot] at hleft
    | some slot =>
        rw [hslot] at hleft
        obtain ⟨hwatched, hearlier⟩ := (hlatched index slot hslot).mp hleft
        rw [← hposition] at hwatched hearlier
        refine ⟨pingsIn entries, ping, [], by simp, ?_⟩
        exact ⟨hwatched, hsucceeded, hsafeMode, hearlier⟩

end Sighting

/-! ## Two runs side by side -/

/-- An entry of which nothing was told before `instant`. -/
def Entry.NotToldBefore (instant : Nat) : Entry → Prop
  | told time _ _ => instant ≤ time
  | _ => True

/-- How a strict run and one that ignores re-entries stand to each other after
the same number of steps. -/
inductive Twins
    (monitor : Monitor σ) (world : World) (origin : State σ) :
    Run σ → Run σ → Prop
  | same (run : Run σ) : Twins monitor world origin run run
  /-- Both are in one pass, which is blocked for the strict run. -/
  | eased {state : State σ} {entries : List Entry} {index blocker : Nat}
      {eased : Option Nat}
      (hsighted : Sighted monitor world origin state entries) :
      Twins monitor world origin
        ⟨state, .ping (.dependencies index (some blocker))⟩
        ⟨state, .ping (.dependencies index eased)⟩
  /-- The limit has ended both, perhaps not over the same dependency. -/
  | overdue {state : State σ} {entries : List Entry} {elapsed : Nat}
      {probe other : String} {last seen : Option Status}
      (hsighted : Sighted monitor world origin state entries) :
      Twins monitor world origin
        ⟨state.tell monitor
            (.timedOut .dependencyWait probe last state.now.instant),
          .ended (.bootstrapTimedOut .dependencyWait probe elapsed last)⟩
        ⟨state.tell monitor
            (.timedOut .dependencyWait other seen state.now.instant),
          .ended (.bootstrapTimedOut .dependencyWait other elapsed seen)⟩
  /-- At `state` the gate opened for the one that ignores re-entries only. -/
  | parted {state : State σ} {entries late rest : List Entry}
      {verdict : Verdict} {strict run : Run σ}
      (hsighted : Sighted monitor world origin state entries)
      (hstrict : strict.state.transcript = late.reverse ++ state.transcript)
      (hlate : ∀ entry ∈ late, entry.NotToldBefore state.now.instant)
      (hnow : state.now.instant ≤ strict.state.now.instant)
      (hrun : run.state.transcript =
        (.told state.now.instant (.phase .bootstrap) verdict :: rest).reverse ++
          state.transcript) :
      Twins monitor world origin strict run

section Stepping

variable {monitor : Monitor σ} {world : World} {origin state : State σ}
  {entries : List Entry} {strict run : Run σ}

theorem Entry.notToldBefore_of_isAt
    {instant : Nat} {entry : Entry} (hentry : entry.IsAt instant) :
    entry.NotToldBefore instant := by
  cases entry with
  | told time callback verdict => exact Nat.le_of_eq hentry.symm
  | pinged ping => trivial
  | prepared position => trivial
  | beganBootstrap position => trivial
  | endedBootstrap position => trivial

theorem Entry.NotToldBefore.mono
    {instant earlier : Nat} {entry : Entry}
    (hentry : entry.NotToldBefore instant) (hle : earlier ≤ instant) :
    entry.NotToldBefore earlier := by
  cases entry with
  | told time callback verdict => exact Nat.le_trans hle hentry
  | pinged ping => trivial
  | prepared position => trivial
  | beganBootstrap position => trivial
  | endedBootstrap position => trivial

theorem transcript_enterBootstrap (monitor : Monitor σ) (state : State σ) :
    ∃ verdict rest,
      (Run.enterBootstrap monitor state).state.transcript =
        (.told state.now.instant (.phase .bootstrap) verdict :: rest).reverse ++
          state.transcript := by
  have hbegan :
      Relayed monitor (Run.enter monitor state .bootstrap)
        (monitor.primaryPositions.foldl
          (fun state position => state.note (.beganBootstrap position))
          (Run.enter monitor state .bootstrap)) :=
    Relayed.refl.foldl _ (fun _ _ => Relayed.refl.note rfl rfl) _
  obtain ⟨rest, hrelays⟩ :=
    hbegan.trans (relayed_goOnBootstrap monitor _ 0 none [])
  obtain ⟨verdict, hentered⟩ := Writes.enter monitor state .bootstrap
  have htranscript := hrelays.transcript
  rw [hentered.transcript] at htranscript
  refine ⟨verdict, rest, ?_⟩
  rw [List.reverse_cons, List.append_assoc]
  exact htranscript

theorem twins_blocked
    (hsighted : Sighted monitor world origin state entries)
    (hphase : state.phase = .dependencyWait) (blocker other : Nat) :
    Twins monitor world origin
      (Run.blocked (monitor.under .strict) state (.dependency blocker))
      (Run.blocked (monitor.under .ignoreReentry) state
        (.dependency other)) := by
  unfold Run.blocked
  simp only [Monitor.bootstrapLimit_under, hphase]
  cases monitor.timing.bootstrapLimit with
  | none => exact .same _
  | some limit =>
      by_cases hearly : state.now.instant - state.phaseEntered < limit
      · simp only [hearly, if_true]
        exact .same _
      · simp only [hearly, if_false]
        exact .overdue hsighted

theorem twins_parting
    (hsighted : Sighted monitor world origin state entries)
    (hphase : state.phase = .dependencyWait) {index : Nat}
    (hfull : monitor.dependencies.length ≤ index) (blocker : Nat) :
    Twins monitor world origin
      (Run.blocked (monitor.under .strict) state (.dependency blocker))
      (Run.enterBootstrap (monitor.under .ignoreReentry) state) := by
  obtain ⟨verdict, rest, hentered⟩ :=
    transcript_enterBootstrap (monitor.under .ignoreReentry) state
  have hcount :
      (monitor.under .strict).countIn state.phase ≤ index := by
    rw [hphase]
    exact hfull
  obtain ⟨late, hturn⟩ :=
    turn_blocked (monitor.under .strict) state hcount (.dependency blocker)
  have hwrites := hturn.writes
  refine .parted hsighted hwrites.transcript ?_ ?_ hentered
  · intro entry hmem
    exact Entry.notToldBefore_of_isAt (hwrites.instants entry hmem)
  · exact Nat.le_of_eq (congrArg Moment.instant hwrites.now).symm

/-- A pass that is blocked for the strict run, for whatever reason for the
other. -/
theorem twins_goOnDependencies
    (hsighted : Sighted monitor world origin state entries)
    (hphase : state.phase = .dependencyWait) (index blocker : Nat)
    (eased : Option Nat) :
    Twins monitor world origin
      (Run.goOnDependencies (monitor.under .strict) state index (some blocker))
      (Run.goOnDependencies (monitor.under .ignoreReentry) state index
        eased) := by
  simp only [Run.goOnDependencies, Monitor.dependencies_under]
  by_cases hrange : index < monitor.dependencies.length
  · simp only [hrange, if_true]
    exact .eased hsighted
  · simp only [hrange, if_false]
    cases eased with
    | some other => exact twins_blocked hsighted hphase blocker other
    | none =>
        exact twins_parting hsighted hphase (Nat.le_of_not_lt hrange) blocker

/-- A ping of a pass that is blocked for the strict run already. -/
theorem twins_answerEased
    (hsighted : Sighted monitor world origin state entries)
    (hphase : state.phase = .dependencyWait) (index blocker : Nat)
    (eased : Option Nat) (probe : Probe) (safeMode : Bool)
    (outcome : PingOutcome) :
    Twins monitor world origin
      (Run.answerDependencies (monitor.under .strict) state index
        (some blocker) probe safeMode outcome)
      (Run.answerDependencies (monitor.under .ignoreReentry) state index eased
        probe safeMode outcome) := by
  cases outcome with
  | completed status =>
      rw [Run.answerDependencies_completed, Run.answerDependencies_completed,
        Option.some_or, ite_self]
      apply twins_goOnDependencies
      · exact hsighted.congr (State.transcript_modifySlot ..)
      · exact (State.phase_modifySlot ..).trans hphase
  | timedOut => exact twins_goOnDependencies hsighted hphase _ _ _
  | aborted abort => exact .same _

/-- A ping of a pass that has gone the same way so far. -/
theorem twins_answerDependencies
    {before : State σ} {ping : Ping} {index : Nat} {outcome : PingOutcome}
    (htranscript : before.transcript = entries.reverse ++ origin.transcript)
    (hbefore : BeforeBootstrap entries)
    (hlatched : Latched monitor world before (pingsIn entries))
    (hrecorded : Recorded before ping state)
    (hphase : before.phase = .dependencyWait)
    (hposition : ping.position = .dependency index)
    (houtcome : ping.outcome = some outcome) (blocker : Option Nat)
    (probe : Probe) :
    Twins monitor world origin
      (Run.answerDependencies (monitor.under .strict) state index blocker
        probe (world.call ping.position ping.number).safeMode outcome)
      (Run.answerDependencies (monitor.under .ignoreReentry) state index
        blocker probe (world.call ping.position ping.number).safeMode
        outcome) := by
  cases outcome with
  | completed status =>
      rw [Run.answerDependencies_completed, Run.answerDependencies_completed]
      rcases Run.satisfied_cases probe
          ((state.slot? (.dependency index)).getD {})
          (status.inPhase state.phase)
          (world.call ping.position ping.number).safeMode with
        hagree | ⟨hsuccess, hsafeMode, hleft, hrefused⟩
      · rw [hagree]
        exact .same _
      · have hsucceeded : ping.succeeded = true :=
          (Ping.succeeded_of_completed houtcome).trans hsuccess
        have hsighted := sighted_of_latched htranscript hbefore hlatched
          hrecorded hposition hsucceeded hsafeMode hleft
        have hblocked : ∃ first, blocker.or (some index) = some first := by
          cases blocker with
          | none => exact ⟨index, rfl⟩
          | some first => exact ⟨first, rfl⟩
        obtain ⟨first, hfirst⟩ := hblocked
        rw [hrefused, if_neg Bool.false_ne_true, hfirst]
        apply twins_goOnDependencies
        · exact hsighted.congr (State.transcript_modifySlot ..)
        · rw [State.phase_modifySlot, hrecorded.phase, hphase]
  | timedOut => exact .same _
  | aborted abort => exact .same _

theorem Standing.phase_eq
    {pass : Pass}
    (hstanding : Standing monitor world origin state pass entries) :
    pass.phase = state.phase := by
  cases hstanding with
  | waiting hlog hroom hphase hclean => exact hphase.symm
  | booting hlog hroom hphase hclean => exact hphase.symm
  | living hlog hroom hphase hclean => exact hphase.symm

theorem Standing.beforeBootstrap
    {pass : Pass} (hstanding : Standing monitor world origin state pass entries)
    (hphase : state.phase = .dependencyWait) :
    BeforeBootstrap entries := by
  cases hstanding with
  | waiting hlog hroom _ hclean => exact hlog.beforeBootstrap
  | booting hlog hroom hother hclean => exact nomatch hother.symm.trans hphase
  | living hlog hroom hother hclean => exact nomatch hother.symm.trans hphase

theorem Accounted.sound
    (haccounted : Accounted monitor world origin run) : run.Sound monitor := by
  obtain ⟨entries, haccounts⟩ := haccounted
  intro pass hcontrol
  cases haccounts with
  | ping hcontinues hclosed hstanding hprobe =>
      obtain rfl := Control.ping.inj hcontrol
      exact ⟨hstanding.phase_eq, hprobe⟩
  | pause hcontinues hclosed hstanding hfirst => exact nomatch hcontrol
  | ended hcontinues hlog => exact nomatch hcontrol

theorem twins_step_same
    (hfresh : monitor.Fresh origin)
    (haccounted : Accounted (monitor.under .strict) world origin run) :
    Twins monitor world origin
      (Run.step (monitor.under .strict) world none run)
      (Run.step (monitor.under .ignoreReentry) world none run) := by
  obtain ⟨entries, haccounts⟩ := haccounted
  -- Nothing but the answer of a dependency is judged by the policy; all else
  -- is the same step by definition.
  cases haccounts with
  | ended hcontinues hlog => exact .same _
  | pause hcontinues hclosed hstanding hfirst => exact .same _
  | @ping state pass entries hcontinues hclosed hstanding hprobe =>
      obtain ⟨probe, hprobe⟩ := hprobe
      rw [Monitor.probe?_under] at hprobe
      simp only [Run.step, Monitor.probe?_under, hprobe, Run.stepPing_eq,
        Run.stoppedBefore_none]
      have hphase := hstanding.phase_eq
      cases pass with
      | dependencies index blocker =>
          have hrecorded :=
            recorded_afterAnswer world state (.dependencies index blocker) probe
          have hknown := hcontinues.latched (hfresh.under .strict)
          have hlatched : Latched monitor world state (pingsIn entries) :=
            hknown
          exact twins_answerDependencies hcontinues.transcript
            (hstanding.beforeBootstrap hphase.symm) hlatched hrecorded
            hphase.symm rfl rfl blocker probe
      | bootstrap index blocker seen => exact .same _
      | live index clean => exact .same _

theorem Stride.notToldBefore
    {next : Run σ} {more : List Entry}
    (hstride : Stride monitor world none run next more) :
    ∀ entry ∈ more, entry.NotToldBefore run.state.now.instant := by
  have hlater := hstride.now_le
  have hwritten : ∀ {before other : State σ} {entries : List Entry},
      Writes before other entries →
        run.state.now.instant ≤ other.now.instant →
        ∀ entry ∈ entries, entry.NotToldBefore run.state.now.instant := by
    intro before other entries hwrites hle entry hmem
    rw [hwrites.now] at hle
    exact (Entry.notToldBefore_of_isAt (hwrites.instants entry hmem)).mono hle
  cases hstride with
  | woken _ hturn => exact hwritten hturn.writes hlater
  | answered _ _ _ hturn =>
      rw [List.forall_mem_cons]
      exact ⟨trivial, hwritten hturn.writes hlater⟩
  | broken _ _ hstopped _ _ =>
      exact absurd hstopped (Run.stoppedBefore_none_ne _ _ _)
  | stopped _ _ hstop _ =>
      obtain ⟨wake, hstop⟩ := hstop
      exact absurd hstop (Run.stoppedBefore_none_ne _ _ _)

/-- Two runs that have parted go each their own way. -/
theorem twins_step_parted
    {late rest : List Entry} {verdict : Verdict}
    (haccounted : Accounted (monitor.under .strict) world origin strict)
    (hsighted : Sighted monitor world origin state entries)
    (hstrict : strict.state.transcript = late.reverse ++ state.transcript)
    (hlate : ∀ entry ∈ late, entry.NotToldBefore state.now.instant)
    (hnow : state.now.instant ≤ strict.state.now.instant)
    (hrun : run.state.transcript =
      (.told state.now.instant (.phase .bootstrap) verdict :: rest).reverse ++
        state.transcript) :
    Twins monitor world origin
      (Run.step (monitor.under .strict) world none strict)
      (Run.step (monitor.under .ignoreReentry) world none run) := by
  obtain ⟨more, hrelays⟩ :=
    relayed_step (monitor.under .ignoreReentry) world none run
  have hwritten :
      (Run.step (monitor.under .ignoreReentry) world none
          run).state.transcript =
        (.told state.now.instant (.phase .bootstrap) verdict ::
            (rest ++ more)).reverse ++
          state.transcript := by
    rw [hrelays.transcript, hrun]
    simp
  by_cases hended : ∃ exit, strict.control = .ended exit
  · obtain ⟨exit, hended⟩ := hended
    have hstays :
        Run.step (monitor.under .strict) world none strict = strict := by
      simp only [Run.step, hended]
    rw [hstays]
    exact .parted hsighted hstrict hlate hnow hwritten
  · obtain ⟨steps, hstride⟩ :=
      stride_step world none haccounted.sound fun exit hexit =>
        hended ⟨exit, hexit⟩
    have hstrode :
        (Run.step (monitor.under .strict) world none strict).state.transcript =
          (late ++ steps).reverse ++ state.transcript := by
      rw [hstride.transcript, hstrict]
      simp
    refine .parted hsighted hstrode ?_ (Nat.le_trans hnow hstride.now_le)
      hwritten
    rw [List.forall_mem_append]
    refine ⟨hlate, fun entry hmem => ?_⟩
    exact (hstride.notToldBefore entry hmem).mono hnow

theorem twins_step
    (hfresh : monitor.Fresh origin)
    (haccounted : Accounted (monitor.under .strict) world origin strict)
    (htwins : Twins monitor world origin strict run) :
    Twins monitor world origin
      (Run.step (monitor.under .strict) world none strict)
      (Run.step (monitor.under .ignoreReentry) world none run) := by
  cases htwins with
  | same run => exact twins_step_same hfresh haccounted
  | @eased state entries index blocker eased hsighted =>
      obtain ⟨written, haccounts⟩ := haccounted
      cases haccounts with
      | ping hcontinues hclosed hstanding hprobe =>
          obtain ⟨probe, hprobe⟩ := hprobe
          have hposition : monitor.probe? (.dependency index) = some probe :=
            hprobe
          simp only [Run.step, Pass.position, Monitor.probe?_under, hposition,
            Run.stepPing_eq, Run.stoppedBefore_none]
          have hpinged := recorded_afterAnswer world state
            (.dependencies index (some blocker)) probe
          apply twins_answerEased
          · exact hsighted.pinged hpinged
          · exact hpinged.phase.trans hstanding.phase_eq.symm
  | overdue hsighted => exact .overdue hsighted
  | parted hsighted hstrict hlate hnow hrun =>
      exact twins_step_parted haccounted hsighted hstrict hlate hnow hrun

theorem twins_play
    (hfresh : monitor.Fresh origin) (fuel : Nat)
    (haccounted : Accounted (monitor.under .strict) world origin strict)
    (htwins : Twins monitor world origin strict run) :
    Twins monitor world origin
      (Run.play (monitor.under .strict) world none fuel strict)
      (Run.play (monitor.under .ignoreReentry) world none fuel run) := by
  induction fuel generalizing strict run with
  | zero => exact htwins
  | succ fuel ih =>
      rw [Run.play_succ, Run.play_succ]
      exact ih (accounted_step none haccounted)
        (twins_step hfresh haccounted htwins)

end Stepping

/-! ## The main statement -/

section Records

variable {monitor : Monitor σ} {world : World} {origin : State σ}
  {strict run : Run σ} {entries : List Entry}

/-- A run that the limit has ended in the wait never began its bootstrap. -/
theorem RunLog.phase_notMem
    {probe : String} {elapsed : Nat} {last : Option Status}
    (hlog : RunLog monitor world origin
      (some (.bootstrapTimedOut .dependencyWait probe elapsed last)) entries) :
    .phase .bootstrap ∉ callbacksIn entries := by
  cases hlog with
  | waiting hlog hroom hstop =>
      exact absurd rfl (hstop.isBreak.ne_limit _ _ _)
  | waitTimedOut hlog hfull hblocked =>
      simpa using hlog.beforeBootstrap.phase_notMem
  | booting hlog hroom hstop =>
      exact absurd rfl (hstop.isBreak.ne_limit _ _ _)
  | living hlog htail => exact absurd rfl (htail.ne_limit _ _ _)

theorem Sighted.since_eq
    {state other : State σ} {more : List Entry}
    (hsighted : Sighted monitor world origin state entries)
    (htranscript : other.transcript = more.reverse ++ state.transcript) :
    other.since origin = entries ++ more := by
  apply State.since_eq
  rw [htranscript, hsighted.transcript]
  simp

theorem State.transcript_tell
    (state : State σ) (monitor : Monitor σ) (callback : Callback) :
    (state.tell monitor callback).transcript =
      [.told state.now.instant callback
        (state.verdict monitor callback)].reverse ++ state.transcript := rfl

/-- Twins that differ have both seen a re-entry. -/
theorem Twins.eq_or_reentered
    (htwins : Twins monitor world origin strict run) :
    strict = run ∨
      Reentered monitor world (pingsIn (strict.state.since origin)) ∧
        Reentered monitor world (pingsIn (run.state.since origin)) := by
  have hseen : ∀ {state other : State σ} {entries more : List Entry},
      Sighted monitor world origin state entries →
        other.transcript = more.reverse ++ state.transcript →
        Reentered monitor world (pingsIn (other.since origin)) := by
    intro state other entries more hsighted htranscript
    rw [hsighted.since_eq htranscript, pingsIn_append]
    exact hsighted.reentered.append _
  cases htwins with
  | same run => exact .inl rfl
  | @eased state _ _ _ _ hsighted =>
      have hstate : state.transcript = [].reverse ++ state.transcript := rfl
      exact .inr ⟨hseen hsighted hstate, hseen hsighted hstate⟩
  | overdue hsighted =>
      exact .inr
        ⟨hseen hsighted (State.transcript_tell _ monitor _),
          hseen hsighted (State.transcript_tell _ monitor _)⟩
  | parted hsighted hstrict hlate hnow hrun =>
      exact .inr ⟨hseen hsighted hstrict, hseen hsighted hrun⟩

theorem Twins.enters
    (htwins : Twins monitor world origin strict run)
    {before after : List Entry} {instant : Nat} {verdict : Verdict}
    (hsplit : strict.state.since origin =
      before ++ .told instant (.phase .bootstrap) verdict :: after) :
    ∃ sooner time answer later,
      run.state.since origin =
          sooner ++ .told time (.phase .bootstrap) answer :: later ∧
        passesBegun (pingsIn sooner) ≤ passesBegun (pingsIn before) ∧
        time ≤ instant := by
  have hentered :
      .phase .bootstrap ∈ callbacksIn (strict.state.since origin) := by
    simp [hsplit]
  cases htwins with
  | same run =>
      exact ⟨before, instant, verdict, after, hsplit, Nat.le_refl _,
        Nat.le_refl _⟩
  | @eased state entries index blocker eased hsighted =>
      have hstate : state.transcript = [].reverse ++ state.transcript := rfl
      rw [hsighted.since_eq hstate, List.append_nil] at hentered
      exact absurd hentered hsighted.waiting
  | overdue hsighted =>
      rw [hsighted.since_eq (State.transcript_tell _ monitor _)] at hentered
      simp [hsighted.waiting] at hentered
  | @parted state entries late rest answer strict run hsighted hstrict hlate
      hnow hrun =>
      rw [hsighted.since_eq hstrict] at hsplit
      refine ⟨entries, state.now.instant, answer, rest,
        hsighted.since_eq hrun, ?_⟩
      rcases append_split hsplit with
        ⟨rest, -, hfirst⟩ | ⟨front, rfl, hsecond⟩
      · have hmem : .phase .bootstrap ∈ callbacksIn entries := by
          simp [hfirst]
        exact absurd hmem hsighted.waiting
      · have hmem : .told instant (.phase .bootstrap) verdict ∈ late := by
          simp [hsecond]
        refine ⟨?_, hlate _ hmem⟩
        rw [pingsIn_append, passesBegun_append]
        exact Nat.le_add_right _ _

theorem Twins.expires
    (htwins : Twins monitor world origin strict run)
    (hlog : RunLog (monitor.under .ignoreReentry) world origin run.exit?
      (run.state.since origin))
    {probe : String} {elapsed : Nat} {last : Option Status}
    (hexit : run.exit? =
      some (.bootstrapTimedOut .dependencyWait probe elapsed last)) :
    (∃ blocker seen,
      strict.exit? =
        some (.bootstrapTimedOut .dependencyWait blocker elapsed seen)) ∧
      pingsIn (strict.state.since origin) =
        pingsIn (run.state.since origin) := by
  cases htwins with
  | same run => exact ⟨⟨probe, last, hexit⟩, rfl⟩
  | eased hsighted => exact nomatch hexit
  | @overdue state entries waited blocker other seen _ hsighted =>
      obtain ⟨-, -, rfl, -⟩ :=
        RunExit.bootstrapTimedOut.inj (Option.some.inj hexit)
      refine ⟨⟨blocker, seen, rfl⟩, ?_⟩
      rw [hsighted.since_eq (State.transcript_tell _ monitor _),
        hsighted.since_eq (State.transcript_tell _ monitor _)]
      simp
  | parted hsighted hstrict hlate hnow hrun =>
      rw [hexit, hsighted.since_eq hrun] at hlog
      exact absurd hlog.phase_notMem (by simp)

end Records

/-- A run that ignores re-entries into safe mode is never behind a strict one,
and differs from it only once there was a re-entry. -/
theorem run_eased
    {monitor : Monitor σ} {world : World} {fuel : Nat}
    {origin strictFinal final : State σ} {strictExit exit : Option RunExit}
    (hfresh : monitor.Fresh origin)
    (hstrict :
      (monitor.under .strict).run world none fuel origin =
        (.ok strictExit, strictFinal))
    (hrun :
      (monitor.under .ignoreReentry).run world none fuel origin =
        (.ok exit, final)) :
    EasedRecord monitor world origin strictExit exit strictFinal final := by
  have hlog := (run_log hrun).2
  obtain ⟨control, hplayed, rfl⟩ := played_of_run hrun
  obtain ⟨strictControl, hstrictPlayed, rfl⟩ := played_of_run hstrict
  have htwins :=
    twins_play hfresh fuel accounted_begin
      (.same (Run.begin (monitor.under .strict) origin) :
        Twins monitor world origin _ _)
  rw [hstrictPlayed, Run.begin_under monitor .strict .ignoreReentry, hplayed]
    at htwins
  constructor
  case enters =>
    intro before instant verdict after hsplit
    exact htwins.enters hsplit
  case expires =>
    intro probe elapsed last hexit
    exact htwins.expires hlog hexit
  case agrees =>
    intro hnone
    rcases htwins.eq_or_reentered with hsame | ⟨hstrict, hrun⟩
    · obtain ⟨rfl, rfl⟩ := Run.mk.inj hsame
      exact ⟨rfl, rfl⟩
    · rcases hnone with hcalm | hcalm
      · exact absurd hstrict hcalm
      · exact absurd hrun hcalm

/-! ## An example -/

namespace Sample

/-- A service that depends on a store with a safe mode and on its peer. -/
def guarded : Monitor Unit where
  name := "service"
  dependencies := [{ name := "store", hasSafeMode := true }, { name := "peer" }]
  primaries := [{ name := "http" }]
  timing := { bootstrapLimit := some 5000 }
  reporter := .default

/-- The store goes back into safe mode before its peer comes up. -/
def relapse : World where
  call
    | .dependency 0, number =>
        { ending := .status (.up "store" "ready"), safeMode := number != 0 }
    | .dependency _, number =>
        if number < 2 then { ending := .status (.down "peer" "refused") }
        else { ending := .status (.up "peer" "ready") }
    | .primary _, _ => { ending := .status (.up "http" "ok") }

def guardedStart : State Unit :=
  (guarded.perform relapse 0 (.initial guarded ()) .start).2

theorem guarded_fresh : guarded.Fresh guardedStart :=
  .performed (.built rfl) relapse 0 rfl

/-- The guarded service after twelve steps under a policy. -/
def guardedEnd (policy : SafeModePolicy) : State Unit :=
  ((guarded.under policy).run relapse none 12 guardedStart).2

theorem guarded_strict :
    (guarded.under .strict).run relapse none 12 guardedStart =
      (.ok (some (.bootstrapTimedOut .dependencyWait "store" 6000
          (some (Status.inPhase (.up "store" "ready") .dependencyWait)))),
        guardedEnd .strict) := rfl

theorem guarded_ignoreReentry :
    (guarded.under .ignoreReentry).run relapse none 12 guardedStart =
      (.ok none, guardedEnd .ignoreReentry) := rfl

end Sample

/-- The strict run waits until its limit; the other one has gone live. -/
theorem run_eased_sample :
    EasedRecord Sample.guarded Sample.relapse Sample.guardedStart
        (some (.bootstrapTimedOut .dependencyWait "store" 6000
          (some (Status.inPhase (.up "store" "ready") .dependencyWait))))
        none (Sample.guardedEnd .strict) (Sample.guardedEnd .ignoreReentry) ∧
      (Sample.guardedEnd .ignoreReentry).phase = .live :=
  ⟨run_eased Sample.guarded_fresh Sample.guarded_strict
    Sample.guarded_ignoreReentry, rfl⟩

end HealthMonitor
