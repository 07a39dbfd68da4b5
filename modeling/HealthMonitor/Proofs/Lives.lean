import HealthMonitor.Proofs.Relay
import HealthMonitor.Proofs.RunExits
import HealthMonitor.Proofs.Shutdown

/-!
# The life of a monitor

A monitor is prepared, started, run and closed in any order, and as often as one
likes.  Whatever the order, its reporter hears one farewell if the monitor was
closed or shut down and none otherwise, and a run is refused exactly if the last
start before it was refused or there was none.  The main statement is
`life_record`.
-/

namespace HealthMonitor

variable {σ : Type}

namespace Monitor

/-- An operation with the world that it meets and the steps that a run may
take. -/
structure Deed where
  operation : Operation
  world : World
  fuel : Nat

/-- An operation that was performed, and what it answered. -/
structure Step where
  operation : Operation
  answer : Answer
  deriving DecidableEq

/-- Whether a step was a close, or a run that was shut down. -/
def Step.closes : Step → Bool
  | ⟨.close, _⟩ | ⟨.run _, .exited (some .shutdown)⟩ => true
  | _ => false

/-- Whether a start was accepted; `none` for every other step. -/
def Step.accepted? : Step → Option Bool
  | ⟨.start, .started accepted⟩ => some accepted
  | _ => none

def performDeed (monitor : Monitor σ) (state : State σ) (deed : Deed) :
    Answer × State σ :=
  monitor.perform deed.world deed.fuel state deed.operation

/-- The state that some deeds lead to. -/
def after (monitor : Monitor σ) (origin : State σ) (deeds : List Deed) :
    State σ :=
  deeds.foldl (fun state deed => (monitor.performDeed state deed).2) origin

/-- The steps that some deeds are, each with its answer. -/
def history (monitor : Monitor σ) : State σ → List Deed → List Step
  | _, [] => []
  | state, deed :: deeds =>
      let (answer, next) := monitor.performDeed state deed
      ⟨deed.operation, answer⟩ :: history monitor next deeds

/-- What holds of a monitor after any deeds, and of a run as the next of
them. -/
structure LifeRecord
    (monitor : Monitor σ) (origin : State σ) (deeds : List Deed) : Prop where
  farewells :
    farewellsIn (monitor.after origin deeds).transcript.reverse =
      if (monitor.history origin deeds).any Step.closes then 1 else 0
  /-- Whether a start was accepted is known of every start. -/
  starts : ∀ step ∈ monitor.history origin deeds,
    step.accepted? = none ↔ step.operation ≠ .start
  notStarted_iff : ∀ world fuel signal,
    (monitor.perform world fuel (monitor.after origin deeds)
          (.run signal)).1 = .refused (.notStarted monitor.name) ↔
      lastOf? Step.accepted? (monitor.history origin deeds) = none ∨
        lastOf? Step.accepted? (monitor.history origin deeds) = some false
  unchanged : ∀ world fuel signal error,
    (monitor.perform world fuel (monitor.after origin deeds)
          (.run signal)).1 = .refused error →
      (monitor.perform world fuel (monitor.after origin deeds)
          (.run signal)).2 = monitor.after origin deeds

theorem Step.closes_run (signal : ShutdownSignal) (exit : Option RunExit) :
    Step.closes ⟨.run signal, .exited exit⟩ =
      decide (exit = some .shutdown) := by
  cases exit with
  | none => rfl
  | some exit => cases exit <;> rfl

section Courses

variable {monitor : Monitor σ} {origin : State σ}

theorem after_concat (deeds : List Deed) (deed : Deed) :
    monitor.after origin (deeds ++ [deed]) =
      (monitor.performDeed (monitor.after origin deeds) deed).2 := by
  simp [after]

theorem history_concat (deeds : List Deed) (deed : Deed) :
    monitor.history origin (deeds ++ [deed]) =
      monitor.history origin deeds ++
        [⟨deed.operation,
          (monitor.performDeed (monitor.after origin deeds) deed).1⟩] := by
  induction deeds generalizing origin with
  | nil => rfl
  | cons first deeds ih => exact congrArg (List.cons _) ih

end Courses

end Monitor

/-! ## What a run does to the standing of a monitor -/

section Runs

variable {monitor : Monitor σ} {world : World} {origin : State σ}
  {entries : List Entry}

theorem GoesOn.unregister_notMem (hgoes : GoesOn entries) :
    .unregister ∉ callbacksIn entries := by
  intro hmem
  obtain ⟨entry, hentry, hcallback⟩ := List.mem_filterMap.mp hmem
  cases entry with
  | told instant callback verdict =>
      obtain rfl := Option.some.inj hcallback
      exact hgoes _ hentry .unregistered
  | pinged ping => exact nomatch hcallback
  | prepared position => exact nomatch hcallback
  | beganBootstrap position => exact nomatch hcallback
  | endedBootstrap position => exact nomatch hcallback

theorem Interrupted.callbacksIn_eq_nil
    {position : Position} {live : Bool} {exit : Option RunExit}
    {tail : List Entry}
    (hstop : Interrupted origin position live exit tail)
    (hexit : exit ≠ some .shutdown) :
    callbacksIn tail = [] := by
  cases hstop with
  | underway => rfl
  | shutDown htail => exact absurd rfl hexit
  | cutShort hposition hlive houtcome htail => exact absurd rfl hexit
  | aborted hposition hlive houtcome => rfl

/-- A run that is not shut down does not say farewell. -/
theorem RunLog.unregister_notMem
    {exit : Option RunExit} (hlog : RunLog monitor world origin exit entries)
    (hexit : exit ≠ some .shutdown) :
    .unregister ∉ callbacksIn entries := by
  cases hlog with
  | waiting hlog hroom hstop =>
      rw [callbacksIn_append, hstop.callbacksIn_eq_nil hexit, List.append_nil]
      exact hlog.goesOn.unregister_notMem
  | waitTimedOut hlog hfull hblocked =>
      simp [hlog.goesOn.unregister_notMem]
  | booting hlog hroom hstop =>
      rw [callbacksIn_append, hstop.callbacksIn_eq_nil hexit, List.append_nil]
      exact hlog.goesOn.unregister_notMem
  | bootTimedOut hlog hfull hblocked =>
      simp [hlog.goesOn.unregister_notMem]
  | living hlog htail =>
      have hquiet := hlog.goesOn.unregister_notMem
      cases htail with
      | stopped hroom hstop =>
          rwa [callbacksIn_append, hstop.callbacksIn_eq_nil hexit,
            List.append_nil]
      | failed hposition hlive houtcome hsuccess => simp [hquiet]
      | hung hposition hlive houtcome => simp [hquiet]
      | completed hfull hclean hbefore => simp [hquiet]

theorem Journey.closed_of_shutDown
    {stop : Option Nat} {run : Run σ}
    (hjourney : Journey monitor world stop origin run entries)
    (hcontrol : run.control = .ended .shutdown) :
    run.state.closed = true := by
  cases hjourney with
  | opened hopens => exact absurd hcontrol hopens.control_ne
  | strode hjourney hstride =>
      cases hstride with
      | woken _ hturn => exact absurd hcontrol hturn.control_ne
      | answered _ _ _ hturn => exact absurd hcontrol hturn.control_ne
      | broken _ _ _ _ _ => exact State.closed_close _ _
      | stopped _ _ _ _ => exact State.closed_close _ _

/-- Only a shutdown closes a monitor in a run. -/
theorem run_closed
    {stop : Option Nat} {fuel : Nat} {exit : Option RunExit} {final : State σ}
    (hrun : monitor.run world stop fuel origin = (.ok exit, final)) :
    final.closed = (origin.closed || exit = some .shutdown) := by
  by_cases hexit : exit = some .shutdown
  · obtain ⟨control, hended, hjourney⟩ := run_journey hrun
    have hcontrol := Run.control_of_exit? (hended.trans hexit)
    rw [hjourney.closed_of_shutDown hcontrol, decide_eq_true hexit,
      Bool.or_true]
  · have hnone : farewellsIn (final.since origin) = 0 :=
      List.count_eq_zero.mpr ((run_log hrun).2.unregister_notMem hexit)
    have hfarewells := (run_relays hrun).farewells
    rw [hnone, Nat.zero_add] at hfarewells
    rw [decide_eq_false hexit, Bool.or_false]
    cases horigin : origin.closed with
    | false =>
        cases hfinal : final.closed with
        | false => rfl
        | true => simp [horigin, hfinal] at hfarewells
    | true =>
        cases hfinal : final.closed with
        | false => simp [horigin, hfinal] at hfarewells
        | true => rfl

theorem perform_run_idle
    (hidle : origin.started = false) (signal : ShutdownSignal) (fuel : Nat) :
    monitor.perform world fuel origin (.run signal) =
      (.refused (.notStarted monitor.name), origin) := by
  simp [Monitor.perform, Monitor.run, hidle]

end Runs

/-! ## Lives -/

namespace Monitor

/-- What a monitor keeps to in any life: it knows how its last start went and
whether it is closed, and it said farewell when it was closed and not before. -/
structure Keeps (state : State σ) (steps : List Step) : Prop where
  started : state.started = (lastOf? Step.accepted? steps).getD false
  closed : state.closed = steps.any Step.closes
  farewells : farewellsIn state.transcript.reverse = state.closed.toNat

section Lives

variable {monitor : Monitor σ} {origin state : State σ} {steps : List Step}

theorem keeps_built
    {reporter : σ} (hbuilt : monitor.build? reporter = .ok origin) :
    Keeps origin [] := by
  rw [build?_eq_ok hbuilt]
  exact ⟨rfl, rfl, rfl⟩

/-- A step that is no start and does not close the monitor changes nothing that
it keeps to, unless it tells the reporter something. -/
theorem Keeps.idle
    (hkeeps : Keeps state steps) {next : State σ} {step : Step}
    (haccepted : step.accepted? = none) (hcloses : step.closes = false)
    (hstarted : next.started = state.started)
    (hclosed : next.closed = state.closed)
    (hfarewells :
      farewellsIn next.transcript.reverse =
        farewellsIn state.transcript.reverse) :
    Keeps next (steps ++ [step]) where
  started := by
    rw [lastOf?_append, lastOf?_singleton, haccepted, hstarted, hkeeps.started]
    rfl
  closed := by simp [hcloses, hclosed, hkeeps.closed]
  farewells := by rw [hfarewells, hclosed, hkeeps.farewells]

theorem farewellsIn_of_relays
    {next : State σ} {entries : List Entry}
    (hrelays : Relays monitor state next entries)
    (hfarewells :
      farewellsIn state.transcript.reverse = state.closed.toNat) :
    farewellsIn next.transcript.reverse = next.closed.toNat := by
  rw [hrelays.transcript, List.reverse_append, List.reverse_reverse,
    farewellsIn_append, hfarewells, ← hrelays.farewells, Nat.add_comm]

theorem Keeps.prepare
    (hkeeps : Keeps state steps) (world : World) (fuel : Nat) :
    Keeps (monitor.perform world fuel state .prepare).2
      (steps ++
        [⟨.prepare, (monitor.perform world fuel state .prepare).1⟩]) := by
  apply hkeeps.idle rfl rfl
  · rw [perform_prepare_snd, prepareFrom_keeps State.started fun _ _ => rfl]
  · rw [perform_prepare_snd, prepareFrom_keeps State.closed fun _ _ => rfl]
  · rw [perform_prepare_snd,
      prepareFrom_keeps (fun state => farewellsIn state.transcript.reverse)]
    intro state position
    rw [State.note, List.reverse_cons, farewellsIn_append]
    rfl

theorem Keeps.start
    (hkeeps : Keeps state steps) (world : World) (fuel : Nat) :
    Keeps (monitor.perform world fuel state .start).2
      (steps ++ [⟨.start, (monitor.perform world fuel state .start).1⟩]) where
  started := by
    rw [lastOf?_append, lastOf?_singleton]
    rfl
  closed := by
    rw [List.any_append, ← hkeeps.closed]
    simp [Step.closes, perform, Monitor.start, State.ask, State.note]
  farewells := by
    simp only [perform, Monitor.start, State.ask, State.note,
      List.reverse_cons, farewellsIn_append, hkeeps.farewells]
    rfl

theorem Keeps.run
    (hkeeps : Keeps state steps) (world : World) (fuel : Nat)
    (signal : ShutdownSignal) :
    Keeps (monitor.perform world fuel state (.run signal)).2
      (steps ++
        [⟨.run signal,
          (monitor.perform world fuel state (.run signal)).1⟩]) := by
  simp only [perform]
  split
  next exit final hrun =>
    have hrelays := run_relays hrun
    constructor
    case started =>
      rw [lastOf?_append, lastOf?_singleton, hrelays.started, hkeeps.started]
      rfl
    case closed =>
      rw [run_closed hrun, List.any_append, List.any_cons, List.any_nil,
        Step.closes_run, ← hkeeps.closed, Bool.or_false]
    case farewells => exact farewellsIn_of_relays hrelays hkeeps.farewells
  next error final hrun =>
    rw [run_refused hrun]
    exact hkeeps.idle rfl rfl rfl rfl rfl

theorem Keeps.close
    (hkeeps : Keeps state steps) (world : World) (fuel : Nat) :
    Keeps (monitor.perform world fuel state .close).2
      (steps ++ [⟨.close, (monitor.perform world fuel state .close).1⟩]) := by
  have hclosing : Relayed monitor state (state.close monitor) :=
    Relayed.refl.close
  obtain ⟨entries, hrelays⟩ := hclosing
  constructor
  case started =>
    rw [lastOf?_append, lastOf?_singleton]
    exact hrelays.started.trans hkeeps.started
  case closed =>
    rw [List.any_append]
    exact (State.closed_close monitor state).trans (Bool.or_true _).symm
  case farewells => exact farewellsIn_of_relays hrelays hkeeps.farewells

theorem Keeps.perform
    (hkeeps : Keeps state steps) (deed : Deed) :
    Keeps (monitor.performDeed state deed).2
      (steps ++ [⟨deed.operation, (monitor.performDeed state deed).1⟩]) := by
  obtain ⟨operation, world, fuel⟩ := deed
  cases operation with
  | prepare => exact hkeeps.prepare world fuel
  | start => exact hkeeps.start world fuel
  | run signal => exact hkeeps.run world fuel signal
  | close => exact hkeeps.close world fuel
  | sleep wait => exact hkeeps.idle rfl rfl rfl rfl rfl

theorem accepted?_eq_none_iff (deeds : List Deed) :
    ∀ step ∈ monitor.history origin deeds,
      step.accepted? = none ↔ step.operation ≠ .start := by
  induction deeds generalizing origin with
  | nil => exact List.forall_mem_nil _
  | cons deed deeds ih =>
      rw [history, List.forall_mem_cons]
      refine ⟨?_, ih⟩
      obtain ⟨operation, world, fuel⟩ := deed
      cases operation with
      | start => exact iff_of_false nofun (absurd rfl)
      | prepare => exact iff_of_true rfl nofun
      | run signal => exact iff_of_true rfl nofun
      | close => exact iff_of_true rfl nofun
      | sleep wait => exact iff_of_true rfl nofun

theorem keeps_after
    {reporter : σ} (hbuilt : monitor.build? reporter = .ok origin)
    (deeds : List Deed) :
    Keeps (monitor.after origin deeds) (monitor.history origin deeds) := by
  induction deeds using List.reverseRecOn with
  | nil => exact keeps_built hbuilt
  | append_singleton deeds deed ih =>
      rw [after_concat, history_concat]
      exact ih.perform deed

end Lives

end Monitor

/-- In whatever order a monitor that was built is prepared, started, run and
closed: its reporter hears of one unregistration if the monitor was closed or a
run was shut down, and of none otherwise; and a run is refused, and leaves all
as it was, if and only if the last start was refused or there was none. -/
theorem life_record
    {monitor : Monitor σ} {reporter : σ} {origin : State σ}
    (hbuilt : monitor.build? reporter = .ok origin)
    (deeds : List Monitor.Deed) :
    monitor.LifeRecord origin deeds := by
  have hkeeps := Monitor.keeps_after hbuilt deeds
  constructor
  case farewells =>
    rw [hkeeps.farewells, hkeeps.closed]
    exact Bool.cond_eq_ite ..
  case starts => exact Monitor.accepted?_eq_none_iff deeds
  case notStarted_iff =>
    intro world fuel signal
    cases hlast :
        lastOf? Monitor.Step.accepted? (monitor.history origin deeds) with
    | none =>
        rw [perform_run_idle (by rw [hkeeps.started, hlast]; rfl)]
        simp
    | some accepted =>
        cases accepted with
        | false =>
            rw [perform_run_idle (by rw [hkeeps.started, hlast]; rfl)]
            simp
        | true =>
            rw [perform_run (by rw [hkeeps.started, hlast]; rfl)]
            simp
  case unchanged =>
    intro world fuel signal error hrefused
    cases hstarted : (monitor.after origin deeds).started with
    | false => rw [perform_run_idle hstarted]
    | true =>
        rw [perform_run hstarted] at hrefused
        exact nomatch hrefused

/-! ## An example -/

namespace Sample

/-- A run before the start, one that is shut down after it, and two closes. -/
def deeds : List Monitor.Deed :=
  [⟨.prepare, world, 0⟩, ⟨.run {}, world, 9⟩, ⟨.start, world, 0⟩,
    ⟨.run { events := [(67000, .sent true)] }, world, 40⟩, ⟨.close, world, 0⟩,
    ⟨.close, world, 0⟩]

end Sample

theorem life_record_sample :
    Sample.monitor.LifeRecord (.initial Sample.monitor ()) Sample.deeds ∧
      farewellsIn
        (Sample.monitor.after (.initial Sample.monitor ())
          Sample.deeds).transcript.reverse = 1 := by
  have hrecord :
      Sample.monitor.LifeRecord (.initial Sample.monitor ()) Sample.deeds :=
    life_record rfl Sample.deeds
  refine ⟨hrecord, ?_⟩
  rw [hrecord.farewells]
  rfl

end HealthMonitor
