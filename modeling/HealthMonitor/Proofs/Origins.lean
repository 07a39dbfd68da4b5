import HealthMonitor.Proofs.Runs

/-!
# Where runs start

A monitor is built and then goes through the steps of its life in any order.
Until its first run, unless it is closed, it keeps what a run goes by as it
was built: it is not closed, its slots are empty, and its last live pass
counts as clean.
-/

namespace HealthMonitor

variable {σ : Type}

namespace Monitor

/-- The states that the life of a monitor can lead to. -/
inductive Reachable (monitor : Monitor σ) : State σ → Prop
  | built {reporter : σ} {state : State σ}
      (hbuilt : monitor.build? reporter = .ok state) : Reachable monitor state
  | performed {state : State σ} (hreachable : Reachable monitor state)
      (world : World) (fuel : Nat) (operation : Operation) :
      Reachable monitor (monitor.perform world fuel state operation).2

def Operation.precedesRun : Operation → Bool
  | .prepare | .start | .sleep _ => true
  | .run _ | .close => false

/-- The states of a monitor that has neither run nor been closed. -/
inductive Fresh (monitor : Monitor σ) : State σ → Prop
  | built {reporter : σ} {state : State σ}
      (hbuilt : monitor.build? reporter = .ok state) : Fresh monitor state
  | performed {state : State σ} (hfresh : Fresh monitor state)
      (world : World) (fuel : Nat) {operation : Operation}
      (hoperation : operation.precedesRun = true) :
      Fresh monitor (monitor.perform world fuel state operation).2

variable {monitor : Monitor σ} {world : World} {state : State σ}

theorem build?_eq_ok
    {reporter : σ} (hbuilt : monitor.build? reporter = .ok state) :
    state = .initial monitor reporter := by
  unfold build? at hbuilt
  cases hvalid : monitor.timing.validate with
  | error fault =>
      rw [hvalid] at hbuilt
      exact nomatch hbuilt
  | ok _ =>
      rw [hvalid] at hbuilt
      exact (Except.ok.inj hbuilt).symm

/-- Preparing probes changes nothing but the transcript. -/
theorem prepareFrom_keeps
    {α : Type} (get : State σ → α)
    (hnote : ∀ state position,
      get (State.note state (.prepared position)) = get state)
    (positions : List Position) (state : State σ) :
    get (monitor.prepareFrom world positions state).2 = get state := by
  induction positions generalizing state with
  | nil => rfl
  | cons position positions ih =>
      simp only [prepareFrom]
      split
      next => exact hnote state _
      next => rw [ih, hnote]

theorem perform_prepare_snd (fuel : Nat) :
    (monitor.perform world fuel state .prepare).2 =
      (monitor.prepareFrom world monitor.positions state).2 := by
  simp only [perform, prepare]
  split
  next => simp_all
  next => simp_all

/-- What no operation before a run changes is as the monitor was built. -/
theorem Fresh.keeps
    {α : Type} (get : State σ → α) {value : α}
    (hinitial : ∀ reporter, get (.initial monitor reporter) = value)
    (hnote : ∀ state position,
      get (State.note state (.prepared position)) = get state)
    (hstart : ∀ state, get (monitor.start state).2 = get state)
    (hmove : ∀ state moment, get (State.moveTo state moment) = get state)
    (hfresh : monitor.Fresh state) :
    get state = value := by
  induction hfresh with
  | built hbuilt => rw [build?_eq_ok hbuilt, hinitial]
  | @performed state hfresh world fuel operation hoperation ih =>
      cases operation with
      | prepare => rw [perform_prepare_snd, prepareFrom_keeps get hnote, ih]
      | start => exact (hstart state).trans ih
      | sleep wait => exact (hmove state _).trans ih
      | run signal => exact nomatch hoperation
      | close => exact nomatch hoperation

theorem Fresh.closed
    (hfresh : monitor.Fresh state) : state.closed = false :=
  hfresh.keeps State.closed (fun _ => rfl) (fun _ _ => rfl) (fun _ => rfl)
    (fun _ _ => rfl)

theorem Fresh.cleanBefore
    (hfresh : monitor.Fresh state) : state.cleanBefore = true :=
  hfresh.keeps State.cleanBefore (fun _ => rfl) (fun _ _ => rfl)
    (fun _ => rfl) (fun _ _ => rfl)

theorem Fresh.reachable
    (hfresh : monitor.Fresh state) : monitor.Reachable state := by
  induction hfresh with
  | built hbuilt => exact .built hbuilt
  | performed hfresh world fuel hoperation ih =>
      exact .performed ih world fuel _

/-- No slot has learned anything yet. -/
theorem Fresh.slot?
    (hfresh : monitor.Fresh state) (position : Position) :
    state.slot? position = (monitor.probe? position).map fun _ => {} := by
  apply hfresh.keeps (·.slot? position)
  · intro reporter
    cases position with
    | dependency index => exact List.getElem?_map
    | primary index => exact List.getElem?_map
  · intro state entry
    exact State.slot?_congr rfl rfl position
  · intro state
    exact State.slot?_congr rfl rfl position
  · intro state moment
    exact State.slot?_congr rfl rfl position

/-- A monitor that refuses to run stays as it is. -/
theorem run_refused
    {stop : Option Nat} {fuel : Nat} {error : MonitorError} {final : State σ}
    (hrun : monitor.run world stop fuel state = (.error error, final)) :
    final = state := by
  unfold run at hrun
  split at hrun
  next => simp at hrun
  next => exact (Prod.mk.inj hrun).2.symm

/-- Whatever a monitor does, its watchdog keeps the timeout of its timing. -/
theorem Reachable.timeout
    (hreachable : monitor.Reachable state) :
    state.watchdog.timeout = monitor.timing.probeTimeout := by
  induction hreachable with
  | built hbuilt => rw [build?_eq_ok hbuilt]; rfl
  | @performed state hreachable world fuel operation ih =>
      cases operation with
      | prepare =>
          rw [perform_prepare_snd,
            prepareFrom_keeps (·.watchdog.timeout) (fun _ _ => rfl), ih]
      | start => exact ih
      | sleep wait => exact ih
      | close =>
          simp only [perform, State.close]
          split
          next => exact ih
          next => exact ih
      | run signal =>
          simp only [perform]
          split
          next exit final hrun =>
            rw [(run_log hrun).1.timeout, ih]
          next error final hrun => rw [run_refused hrun, ih]

theorem Reachable.valid
    (hreachable : monitor.Reachable state) : monitor.timing.Valid := by
  induction hreachable with
  | @built reporter state hbuilt =>
      apply Timing.validate_eq_ok_iff.mp
      unfold build? at hbuilt
      cases hvalid : monitor.timing.validate with
      | error fault =>
          rw [hvalid] at hbuilt
          exact nomatch hbuilt
      | ok _ => rfl
  | performed hreachable world fuel operation ih => exact ih

/-- Whatever a monitor does, each of its probes keeps a slot. -/
theorem Reachable.isSome_slot?
    (hreachable : monitor.Reachable state) (position : Position) :
    (state.slot? position).isSome = (monitor.probe? position).isSome := by
  induction hreachable with
  | @built reporter state hbuilt =>
      rw [build?_eq_ok hbuilt]
      cases position with
      | dependency index =>
          simp only [State.slot?, State.initial, probe?, List.getElem?_map,
            Option.isSome_map]
      | primary index =>
          simp only [State.slot?, State.initial, probe?, List.getElem?_map,
            Option.isSome_map]
  | @performed state hreachable world fuel operation ih =>
      cases operation with
      | prepare =>
          rw [perform_prepare_snd,
            prepareFrom_keeps (·.slot? position)
              (fun state entry => State.slot?_congr rfl rfl position), ih]
      | start => exact (State.slot?_congr rfl rfl position).symm ▸ ih
      | sleep wait => exact (State.slot?_congr rfl rfl position).symm ▸ ih
      | close =>
          simp only [perform, State.close]
          split
          next => exact ih
          next => exact (State.slot?_congr rfl rfl position).symm ▸ ih
      | run signal =>
          simp only [perform]
          split
          next exit final hrun =>
            rw [(run_log hrun).1.slot?, Option.isSome_map, ih]
          next error final hrun => rw [run_refused hrun, ih]

end Monitor

/-! ## An example -/

namespace Sample

/-- One service that depends on one database. -/
def monitor : Monitor Unit where
  name := "service"
  dependencies := [{ name := "db", hasSafeMode := true }]
  primaries := [{ name := "http" }]
  timing := {}
  reporter := .default

/-- The database is in safe mode at first; the service comes up with its second
call, and its fourth call hangs. -/
def world : World where
  call
    | .dependency _, number =>
        { ending := .status (.up "db" "ready"), safeMode := number == 0 }
    | .primary _, number =>
        if number = 0 then { ending := .status (.down "http" "refused") }
        else if number = 3 then
          { takes := none, ending := .status (.up "http" "late") }
        else { ending := .status (.up "http" "ok") }

def started : State Unit :=
  (monitor.perform world 0 (.initial monitor ()) .start).2

theorem fresh : monitor.Fresh started :=
  .performed (.built rfl) world 0 rfl

theorem reachable : monitor.Reachable started :=
  .performed (.built rfl) world 0 .start

/-- The monitor after two live passes and a shutdown in the pause after them. -/
def final : State Unit :=
  (monitor.run world (some 67000) 40 started).2

theorem run_eq :
    monitor.run world (some 67000) 40 started =
      (.ok (some .shutdown), final) := rfl

end Sample

end HealthMonitor
