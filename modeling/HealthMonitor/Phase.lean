/-!
# Phases of a monitored service

A run waits for its dependencies, then for its own probes, and then watches
the probes live.  The three phases are ordered by when a run enters them.
-/

namespace HealthMonitor

inductive Phase where
  | dependencyWait
  | bootstrap
  | live
  deriving DecidableEq, Repr, Inhabited

namespace Phase

def text : Phase → String
  | dependencyWait => "DEPENDENCY_WAIT"
  | bootstrap => "BOOTSTRAP"
  | live => "LIVE"

/-- The phase that a text names, if it names one. -/
def ofText? : String → Option Phase
  | "DEPENDENCY_WAIT" => some dependencyWait
  | "BOOTSTRAP" => some bootstrap
  | "LIVE" => some live
  | _ => none

/-- How many phases a run has to pass before this one. -/
def rank : Phase → Nat
  | dependencyWait => 0
  | bootstrap => 1
  | live => 2

instance : Ord Phase where
  compare a b := compare a.rank b.rank

@[simp]
theorem ofText?_text (phase : Phase) : ofText? phase.text = some phase := by
  cases phase <;> rfl

end Phase

end HealthMonitor
