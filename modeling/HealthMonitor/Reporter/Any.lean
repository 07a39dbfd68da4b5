import HealthMonitor.Board
import HealthMonitor.Reporter.Event

/-!
# A reporter of some kind

A reporter together with the state it starts in, whatever that state is, and
what can be seen of the state from outside: the log and the status board.
-/

namespace HealthMonitor

structure AnyReporter : Type 1 where
  {σ : Type}
  reporter : Reporter σ
  initial : σ
  /-- The events written to the log since they were last taken, the oldest
  first, and the state without them. -/
  takeEvents : σ → List LogEvent × σ := fun state => ([], state)
  board? : σ → Option Board := fun _ => none

end HealthMonitor
