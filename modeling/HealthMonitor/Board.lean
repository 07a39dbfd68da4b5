import HealthMonitor.Status

/-!
# The status board

The last status that was recorded and the most recent ones up to a capacity,
oldest first.  A board without capacity still knows the last one.
-/

namespace HealthMonitor

structure Board where
  capacity : Nat := 512
  last : Option Status := none
  events : List Status := []
  deriving DecidableEq, Repr, Inhabited

namespace Board

/-- Records a status as the latest event; past the capacity the oldest goes. -/
def record (board : Board) (status : Status) : Board :=
  if board.capacity = 0 then { board with last := some status }
  else
    let kept := if board.events.length = board.capacity then board.events.drop 1 else board.events
    { board with last := some status, events := kept ++ [status] }

def size (board : Board) : Nat :=
  board.events.length

/-- Records statuses one after the other. -/
def recordAll (board : Board) (statuses : List Status) : Board :=
  statuses.foldl record board

@[simp]
theorem last_record (board : Board) (status : Status) :
    (board.record status).last = some status := by
  unfold record
  split <;> rfl

@[simp]
theorem capacity_record (board : Board) (status : Status) :
    (board.record status).capacity = board.capacity := by
  unfold record
  split <;> rfl

end Board

end HealthMonitor
