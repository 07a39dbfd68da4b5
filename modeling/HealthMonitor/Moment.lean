/-!
# Moments

Time stands still while the monitor computes and moves on only when it waits.
Of what falls on one instant, timers come first; only then do calls begin and
end.  A moment is an instant together with which of the two has happened, so
that a call that would end exactly when its timer fires is too late.
-/

namespace HealthMonitor

structure Moment where
  /-- Milliseconds since the start. -/
  instant : Nat
  /-- Whether the calls that begin or end at this instant have done so. -/
  settled : Bool := false
  deriving DecidableEq, Repr, Inhabited

namespace Moment

/-- Whether a call that begins or ends at `time` has done so. -/
def reached (now : Moment) (time : Nat) : Bool :=
  decide (time < now.instant) || (decide (time = now.instant) && now.settled)

/-- When a timer set now fires.  One set for no time has fired already. -/
def timer (now : Moment) (wait : Nat) : Moment :=
  if wait = 0 then now else { instant := now.instant + wait }

/-- When a call made now that takes `wait` ends. -/
def callEnd (now : Moment) (wait : Nat) : Moment :=
  { instant := now.instant + wait, settled := true }

/-- When an outside event at `time` is seen: no earlier than now. -/
def seen (now : Moment) (time : Nat) : Moment :=
  if time ≤ now.instant then now else { instant := time, settled := true }

@[simp]
theorem instant_timer (now : Moment) (wait : Nat) :
    (now.timer wait).instant = now.instant + wait := by
  unfold timer
  split <;> simp_all

@[simp]
theorem instant_callEnd (now : Moment) (wait : Nat) :
    (now.callEnd wait).instant = now.instant + wait :=
  rfl

theorem reached_of_lt {now : Moment} {time : Nat} (h : time < now.instant) :
    now.reached time = true := by
  simp [reached, h]

theorem lt_or_eq_of_reached {now : Moment} {time : Nat} (h : now.reached time = true) :
    time < now.instant ∨ time = now.instant := by
  simp [reached] at h
  rcases h with h | h
  · exact .inl h
  · exact .inr h.1

/-- A moment comes before another if its instant is earlier, or the same and the
calls of that instant have no less happened in the other. -/
instance : LE Moment where
  le before now :=
    before.instant < now.instant ∨
      (before.instant = now.instant ∧ (before.settled = true → now.settled = true))

theorem le_refl (now : Moment) : now ≤ now :=
  .inr ⟨rfl, id⟩

theorem le_of_instant_lt {before now : Moment} (h : before.instant < now.instant) :
    before ≤ now :=
  .inl h

theorem instant_le {before now : Moment} (h : before ≤ now) :
    before.instant ≤ now.instant := by
  rcases h with h | ⟨h, -⟩
  · exact Nat.le_of_lt h
  · exact Nat.le_of_eq h

theorem le_timer (now : Moment) (wait : Nat) : now ≤ now.timer wait := by
  by_cases h : wait = 0
  · rw [timer, if_pos h]
    exact le_refl now
  · apply le_of_instant_lt
    rw [instant_timer]
    omega

theorem le_callEnd (now : Moment) (wait : Nat) : now ≤ now.callEnd wait := by
  by_cases h : wait = 0
  · subst h
    exact .inr ⟨rfl, fun _ => rfl⟩
  · apply le_of_instant_lt
    rw [instant_callEnd]
    omega

/-- What has happened at a moment has happened at every later one. -/
theorem reached_of_le {before now : Moment} (h : before ≤ now) {time : Nat}
    (hreached : before.reached time = true) : now.reached time = true := by
  rcases h with h | ⟨h, settled⟩
  · apply reached_of_lt
    rcases lt_or_eq_of_reached hreached with hlt | rfl
    · exact Nat.lt_trans hlt h
    · exact h
  · simp only [reached, Bool.or_eq_true, Bool.and_eq_true, decide_eq_true_eq] at hreached ⊢
    rw [← h]
    exact hreached.imp_right fun ⟨htime, hsettled⟩ => ⟨htime, settled hsettled⟩

end Moment

end HealthMonitor
