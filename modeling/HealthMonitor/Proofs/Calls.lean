import HealthMonitor.Proofs.Memory

/-!
# Pings and their calls in time

A ping is answered when its call returns or when the timeout has passed,
whichever comes first.  What becomes of the call after that depends on the
ping: a call that was given up is stopped if its probe can be cancelled, and is
left running if not; a call whose ping was cut short runs on by itself.
`Ping.Traces` says so of a written ping.
-/

namespace HealthMonitor

def Call.waited (timeout : Nat) (call : Call) : Nat :=
  match call.takes with
  | some wait => min wait timeout
  | none => timeout

theorem Call.waited_of_lt
    {timeout wait : Nat} {call : Call} (htakes : call.takes = some wait)
    (hwait : wait < timeout) :
    call.waited timeout = wait := by
  simp only [waited, htakes]
  exact Nat.min_eq_left (Nat.le_of_lt hwait)

theorem Call.waited_of_late
    {timeout : Nat} {call : Call}
    (hlate : ∀ wait, call.takes = some wait → timeout ≤ wait) :
    call.waited timeout = timeout := by
  unfold waited
  split
  next wait htakes => exact Nat.min_eq_right (hlate wait htakes)
  next => rfl

theorem Call.waited_le_takes
    {timeout wait : Nat} {call : Call} (htakes : call.takes = some wait) :
    call.waited timeout ≤ wait := by
  simp only [waited, htakes]
  exact Nat.min_le_left wait timeout

theorem Ending.outcome_ne_timedOut (probe : Probe) (ending : Ending) :
    ending.outcome probe ≠ .timedOut := by
  cases ending with
  | status found => exact nofun
  | abort request => exact nofun
  | panic text => exact nofun

/-! ## The race -/

namespace Watchdog

theorem race_cases
    (timeout : Nat) (now : Moment) (probe : Probe) (call : Call) :
    (∃ wait, call.takes = some wait ∧ wait < timeout ∧
      race timeout now probe call =
        { outcome := call.ending.outcome probe
          answered := now.callEnd wait
          begins := some now.instant
          returns := some (now.instant + wait) }) ∨
      ((∀ wait, call.takes = some wait → timeout ≤ wait) ∧
        race timeout now probe call = late timeout now probe call) := by
  unfold race
  cases call.takes with
  | none => exact .inr ⟨nofun, rfl⟩
  | some wait =>
      by_cases hwait : wait < timeout
      · exact .inl ⟨wait, rfl, hwait, if_pos hwait⟩
      · refine .inr ⟨?_, if_neg hwait⟩
        intro other hother
        rw [← Option.some.inj hother]
        exact Nat.le_of_not_lt hwait

section Race

variable (timeout : Nat) (now : Moment) (probe : Probe) (call : Call)

theorem instant_answered_race :
    (race timeout now probe call).answered.instant =
      now.instant + call.waited timeout := by
  rcases race_cases timeout now probe call with
    ⟨wait, htakes, hwait, hrace⟩ | ⟨hlate, hrace⟩
  · rw [hrace, Call.waited_of_lt htakes hwait, Moment.instant_callEnd]
  · rw [hrace, Call.waited_of_late hlate, late, Moment.instant_timer]

theorem le_answered : now ≤ (race timeout now probe call).answered := by
  rcases race_cases timeout now probe call with
    ⟨wait, -, -, hrace⟩ | ⟨-, hrace⟩
  · rw [hrace]
    exact Moment.le_callEnd now wait
  · rw [hrace]
    exact Moment.le_timer now timeout

/-- With no time to wait no call comes in, so no moment is ever settled. -/
theorem settled_answered_race
    (hzero : timeout = 0) (hready : now.settled = false) :
    (race timeout now probe call).answered.settled = false := by
  rcases race_cases timeout now probe call with
    ⟨wait, -, hwait, -⟩ | ⟨-, hrace⟩
  · omega
  · rw [hrace, late, Moment.timer, if_pos hzero, hready]

theorem begins_race (htimeout : 0 < timeout) :
    (race timeout now probe call).begins = some now.instant := by
  rcases race_cases timeout now probe call with
    ⟨wait, -, -, hrace⟩ | ⟨-, hrace⟩
  · rw [hrace]
  · have hne : timeout ≠ 0 := Nat.ne_of_gt htimeout
    simp [hrace, late, hne]

/-- A call that was given up and could be stopped never returns; any other
returns when it would have done by itself. -/
theorem returns_race :
    (race timeout now probe call).returns =
      if (race timeout now probe call).outcome = .timedOut ∧
          probe.cancellable = true then
        none
      else call.takes.map (now.instant + ·) := by
  rcases race_cases timeout now probe call with
    ⟨wait, htakes, -, hrace⟩ | ⟨-, hrace⟩
  · rw [hrace, htakes,
      if_neg fun hboth => call.ending.outcome_ne_timedOut probe hboth.1]
    rfl
  · rw [hrace]
    simp [late]

/-- A call that came in has returned when its ping is answered. -/
theorem returned_of_inTime
    (hinTime : (race timeout now probe call).outcome ≠ .timedOut) :
    (race timeout now probe call).returns.any
      (race timeout now probe call).answered.reached = true := by
  rcases race_cases timeout now probe call with
    ⟨wait, -, -, hrace⟩ | ⟨-, hrace⟩
  · rw [hrace]
    simp [Moment.reached, Moment.callEnd]
  · rw [hrace] at hinTime
    exact absurd rfl hinTime

/-- A call that was given up has not returned when its ping is answered, since
of all that falls on one instant the timer comes first. -/
theorem not_returned_of_timedOut
    (hready : timeout = 0 → now.settled = false)
    (hlate : (race timeout now probe call).outcome = .timedOut) :
    (race timeout now probe call).returns.any
      (race timeout now probe call).answered.reached = false := by
  rcases race_cases timeout now probe call with
    ⟨wait, -, -, hrace⟩ | ⟨hlong, hrace⟩
  · rw [hrace] at hlate
    exact absurd hlate (call.ending.outcome_ne_timedOut probe)
  · have hunsettled : (now.timer timeout).settled = false := by
      by_cases hzero : timeout = 0
      · rw [Moment.timer, if_pos hzero, hready hzero]
      · rw [Moment.timer, if_neg hzero]
    rw [hrace, Option.any_eq_false]
    intro time htime
    have hreturns :
        (if probe.cancellable = true then none
          else call.takes.map (now.instant + ·)) = some time := htime
    split at hreturns
    next => exact absurd hreturns.symm (Option.some_ne_none _)
    next =>
      obtain ⟨wait, htakes, rfl⟩ := Option.map_eq_some_iff.mp hreturns
      have hwait := hlong wait htakes
      simpa [late, Moment.reached, hunsettled] using hwait

end Race

end Watchdog

/-! ## What is written of a ping -/

namespace Ping

/-- Whether the call was given up and stopped. -/
def isStopped (probes : Position → Option Probe) (ping : Ping) : Bool :=
  ping.outcome == some .timedOut &&
    (probes ping.position).any (·.cancellable)

/-- Whether the call was given up and could not be stopped. -/
def isDetached (probes : Position → Option Probe) (ping : Ping) : Bool :=
  ping.outcome == some .timedOut &&
    (probes ping.position).any (!·.cancellable)

/-- Whether the call, which was set going, has neither been stopped nor
returned. -/
def isInFlight
    (probes : Position → Option Probe) (now : Moment) (ping : Ping) : Bool :=
  !ping.isStopped probes && !ping.hasReturned now

/-- Whether the call was left running and has not returned. -/
def isAbandoned
    (probes : Position → Option Probe) (now : Moment) (ping : Ping) : Bool :=
  ping.isDetached probes && !ping.hasReturned now

/-- Whether the call is over at some instant: it was stopped when it was given
up, or it has returned. -/
def IsOver
    (probes : Position → Option Probe) (instant : Nat) (ping : Ping) : Prop :=
  (ping.isStopped probes = true ∧ ping.returns = none ∧
      ping.answered ≤ instant) ∨
    ∃ time, ping.returns = some time ∧ time ≤ instant

/-- A ping of `probe` in time, and what became of its call. -/
structure Traces
    (timeout : Nat) (probe : Probe) (call : Call) (ping : Ping) : Prop where
  answer : ∀ outcome, ping.outcome = some outcome →
    outcome = call.answer timeout probe
  answered : ping.outcome ≠ none →
    ping.answered = ping.started + call.waited timeout
  cut : ping.outcome = none →
    ping.answered < ping.started + call.waited timeout
  begins : 0 < timeout → ping.begins = some ping.started
  returns :
    ping.returns =
      if ping.outcome = some .timedOut ∧ probe.cancellable = true then none
      else call.takes.map (ping.started + ·)

variable {probes : Position → Option Probe} {probe : Probe} {call : Call}
  {ping : Ping} {timeout : Nat} {now later : Moment}

theorem hasReturned_of_le
    (hle : now ≤ later) (hreturned : ping.hasReturned now = true) :
    ping.hasReturned later = true := by
  rw [hasReturned, Option.any_eq_true] at hreturned ⊢
  obtain ⟨time, htime, hreached⟩ := hreturned
  exact ⟨time, htime, Moment.reached_of_le hle hreached⟩

theorem isDetached_eq (hprobe : probes ping.position = some probe) :
    ping.isDetached probes =
      (ping.outcome == some .timedOut && !probe.cancellable) := by
  rw [isDetached, hprobe, Option.any_some]

theorem isStopped_eq (hprobe : probes ping.position = some probe) :
    ping.isStopped probes =
      (ping.outcome == some .timedOut && probe.cancellable) := by
  rw [isStopped, hprobe, Option.any_some]

/-- A call that came in and has returned is in flight no more, so those in
flight are the abandoned ones. -/
theorem isInFlight_eq
    (hprobe : probes ping.position = some probe)
    (hreturned :
      ping.outcome ≠ some .timedOut → ping.hasReturned now = true) :
    ping.isInFlight probes now = ping.isAbandoned probes now := by
  rw [isInFlight, isAbandoned, isStopped_eq hprobe, isDetached_eq hprobe]
  by_cases hlate : ping.outcome = some .timedOut
  · simp [hlate]
  · simp [hreturned hlate]

theorem traces_of_watch
    (now : Moment) (hstarted : ping.started = now.instant)
    (hanswered : ping.answered =
      (Watchdog.race timeout now probe call).answered.instant)
    (houtcome : ping.outcome =
      some (Watchdog.race timeout now probe call).outcome)
    (hbegins : ping.begins = (Watchdog.race timeout now probe call).begins)
    (hreturns :
      ping.returns = (Watchdog.race timeout now probe call).returns) :
    ping.Traces timeout probe call where
  answer := by
    intro outcome hfound
    rw [houtcome, Watchdog.outcome_race] at hfound
    exact (Option.some.inj hfound).symm
  answered := by
    intro _
    rw [hanswered, hstarted, Watchdog.instant_answered_race]
  cut := by
    intro hnone
    rw [houtcome] at hnone
    exact nomatch hnone
  begins := by
    intro htimeout
    rw [hbegins, hstarted, Watchdog.begins_race _ _ _ _ htimeout]
  returns := by
    rw [hreturns, hstarted, Watchdog.returns_race, houtcome]
    simp only [Option.some.injEq]

namespace Traces

theorem returns_of_cut
    (htraces : ping.Traces timeout probe call) (hcut : ping.outcome = none) :
    ping.returns = call.takes.map (ping.started + ·) := by
  have hnot : ¬(ping.outcome = some .timedOut ∧ probe.cancellable = true) := by
    rw [hcut]
    exact nofun
  rw [htraces.returns, if_neg hnot]

theorem not_returned_of_cut
    (htraces : ping.Traces timeout probe call) (hcut : ping.outcome = none)
    (hnow : now.instant ≤ ping.answered) :
    ping.hasReturned now = false := by
  have hearly := htraces.cut hcut
  rw [hasReturned, htraces.returns_of_cut hcut, Option.any_eq_false]
  intro time htime
  obtain ⟨wait, htakes, rfl⟩ := Option.map_eq_some_iff.mp htime
  have hwait : call.waited timeout ≤ wait := Call.waited_le_takes htakes
  have hafter : now.instant < ping.started + wait := by omega
  simp [Moment.reached, Nat.le_of_lt hafter, Nat.ne_of_gt hafter]

/-- A call that can be stopped is over as soon as its ping is answered. -/
theorem isOver
    (htraces : ping.Traces timeout probe call)
    (hprobe : probes ping.position = some probe)
    (hcancellable : probe.cancellable = true) (hanswered : ping.outcome ≠ none)
    {instant : Nat} (hinstant : ping.answered ≤ instant) :
    ping.IsOver probes instant := by
  by_cases hlate : ping.outcome = some .timedOut
  · left
    refine ⟨?_, ?_, hinstant⟩
    · rw [isStopped_eq hprobe, hlate, hcancellable]
      rfl
    · rw [htraces.returns, if_pos ⟨hlate, hcancellable⟩]
  · right
    have hended := htraces.answered hanswered
    have hreturns := htraces.returns
    rw [if_neg fun hboth => hlate hboth.1] at hreturns
    obtain ⟨outcome, houtcome⟩ := Option.ne_none_iff_exists'.mp hanswered
    have hanswer := htraces.answer outcome houtcome
    rw [houtcome, Option.some.injEq, hanswer, Call.answer] at hlate
    cases htakes : call.takes with
    | none => simp [htakes] at hlate
    | some wait =>
        by_cases hwait : wait < timeout
        · rw [Call.waited_of_lt htakes hwait] at hended
          rw [htakes] at hreturns
          exact ⟨ping.started + wait, hreturns, hended ▸ hinstant⟩
        · simp [htakes, hwait] at hlate

end Traces

end Ping

end HealthMonitor
