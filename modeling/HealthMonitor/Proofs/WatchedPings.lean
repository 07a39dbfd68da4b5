import HealthMonitor.Proofs.AbandonedCalls

/-!
# One watched ping

A ping races its call against the timeout.  It takes as long as the shorter of the
two, and its answer is that of the call if the call ends before the timer fires
(`watchedPing_record`).  A call that was given up never returns if it could be
stopped, and otherwise returns when it would have done by itself.  Calls left
running by earlier pings make no difference.
-/

namespace HealthMonitor

/-- The answer to a call that ends in time: what it found, the abort it asks for,
or a failure in the name of its probe. -/
def Ending.Answers (probe : Probe) (outcome : PingOutcome) : Ending → Prop
  | .status found => outcome = .completed found
  | .abort request => outcome = .aborted request
  | .panic _ => ∃ status thrown, outcome = .completed status ∧
      status.probe = probe.name ∧ status.success = false ∧
      status.message = "probe call did not complete" ∧ status.thrown = some thrown

theorem Ending.answers_outcome (probe : Probe) (ending : Ending) :
    ending.Answers probe (ending.outcome probe) := by
  cases ending with
  | status found => rfl
  | abort request => rfl
  | panic text => exact ⟨_, _, rfl, rfl, rfl, rfl, rfl⟩

section Late

variable {timeout wait : Nat} {probe : Probe} {call : Call}

theorem Call.answer_of_lt (htakes : call.takes = some wait) (hwait : wait < timeout) :
    call.answer timeout probe = call.ending.outcome probe := by
  rw [answer, htakes]
  exact if_pos hwait

theorem Call.answer_of_late (hlate : ∀ wait, call.takes = some wait → timeout ≤ wait) :
    call.answer timeout probe = .timedOut := by
  unfold answer
  split
  next wait htakes => exact if_neg (Nat.not_lt.mpr (hlate wait htakes))
  next => rfl

end Late

namespace Ping

/-- The call is running at every moment before `time` and over at every later one.
At that instant itself timers come first. -/
def ReturnsAt (ping : Ping) (time : Nat) : Prop :=
  ∀ now : Moment,
    (now.instant < time → ping.hasReturned now = false) ∧
      (now.instant = time → ping.hasReturned now = now.settled) ∧
      (time < now.instant → ping.hasReturned now = true)

def NeverReturns (ping : Ping) : Prop :=
  ∀ now, ping.hasReturned now = false

variable {ping : Ping} {time : Nat}

theorem returnsAt_of_returns (hreturns : ping.returns = some time) : ping.ReturnsAt time := by
  intro now
  have hreached : ping.hasReturned now = now.reached time := by
    rw [hasReturned, hreturns, Option.any_some]
  rw [hreached]
  refine ⟨?_, ?_, Moment.reached_of_lt⟩
  · intro hbefore
    simp only [Moment.reached, Bool.or_eq_false_iff, Bool.and_eq_false_iff,
      decide_eq_false_iff_not]
    omega
  · intro hsame
    simp [Moment.reached, hsame]

theorem neverReturns_of_returns (hreturns : ping.returns = none) : ping.NeverReturns := by
  intro now
  rw [hasReturned, hreturns, Option.any_none]

end Ping

namespace Pack

variable {probes : Position → Option Probe} {world : World} {pack : Pack} {ping : Ping}

/-- Nothing that is written of a ping is lost. -/
theorem mem_pings_performAll (hping : ping ∈ pack.pings) (errands : List Errand) :
    ping ∈ (pack.performAll probes world errands).pings := by
  induction errands generalizing pack with
  | nil => exact hping
  | cons errand errands ih =>
      refine ih ?_
      rw [pings_perform]
      exact List.mem_append_right _ hping

end Pack

namespace Patrol

section Answer

variable (patrol : Patrol) (world : World) (position : Position)
  (probe : Probe) (live : Bool)

theorem fst_ping :
    (patrol.ping world position probe live).1 =
      (patrol.call world position).answer patrol.watchdog.timeout probe := by
  rw [← Watchdog.outcome_race _ patrol.now, ← Watchdog.fst_ping]
  rfl

theorem now_ping :
    (patrol.ping world position probe live).2.now =
      (patrol.watch world position probe).answered := by
  rw [snd_ping]

theorem instant_ping :
    (patrol.ping world position probe live).2.now.instant =
      patrol.now.instant +
        (patrol.call world position).waited patrol.watchdog.timeout := by
  rw [now_ping]
  exact Watchdog.instant_answered_race _ _ _ _

theorem outcome_written :
    (patrol.written world position probe live).outcome =
      some (patrol.ping world position probe live).1 := by
  rw [fst_ping]
  exact congrArg some (Watchdog.outcome_race _ _ _ _)

/-- The call of a ping returns by itself unless it was given up and stopped. -/
theorem returns_written
    (hkept : ¬((patrol.ping world position probe live).1 = .timedOut ∧
      probe.cancellable = true)) :
    (patrol.written world position probe live).returns =
      (patrol.call world position).takes.map (patrol.now.instant + ·) := by
  rw [(patrol.traces_written world position probe live).returns, if_neg]
  · rfl
  · rwa [outcome_written, Option.some.injEq]

theorem returnsAt_written {wait : Nat}
    (hkept : ¬((patrol.ping world position probe live).1 = .timedOut ∧
      probe.cancellable = true))
    (htakes : (patrol.call world position).takes = some wait) :
    (patrol.written world position probe live).ReturnsAt (patrol.now.instant + wait) := by
  apply Ping.returnsAt_of_returns
  rw [patrol.returns_written world position probe live hkept, htakes]
  rfl

theorem neverReturns_written
    (hgone : (patrol.ping world position probe live).1 = .timedOut ∧
        probe.cancellable = true ∨
      (patrol.call world position).takes = none) :
    (patrol.written world position probe live).NeverReturns := by
  apply Ping.neverReturns_of_returns
  rw [(patrol.traces_written world position probe live).returns]
  rcases hgone with ⟨hlate, hcancellable⟩ | hendless
  · rw [outcome_written, if_pos ⟨congrArg some hlate, hcancellable⟩]
  · rw [hendless]
    exact ite_self _

/-- What one ping of `probe` comes to, and what becomes of its call. -/
structure PingRecord (ping : Ping) : Prop where
  written : (patrol.ping world position probe live).2.pings = ping :: patrol.pings
  told : ping.outcome = some (patrol.ping world position probe live).1
  started : ping.started = patrol.now.instant
  begins : ping.begins = some ping.started
  answered : (patrol.ping world position probe live).2.now.instant = ping.answered
  prompt : ∀ wait, (patrol.call world position).takes = some wait →
    ping.answered = ping.started + min wait patrol.watchdog.timeout
  patient : (patrol.call world position).takes = none →
    ping.answered = ping.started + patrol.watchdog.timeout
  inTime : ∀ wait, (patrol.call world position).takes = some wait →
    wait < patrol.watchdog.timeout →
      (patrol.call world position).ending.Answers probe
          (patrol.ping world position probe live).1 ∧
        ping.ReturnsAt (ping.started + wait)
  late : (∀ wait, (patrol.call world position).takes = some wait →
      patrol.watchdog.timeout ≤ wait) →
    (patrol.ping world position probe live).1 = .timedOut
  stopped : (patrol.ping world position probe live).1 = .timedOut →
    probe.cancellable = true → ping.NeverReturns
  left : (patrol.ping world position probe live).1 = .timedOut →
    probe.cancellable = false →
      (∀ wait, (patrol.call world position).takes = some wait →
        ping.ReturnsAt (ping.started + wait)) ∧
      ((patrol.call world position).takes = none → ping.NeverReturns)
  /-- The call is still running when it is given up. -/
  running : (patrol.ping world position probe live).1 = .timedOut →
    ping.hasReturned (patrol.ping world position probe live).2.now = false
  /-- The ping stays as it was written, whatever is pinged and slept afterwards. -/
  kept : ∀ probes later timeouts errands,
    ping ∈ (Pack.performAll probes later
      { patrol := (patrol.ping world position probe live).2, timeouts } errands).pings
  /-- A call that goes alike is answered alike, whatever else is running. -/
  alike : ∀ (other : Patrol) scene place heard,
    other.watchdog.timeout = patrol.watchdog.timeout →
      other.call scene place = patrol.call world position →
        (other.ping scene place probe heard).1 =
            (patrol.ping world position probe live).1 ∧
          (other.ping scene place probe heard).2.now.instant + ping.started =
            other.now.instant + ping.answered

end Answer

end Patrol

/-- One ping of any probe by any watchdog that waits at all. -/
theorem watchedPing_record (patrol : Patrol) (world : World) (position : Position)
    (probe : Probe) (live : Bool) (htimeout : 0 < patrol.watchdog.timeout) :
    ∃ ping, patrol.PingRecord world position probe live ping := by
  have htraces := patrol.traces_written world position probe live
  have hanswer := patrol.fst_ping world position probe live
  have houtcome := patrol.outcome_written world position probe live
  have hanswered := htraces.answered (houtcome ▸ Option.some_ne_none _)
  refine ⟨patrol.written world position probe live, ?_⟩
  constructor
  case written => rw [patrol.snd_ping]
  case told => exact houtcome
  case started => rfl
  case begins => exact htraces.begins htimeout
  case answered =>
    rw [patrol.now_ping]
    rfl
  case prompt =>
    intro wait htakes
    rw [hanswered, Call.waited, htakes]
  case patient =>
    intro htakes
    rw [hanswered, Call.waited, htakes]
  case inTime =>
    intro wait htakes hwait
    rw [Call.answer_of_lt htakes hwait] at hanswer
    constructor
    · rw [hanswer]
      exact Ending.answers_outcome probe _
    · refine patrol.returnsAt_written world position probe live (fun hstopped => ?_) htakes
      exact Ending.outcome_ne_timedOut probe _ (hanswer.symm.trans hstopped.1)
  case late =>
    intro hlong
    rw [hanswer, Call.answer_of_late hlong]
  case stopped =>
    intro hlate hcancellable
    exact patrol.neverReturns_written world position probe live (.inl ⟨hlate, hcancellable⟩)
  case left =>
    intro _ hcancellable
    constructor
    · intro wait
      exact patrol.returnsAt_written world position probe live (by simp [hcancellable])
    · intro hendless
      exact patrol.neverReturns_written world position probe live (.inr hendless)
  case running =>
    intro hlate
    rw [patrol.now_ping]
    apply patrol.running_written world position probe live
    · exact fun hzero => absurd hzero (Nat.ne_of_gt htimeout)
    · rw [houtcome, hlate]
  case kept =>
    intro probes later timeouts errands
    apply Pack.mem_pings_performAll
    rw [Pack.pings, patrol.snd_ping]
    exact List.mem_cons_self
  case alike =>
    intro other scene place heard hsame hcall
    constructor
    · rw [other.fst_ping, hcall, hsame, hanswer]
    · rw [other.instant_ping, hcall, hsame, hanswered]
      omega

namespace Sample

/-- The primary hangs; the dependency answers, but too late. -/
def sluggish : World where
  call
    | .primary _, _ => { takes := none, ending := .panic "unreached" }
    | .dependency _, _ => { takes := some 150, ending := .status (.up "db" "ready") }

/-- A patrol that has left one call running. -/
def burdened : Patrol :=
  (Patrol.ping { watchdog := { timeout := 100 } } sluggish (.primary 0)
    { name := "http", cancellable := false } false).2

end Sample

/-- A late call that cannot be stopped joins the one that is running. -/
theorem watchedPing_record_late :
    0 < Sample.burdened.watchdog.timeout ∧
      Sample.burdened.watchdog.abandoned = 1 ∧
      (Sample.burdened.ping Sample.sluggish (.dependency 0)
        { name := "db", cancellable := false } true).1 = .timedOut ∧
      ∃ ping, Sample.burdened.PingRecord Sample.sluggish (.dependency 0)
        { name := "db", cancellable := false } true ping :=
  ⟨by decide, rfl, rfl, watchedPing_record _ _ _ _ _ (by decide)⟩

end HealthMonitor
