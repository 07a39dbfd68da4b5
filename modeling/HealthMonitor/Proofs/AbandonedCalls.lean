import HealthMonitor.Proofs.Calls

/-!
# The count of abandoned calls

A call that timed out and cannot be stopped is left running, and the watchdog
counts it until it returns.  Clones of a watchdog share the count.  Whatever is
pinged through any of them, and however the waits fall, the count is the number
of calls that were left running and have not returned (`pack_countRecord`).
-/

namespace HealthMonitor

/-- When each call that was left running returns, if it ever does. -/
def owedBy (probes : Position → Option Probe) (pings : List Ping) :
    List (Option Nat) :=
  (pings.filter (·.isDetached probes)).map (·.returns)

section Owed

variable {probes : Position → Option Probe} {ping : Ping} {pings : List Ping}

theorem owedBy_cons_of_detached (hdetached : ping.isDetached probes = true) :
    owedBy probes (ping :: pings) = ping.returns :: owedBy probes pings := by
  rw [owedBy, List.filter_cons_of_pos hdetached]
  rfl

theorem owedBy_cons_of_not_detached
    (hdetached : ping.isDetached probes = false) :
    owedBy probes (ping :: pings) = owedBy probes pings := by
  rw [owedBy, List.filter_cons_of_neg (by simp [hdetached])]
  rfl

/-- The calls owed and not returned, counted over the pings. -/
theorem length_owed (now : Moment) (pings : List Ping) :
    ((owedBy probes pings).filter (!·.any now.reached)).length =
      pings.countP (·.isAbandoned probes now) := by
  induction pings with
  | nil => rfl
  | cons ping pings ih =>
      by_cases hdetached : ping.isDetached probes = true
      · rw [owedBy_cons_of_detached hdetached, List.filter_cons,
          List.countP_cons]
        by_cases hreturned : ping.hasReturned now = true
        · have hback : ping.returns.any now.reached = true := hreturned
          simp [Ping.isAbandoned, hback, hreturned, ih]
        · have hback : ping.returns.any now.reached = false := by
            exact Bool.eq_false_iff.mpr hreturned
          simp [Ping.isAbandoned, hback, hreturned, hdetached, ih]
      · have hnot : ping.isDetached probes = false := by simpa using hdetached
        rw [owedBy_cons_of_not_detached hnot, ih]
        simp [Ping.isAbandoned, hnot]

end Owed

/-! ## The count and the calls owed -/

namespace Watchdog

/-- The watchdog counts the calls owed that have not returned. -/
structure Counts
    (watchdog : Watchdog) (now : Moment) (owed : List (Option Nat)) :
    Prop where
  detached : watchdog.detached = owed.filter (!·.any now.reached)
  abandoned : watchdog.abandoned = watchdog.detached.length

variable {watchdog : Watchdog} {now later : Moment} {owed : List (Option Nat)}

theorem counts_new (timeout : Nat) (now : Moment) :
    Counts { timeout } now [] :=
  ⟨rfl, rfl⟩

theorem Counts.settle
    (hcounts : watchdog.Counts now owed) (hle : now ≤ later) :
    (watchdog.settle later).Counts later owed where
  detached := by
    have hlater : ∀ ends : Option Nat,
        ends.any now.reached = true → ends.any later.reached = true := by
      intro ends hends
      rw [Option.any_eq_true] at hends ⊢
      obtain ⟨time, htime, hreached⟩ := hends
      exact ⟨time, htime, Moment.reached_of_le hle hreached⟩
    have hboth : ∀ ends : Option Nat,
        ((!ends.any later.reached) && (!ends.any now.reached)) =
          !ends.any later.reached := by
      intro ends
      cases hends : ends.any now.reached with
      | false => simp
      | true => simp [hlater ends hends]
    simp only [Watchdog.settle, hcounts.detached, List.filter_filter, hboth]
  abandoned := by
    have hlength :=
      List.length_eq_countP_add_countP (l := watchdog.detached)
        fun ends => ends.any later.reached
    have hkept :
        (watchdog.settle later).detached.length =
          watchdog.detached.countP fun ends => ¬ends.any later.reached := by
      rw [List.countP_eq_length_filter]
      simp [Watchdog.settle]
    rw [hkept]
    simp only [Watchdog.settle, hcounts.abandoned]
    omega

theorem Counts.abandon
    (hcounts : watchdog.Counts now owed) {returns : Option Nat}
    (hrunning : returns.any now.reached = false) :
    (watchdog.abandon returns).Counts now (returns :: owed) where
  detached := by
    rw [List.filter_cons_of_pos (by simp [hrunning]), ← hcounts.detached]
    rfl
  abandoned := by
    simp only [Watchdog.abandon, List.length_cons, hcounts.abandoned]

/-- The count is never lowered below nothing. -/
theorem Counts.returned_le
    (hcounts : watchdog.Counts now owed) (moment : Moment) :
    watchdog.detached.countP (·.any moment.reached) ≤ watchdog.abandoned := by
  rw [hcounts.abandoned]
  exact List.countP_le_length

theorem Counts.abandoned_eq
    {probes : Position → Option Probe} {pings : List Ping}
    (hcounts : watchdog.Counts now (owedBy probes pings)) :
    watchdog.abandoned = pings.countP (·.isAbandoned probes now) := by
  rw [hcounts.abandoned, hcounts.detached, length_owed]

/-- One watched ping: the count goes up exactly if its call is left running. -/
theorem Counts.watch
    (hcounts : watchdog.Counts now owed) (probe : Probe) (call : Call)
    (hready : watchdog.timeout = 0 → now.settled = false) :
    (watchdog.ping now probe call).2.Counts
      (race watchdog.timeout now probe call).answered
      (if (race watchdog.timeout now probe call).outcome = .timedOut ∧
          probe.cancellable = false then
        (race watchdog.timeout now probe call).returns :: owed
      else owed) := by
  have hsettled :=
    hcounts.settle (le_answered watchdog.timeout now probe call)
  unfold ping
  simp only
  split
  next hlate =>
    cases hcancellable : probe.cancellable with
    | true => simpa [hcancellable] using hsettled
    | false =>
        have hrunning :=
          not_returned_of_timedOut watchdog.timeout now probe call hready hlate
        simpa [hlate, hcancellable] using hsettled.abandon hrunning
  next hinTime =>
    rw [if_neg fun hboth => hinTime hboth.1]
    exact hsettled

/-- The count after a ping that is written down, against the calls owed then. -/
theorem Counts.answered
    {probes : Position → Option Probe} {pings : List Ping} {ping : Ping}
    {probe : Probe} {call : Call}
    (hcounts : watchdog.Counts now (owedBy probes pings))
    (hready : watchdog.timeout = 0 → now.settled = false)
    (hprobe : probes ping.position = some probe)
    (houtcome :
      ping.outcome = some (race watchdog.timeout now probe call).outcome)
    (hreturns :
      ping.returns = (race watchdog.timeout now probe call).returns) :
    (watchdog.ping now probe call).2.Counts
      (race watchdog.timeout now probe call).answered
      (owedBy probes (ping :: pings)) := by
  have hwatched := hcounts.watch probe call hready
  have hdetached :
      ping.isDetached probes = true ↔
        (race watchdog.timeout now probe call).outcome = .timedOut ∧
          probe.cancellable = false := by
    rw [Ping.isDetached_eq hprobe, houtcome]
    simp
  by_cases hleft :
      (race watchdog.timeout now probe call).outcome = .timedOut ∧
        probe.cancellable = false
  · rw [owedBy_cons_of_detached (hdetached.mpr hleft), hreturns]
    rwa [if_pos hleft] at hwatched
  · have hnot : ping.isDetached probes = false := by
      simpa using mt hdetached.mp hleft
    rw [owedBy_cons_of_not_detached hnot]
    rwa [if_neg hleft] at hwatched

end Watchdog

/-! ## One ping of a patrol -/

namespace Patrol

section Written

variable (patrol : Patrol) (world : World) (position : Position)
  (probe : Probe) (live : Bool)

def call : Call :=
  world.call position (patrol.callsMade position)

def watch : Watch :=
  Watchdog.race patrol.watchdog.timeout patrol.now probe
    (patrol.call world position)

def written : Ping where
  position
  number := patrol.callsMade position
  live
  started := patrol.now.instant
  answered := (patrol.watch world position probe).answered.instant
  outcome := some (patrol.watch world position probe).outcome
  begins := (patrol.watch world position probe).begins
  returns := (patrol.watch world position probe).returns

theorem snd_ping :
    (patrol.ping world position probe live).2 =
      { now := (patrol.watch world position probe).answered
        watchdog :=
          (patrol.watchdog.ping patrol.now probe
            (patrol.call world position)).2
        pings := patrol.written world position probe live :: patrol.pings } := by
  have hwatch :=
    Watchdog.fst_ping patrol.watchdog patrol.now probe
      (patrol.call world position)
  rw [← watch] at hwatch
  simp only [written, ← hwatch]
  rfl

theorem traces_written :
    (patrol.written world position probe live).Traces
      patrol.watchdog.timeout probe (patrol.call world position) :=
  Ping.traces_of_watch patrol.now rfl rfl rfl rfl rfl

theorem returned_written
    (hinTime : (patrol.written world position probe live).outcome ≠
      some .timedOut) :
    (patrol.written world position probe live).hasReturned
      (patrol.watch world position probe).answered = true := by
  apply Watchdog.returned_of_inTime
  intro hlate
  exact hinTime (congrArg some hlate)

theorem running_written
    (hready : patrol.watchdog.timeout = 0 → patrol.now.settled = false)
    (hlate : (patrol.written world position probe live).outcome =
      some .timedOut) :
    (patrol.written world position probe live).hasReturned
      (patrol.watch world position probe).answered = false :=
  Watchdog.not_returned_of_timedOut _ _ _ _ hready (Option.some.inj hlate)

end Written

end Patrol

/-! ## A watchdog and its clones -/

/-- A watchdog with its clones, at work.  Each has a timeout of its own; the
count is shared. -/
structure Pack where
  patrol : Patrol
  timeouts : List Nat
  deriving DecidableEq, Repr

inductive Errand where
  | ping (member : Nat) (position : Position) (live : Bool)
  | clone (member : Nat)
  | sleep (wait : Nat)
  deriving DecidableEq, Repr

namespace Pack

def start (timeout : Nat) : Pack where
  patrol := { watchdog := { timeout } }
  timeouts := [timeout]

def now (pack : Pack) : Moment :=
  pack.patrol.now

/-- The pings made through any member, the newest first. -/
def pings (pack : Pack) : List Ping :=
  pack.patrol.pings

/-- A member: its own timeout, and what all share. -/
def member? (pack : Pack) (number : Nat) : Option Watchdog :=
  pack.timeouts[number]?.map
    fun timeout => { pack.patrol.watchdog with timeout }

def perform
    (probes : Position → Option Probe) (world : World) (pack : Pack) :
    Errand → Pack
  | .ping number position live =>
      match pack.member? number, probes position with
      | some member, some probe =>
          let patrol := { pack.patrol with watchdog := member }
          { pack with patrol := (patrol.ping world position probe live).2 }
      | _, _ => pack
  | .clone number =>
      match pack.timeouts[number]? with
      | some timeout => { pack with timeouts := pack.timeouts ++ [timeout] }
      | none => pack
  | .sleep wait => { pack with patrol := pack.patrol.sleep wait }

def made
    (probes : Position → Option Probe) (world : World) (pack : Pack) :
    Errand → List Ping
  | .ping number position live =>
      match pack.member? number, probes position with
      | some member, some probe =>
          let patrol := { pack.patrol with watchdog := member }
          [patrol.written world position probe live]
      | _, _ => []
  | .clone _ | .sleep _ => []

def performAll
    (probes : Position → Option Probe) (world : World) (pack : Pack)
    (errands : List Errand) : Pack :=
  errands.foldl (perform probes world) pack

variable {probes : Position → Option Probe} {world : World} {timeout : Nat}
  {pack : Pack}

theorem member?_eq_some
    {number : Nat} {member : Watchdog}
    (hmember : pack.member? number = some member) :
    ∃ own, pack.timeouts[number]? = some own ∧
      member = { pack.patrol.watchdog with timeout := own } := by
  obtain ⟨own, hown, heq⟩ := Option.map_eq_some_iff.mp hmember
  exact ⟨own, hown, heq.symm⟩

theorem pings_perform (errand : Errand) :
    (pack.perform probes world errand).pings =
      pack.made probes world errand ++ pack.pings := by
  cases errand with
  | ping number position live =>
      simp only [perform, made]
      split
      next => rw [pings, Patrol.snd_ping]; rfl
      next => rfl
  | clone number =>
      simp only [perform]
      split
      next => rfl
      next => rfl
  | sleep wait => rfl

/-- The count fits the pings, which tell what became of their calls. -/
structure Balanced
    (timeout : Nat) (probes : Position → Option Probe) (world : World)
    (pack : Pack) : Prop where
  counts : pack.patrol.watchdog.Counts pack.now (owedBy probes pack.pings)
  members : pack.timeouts ≠ []
  timeouts : ∀ own ∈ pack.timeouts, own = timeout
  unsettled : timeout = 0 → pack.now.settled = false
  traced : ∀ ping ∈ pack.pings, ∃ probe, probes ping.position = some probe ∧
    ping.Traces timeout probe (world.call ping.position ping.number)
  answered : ∀ ping ∈ pack.pings, ping.outcome ≠ none
  returned : ∀ ping ∈ pack.pings, ping.outcome ≠ some .timedOut →
    ping.hasReturned pack.now = true

theorem balanced_start : (start timeout).Balanced timeout probes world where
  counts := Watchdog.counts_new timeout _
  members := List.cons_ne_nil timeout []
  timeouts := by simp [start]
  unsettled _ := rfl
  traced := List.forall_mem_nil _
  answered := List.forall_mem_nil _
  returned := List.forall_mem_nil _

theorem Balanced.sleep
    (hbalanced : pack.Balanced timeout probes world) (wait : Nat) :
    (pack.perform probes world (.sleep wait)).Balanced
      timeout probes world where
  counts := hbalanced.counts.settle (Moment.le_timer pack.now wait)
  members := hbalanced.members
  timeouts := hbalanced.timeouts
  unsettled := by
    intro hzero
    have hunsettled := hbalanced.unsettled hzero
    change (pack.now.timer wait).settled = false
    unfold Moment.timer
    split
    next => exact hunsettled
    next => rfl
  traced := hbalanced.traced
  answered := hbalanced.answered
  returned := by
    intro ping hping hinTime
    exact Ping.hasReturned_of_le (Moment.le_timer pack.now wait)
      (hbalanced.returned ping hping hinTime)

theorem Balanced.clone
    (hbalanced : pack.Balanced timeout probes world) (number : Nat) :
    (pack.perform probes world (.clone number)).Balanced
      timeout probes world := by
  cases hown : pack.timeouts[number]? with
  | none => simpa only [perform, hown] using hbalanced
  | some own =>
      simp only [perform, hown]
      refine ⟨hbalanced.counts, ?_, ?_, hbalanced.unsettled, hbalanced.traced,
        hbalanced.answered, hbalanced.returned⟩
      · exact List.append_ne_nil_of_left_ne_nil hbalanced.members _
      intro other hother
      rcases List.mem_append.mp hother with hother | hother
      · exact hbalanced.timeouts other hother
      · rw [List.mem_singleton.mp hother]
        exact hbalanced.timeouts own (List.mem_of_getElem? hown)

theorem Balanced.pinged
    (hbalanced : pack.Balanced timeout probes world)
    {position : Position} {probe : Probe} (hprobe : probes position = some probe)
    (live : Bool) :
    let patrol :=
      { pack.patrol with watchdog := { pack.patrol.watchdog with timeout } }
    ({ pack with patrol := (patrol.ping world position probe live).2 } :
      Pack).Balanced timeout probes world := by
  intro patrol
  have hle : pack.now ≤ (patrol.watch world position probe).answered :=
    Watchdog.le_answered timeout pack.now probe _
  have htraces := patrol.traces_written world position probe live
  rw [patrol.snd_ping]
  constructor
  case counts =>
    have hcounts :
        patrol.watchdog.Counts patrol.now (owedBy probes patrol.pings) :=
      ⟨hbalanced.counts.detached, hbalanced.counts.abandoned⟩
    exact hcounts.answered hbalanced.unsettled hprobe rfl rfl
  case members => exact hbalanced.members
  case timeouts => exact hbalanced.timeouts
  case unsettled =>
    intro hzero
    have hunsettled := hbalanced.unsettled hzero
    exact Watchdog.settled_answered_race timeout pack.now probe _ hzero
      hunsettled
  case traced =>
    intro ping hping
    rcases List.mem_cons.mp hping with rfl | hping
    · exact ⟨probe, hprobe, htraces⟩
    · exact hbalanced.traced ping hping
  case answered =>
    intro ping hping
    rcases List.mem_cons.mp hping with rfl | hping
    · exact Option.some_ne_none _
    · exact hbalanced.answered ping hping
  case returned =>
    intro ping hping hinTime
    rcases List.mem_cons.mp hping with rfl | hping
    · exact patrol.returned_written world position probe live hinTime
    · exact Ping.hasReturned_of_le hle (hbalanced.returned ping hping hinTime)

theorem Balanced.ping
    (hbalanced : pack.Balanced timeout probes world)
    (number : Nat) (position : Position) (live : Bool) :
    (pack.perform probes world (.ping number position live)).Balanced
      timeout probes world := by
  cases hmember : pack.member? number with
  | none => simpa only [perform, hmember] using hbalanced
  | some member =>
      cases hprobe : probes position with
      | none => simpa only [perform, hmember, hprobe] using hbalanced
      | some probe =>
          obtain ⟨own, hown, rfl⟩ := member?_eq_some hmember
          obtain rfl := hbalanced.timeouts own (List.mem_of_getElem? hown)
          simp only [perform, hmember, hprobe]
          exact hbalanced.pinged hprobe live

theorem Balanced.perform
    (hbalanced : pack.Balanced timeout probes world) (errand : Errand) :
    (pack.perform probes world errand).Balanced timeout probes world := by
  cases errand with
  | ping number position live => exact hbalanced.ping number position live
  | clone number => exact hbalanced.clone number
  | sleep wait => exact hbalanced.sleep wait

theorem Balanced.performAll
    (hbalanced : pack.Balanced timeout probes world)
    (errands : List Errand) :
    (pack.performAll probes world errands).Balanced timeout probes world := by
  induction errands generalizing pack with
  | nil => exact hbalanced
  | cons errand errands ih => exact ih (hbalanced.perform errand)

/-! ## The account of a pack -/

/-- What the count says at any moment before the next errand, and what became
of each call. -/
structure CountRecord
    (timeout : Nat) (probes : Position → Option Probe) (world : World)
    (pack : Pack) : Prop where
  first : (pack.member? 0).isSome = true
  count : ∀ number member, pack.member? number = some member →
    member.abandoned = pack.pings.countP (·.isAbandoned probes pack.now) ∧
      ∀ moment, pack.now ≤ moment →
        (member.settle moment).abandoned =
          pack.pings.countP (·.isAbandoned probes moment)
  inFlight : ∀ moment, pack.now ≤ moment → ∀ ping ∈ pack.pings,
    ping.isInFlight probes moment = ping.isAbandoned probes moment
  /-- Each call left running raised the count once, and has lowered it once if
  it has returned. -/
  balance : ∀ moment, pack.now ≤ moment →
    (pack.patrol.watchdog.settle moment).abandoned +
        pack.pings.countP
          (fun ping => ping.isDetached probes && ping.hasReturned moment) =
      pack.pings.countP (·.isDetached probes)
  /-- No call lowers a count that is zero. -/
  lowered : ∀ moment : Moment,
    pack.patrol.watchdog.detached.countP (·.any moment.reached) ≤
      pack.patrol.watchdog.abandoned
  drained : ∀ moment, pack.now ≤ moment →
    (∀ ping ∈ pack.pings, ping.isDetached probes = true →
      ping.hasReturned moment = true) →
    (pack.patrol.watchdog.settle moment).abandoned = 0
  traced : ∀ ping ∈ pack.pings, ∃ probe, probes ping.position = some probe ∧
    ping.Traces timeout probe (world.call ping.position ping.number)
  answered : ∀ ping ∈ pack.pings, ping.outcome ≠ none

/-- What one errand does to the count. -/
structure CountStep
    (probes : Position → Option Probe) (pack next : Pack) (made : List Ping) :
    Prop where
  pings : next.pings = made ++ pack.pings
  count :
    next.patrol.watchdog.abandoned +
        pack.pings.countP
          (fun ping =>
            ping.isAbandoned probes pack.now && ping.hasReturned next.now) =
      pack.patrol.watchdog.abandoned + made.countP (·.isDetached probes)

theorem member?_settle
    {number : Nat} {member : Watchdog}
    (hmember : pack.member? number = some member) (moment : Moment) :
    (member.settle moment).abandoned =
      (pack.patrol.watchdog.settle moment).abandoned := by
  obtain ⟨own, -, rfl⟩ := member?_eq_some hmember
  rfl

theorem Balanced.settled
    (hbalanced : pack.Balanced timeout probes world) {moment : Moment}
    (hle : pack.now ≤ moment) :
    (pack.patrol.watchdog.settle moment).abandoned =
      pack.pings.countP (·.isAbandoned probes moment) :=
  (hbalanced.counts.settle hle).abandoned_eq

theorem countP_isDetached (now : Moment) (pings : List Ping) :
    pings.countP (·.isAbandoned probes now) +
        pings.countP
          (fun ping => ping.isDetached probes && ping.hasReturned now) =
      pings.countP (·.isDetached probes) := by
  induction pings with
  | nil => rfl
  | cons ping pings ih =>
      simp only [List.countP_cons, Ping.isAbandoned] at ih ⊢
      cases ping.isDetached probes with
      | false => simpa using ih
      | true =>
          cases ping.hasReturned now with
          | false => simp; omega
          | true => simp; omega

theorem Balanced.countRecord
    (hbalanced : pack.Balanced timeout probes world) :
    pack.CountRecord timeout probes world where
  first := by
    have hlt : 0 < pack.timeouts.length :=
      List.length_pos_iff.mpr hbalanced.members
    rw [member?, Option.isSome_map, List.getElem?_eq_getElem hlt]
    rfl
  count := by
    intro number member hmember
    constructor
    · obtain ⟨own, -, rfl⟩ := member?_eq_some hmember
      exact hbalanced.counts.abandoned_eq
    · intro moment hle
      rw [member?_settle hmember, hbalanced.settled hle]
  inFlight := by
    intro moment hle ping hping
    obtain ⟨probe, hprobe, -⟩ := hbalanced.traced ping hping
    apply Ping.isInFlight_eq hprobe
    intro hinTime
    exact Ping.hasReturned_of_le hle (hbalanced.returned ping hping hinTime)
  balance := by
    intro moment hle
    rw [hbalanced.settled hle]
    exact countP_isDetached moment pack.pings
  lowered moment := hbalanced.counts.returned_le moment
  drained := by
    intro moment hle hdone
    rw [hbalanced.settled hle, List.countP_eq_zero]
    intro ping hping habandoned
    simp only [Ping.isAbandoned, Bool.and_eq_true, Bool.not_eq_true'] at habandoned
    have hreturned := hdone ping hping habandoned.1
    exact Bool.false_ne_true (habandoned.2.symm.trans hreturned)
  traced := hbalanced.traced
  answered := hbalanced.answered

/-! ## One errand -/

theorem le_now_perform (errand : Errand) :
    pack.now ≤ (pack.perform probes world errand).now := by
  cases errand with
  | ping number position live =>
      simp only [Pack.perform]
      split
      next member probe _ _ =>
        rw [now, now, Patrol.snd_ping]
        exact Watchdog.le_answered _ _ _ _
      next => exact Moment.le_refl _
  | clone number =>
      simp only [Pack.perform]
      split
      next => exact Moment.le_refl _
      next => exact Moment.le_refl _
  | sleep wait => exact Moment.le_timer pack.now wait

theorem Balanced.running
    (hbalanced : pack.Balanced timeout probes world) (errand : Errand) :
    ∀ ping ∈ pack.made probes world errand, ping.isDetached probes = true →
      ping.hasReturned (pack.perform probes world errand).now = false := by
  cases errand with
  | ping number position live =>
      simp only [Pack.perform, made]
      split
      next member probe hmember hprobe =>
        obtain ⟨own, hown, rfl⟩ := member?_eq_some hmember
        obtain rfl := hbalanced.timeouts own (List.mem_of_getElem? hown)
        intro ping hping hdetached
        obtain rfl := List.mem_singleton.mp hping
        rw [now, Patrol.snd_ping]
        apply Patrol.running_written
        · exact hbalanced.unsettled
        · simp only [Ping.isDetached, Bool.and_eq_true] at hdetached
          exact beq_iff_eq.mp hdetached.1
      next => exact List.forall_mem_nil _
  | clone number => exact List.forall_mem_nil _
  | sleep wait => exact List.forall_mem_nil _

theorem countP_isAbandoned_of_le
    (probes : Position → Option Probe) {now later : Moment} (hle : now ≤ later)
    (pings : List Ping) :
    pings.countP (·.isAbandoned probes now) =
      pings.countP (·.isAbandoned probes later) +
        pings.countP
          (fun ping =>
            ping.isAbandoned probes now && ping.hasReturned later) := by
  induction pings with
  | nil => rfl
  | cons ping pings ih =>
      have hkept : ping.hasReturned now = true →
          ping.hasReturned later = true := Ping.hasReturned_of_le hle
      simp only [List.countP_cons, Ping.isAbandoned] at ih ⊢
      cases ping.isDetached probes with
      | false => simpa using ih
      | true =>
          cases hnow : ping.hasReturned now with
          | true => simpa [hkept hnow] using ih
          | false =>
              cases ping.hasReturned later with
              | false => simp; omega
              | true => simp; omega

theorem Balanced.countStep
    (hbalanced : pack.Balanced timeout probes world) (errand : Errand) :
    CountStep probes pack (pack.perform probes world errand)
      (pack.made probes world errand) where
  pings := pings_perform errand
  count := by
    have hnext := hbalanced.perform errand
    have hle : pack.now ≤ (pack.perform probes world errand).now :=
      le_now_perform errand
    have hmade :
        (pack.made probes world errand).countP
            (·.isAbandoned probes (pack.perform probes world errand).now) =
          (pack.made probes world errand).countP (·.isDetached probes) := by
      apply List.countP_congr
      intro ping hping
      have hrunning := hbalanced.running errand ping hping
      simp only [Ping.isAbandoned, Bool.and_eq_true, Bool.not_eq_true']
      exact and_iff_left_of_imp hrunning
    have hbefore := countP_isAbandoned_of_le probes hle pack.pings
    rw [hnext.counts.abandoned_eq, hbalanced.counts.abandoned_eq,
      pings_perform, List.countP_append, hmade, hbefore]
    omega

end Pack

/-- Whatever is done with a watchdog and its clones, the count that each shows
is the number of calls that were answered as timed out, could not be stopped and
have not returned: all that still run. -/
theorem pack_countRecord
    (timeout : Nat) (probes : Position → Option Probe) (world : World)
    (errands : List Errand) :
    let pack := (Pack.start timeout).performAll probes world errands
    pack.CountRecord timeout probes world ∧
      ∀ errand,
        Pack.CountStep probes pack (pack.perform probes world errand)
          (pack.made probes world errand) := by
  intro pack
  have hbalanced : pack.Balanced timeout probes world :=
    Pack.balanced_start.performAll errands
  exact ⟨hbalanced.countRecord, hbalanced.countStep⟩

end HealthMonitor
