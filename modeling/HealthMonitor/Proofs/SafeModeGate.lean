import HealthMonitor.Assembly
import HealthMonitor.Proofs.DependencyGate
import Mathlib.Data.List.Count

/-!
# The safe mode probe at the gate

A safe mode probe knows what its last readable answer said, and a ping that
brings none teaches it nothing.  As a dependency of a monitor it is judged by
the answer to the very ping of the pass: what it knew before counts for nothing.
The main statement is `safeModeProbe_record`.
-/

namespace HealthMonitor

namespace SafeModeProbe

/-- A reply gives the text `state` for the safe mode: it is a success, and its
body is JSON with that text where the attribute is. -/
def Tells (reply : Reply) (state : String) : Prop :=
  200 ≤ reply.code ∧ reply.code < 300 ∧
    ∃ attributes, Json.ofBytes? reply.body = some attributes ∧
      attributes.at? ["beans", "0", "Safemode"] = some (.string state)

/-- The master answers a ping with a reply that gives the text `state`. -/
def Answers
    (probe : SafeModeProbe) (exchange : Exchange) (state : String) : Prop :=
  ∃ reply, fetch probe.uri probe.timeout exchange = .ok reply ∧
    Tells reply state

/-- A ping: what the network makes of it, and how long it may take before it is
cancelled, if it ever is. -/
structure Attempt where
  exchange : Exchange
  patience : Option Nat := none

/-- Whether a ping ends before it is cancelled. -/
def endsInTime (probe : SafeModeProbe) (attempt : Attempt) : Bool :=
  attempt.patience.all fun patience =>
    decide (fetchTime probe.uri probe.timeout attempt.exchange < patience)

/-- What a probe that knew its master to be in safe mode or not knows after one
more ping. -/
def learn (probe : SafeModeProbe) (known : Bool) (attempt : Attempt) : Bool :=
  if probe.endsInTime attempt then (probe.ping known attempt.exchange).2
  else known

/-- What the probe knows after some pings. -/
def knownAfter (probe : SafeModeProbe) (attempts : List Attempt) : Bool :=
  attempts.foldl probe.learn false

/-- A ping brought an answer before it was cancelled. -/
def Brings
    (probe : SafeModeProbe) (attempt : Attempt) (state : String) : Prop :=
  probe.endsInTime attempt = true ∧ probe.Answers attempt.exchange state

/-- What a probe knows of safe mode, whatever pings it made. -/
structure Reads (probe : SafeModeProbe) : Prop where
  succeeds_iff : ∀ known exchange,
    (probe.ping known exchange).1.success = true ↔
      ∃ state, probe.Answers exchange state
  failed : ∀ known exchange, (probe.ping known exchange).1.success = false →
    (probe.ping known exchange).2 = known
  unchanged : ∀ attempts attempt, (∀ state, ¬probe.Brings attempt state) →
    probe.knownAfter (attempts ++ [attempt]) = probe.knownAfter attempts
  /-- What the last answer said counts, -/
  latest : ∀ before attempt after state, probe.Brings attempt state →
    (∀ other ∈ after, ∀ state, ¬probe.Brings other state) →
      probe.knownAfter (before ++ attempt :: after) = !state.isEmpty
  /-- and if there was none, the master is not in safe mode. -/
  never : ∀ attempts, (∀ attempt ∈ attempts, ∀ state,
    ¬probe.Brings attempt state) → probe.knownAfter attempts = false
  /-- What the calls of a monitor know before each ping. -/
  knownBefore : ∀ patience exchanges count,
    probe.knownBefore patience exchanges count =
      probe.knownAfter
        ((List.range count).map fun number =>
          ⟨exchanges number, some patience⟩)

/-! ## One ping -/

section Pinging

variable {probe : SafeModeProbe} {exchange : Exchange} {reply : Reply}
  {state : String}

theorem readReply_of_tells
    (htells : Tells reply state) : readReply reply = .ok !state.isEmpty := by
  obtain ⟨hmin, hmax, attributes, hbody, hattribute⟩ := htells
  have hpath : attributes.at? attributePath = some (.string state) := hattribute
  simp [readReply, Reply.isSuccess, hmin, hmax, readBody, hbody, hpath]

theorem exists_tells_of_readReply
    {inSafeMode : Bool} (hread : readReply reply = .ok inSafeMode) :
    ∃ state, Tells reply state ∧ inSafeMode = !state.isEmpty := by
  unfold readReply at hread
  split at hread
  next hsuccess =>
    rw [Reply.isSuccess, Bool.and_eq_true, decide_eq_true_eq,
      decide_eq_true_eq] at hsuccess
    unfold readBody at hread
    split at hread
    next => exact nomatch hread
    next attributes hbody =>
      split at hread
      next state hattribute =>
        exact ⟨state, ⟨hsuccess.1, hsuccess.2, attributes, hbody, hattribute⟩,
          (Except.ok.inj hread).symm⟩
      next => exact nomatch hread
      next => exact nomatch hread
  next => exact nomatch hread

theorem ping_of_answers
    (hanswers : probe.Answers exchange state) (known : Bool) :
    (probe.ping known exchange).1.success = true ∧
      (probe.ping known exchange).2 = !state.isEmpty := by
  obtain ⟨reply, hreply, htells⟩ := hanswers
  have hread := readReply_of_tells htells
  simp [ping, hreply, status, reported?, hread, Status.up, Except.toOption]

theorem ping_of_unanswered
    (hnone : ∀ state, ¬probe.Answers exchange state) (known : Bool) :
    (probe.ping known exchange).1.success = false ∧
      (probe.ping known exchange).2 = known := by
  cases hfetch : fetch probe.uri probe.timeout exchange with
  | error error => simp [ping, hfetch, status, reported?, Status.downBecause]
  | ok reply =>
      cases hread : readReply reply with
      | error reason =>
          simp [ping, hfetch, status, reported?, hread, Status.down,
            Except.toOption]
      | ok inSafeMode =>
          obtain ⟨state, htells, -⟩ := exists_tells_of_readReply hread
          exact absurd ⟨reply, hfetch, htells⟩ (hnone state)

theorem success_ping_iff (known : Bool) :
    (probe.ping known exchange).1.success = true ↔
      ∃ state, probe.Answers exchange state := by
  by_cases hanswered : ∃ state, probe.Answers exchange state
  · obtain ⟨state, hanswers⟩ := hanswered
    exact iff_of_true (ping_of_answers hanswers known).1 ⟨state, hanswers⟩
  · refine iff_of_false ?_ hanswered
    rw [(ping_of_unanswered (not_exists.mp hanswered) known).1]
    exact Bool.false_ne_true

end Pinging

/-! ## Many pings -/

section Learning

variable {probe : SafeModeProbe} {attempt : Attempt} {state : String}

theorem learn_of_brings
    (hbrings : probe.Brings attempt state) (known : Bool) :
    probe.learn known attempt = !state.isEmpty := by
  rw [learn, if_pos hbrings.1]
  exact (ping_of_answers hbrings.2 known).2

theorem learn_of_nothing
    (hnone : ∀ state, ¬probe.Brings attempt state) (known : Bool) :
    probe.learn known attempt = known := by
  unfold learn
  split
  next hends =>
    exact (ping_of_unanswered (fun state hanswers =>
      hnone state ⟨hends, hanswers⟩) known).2
  next => rfl

theorem foldl_learn_of_nothing
    {attempts : List Attempt}
    (hnone : ∀ attempt ∈ attempts, ∀ state, ¬probe.Brings attempt state)
    (known : Bool) :
    attempts.foldl probe.learn known = known := by
  induction attempts generalizing known with
  | nil => rfl
  | cons attempt attempts ih =>
      rw [List.foldl_cons, learn_of_nothing (hnone attempt List.mem_cons_self)]
      exact ih (fun other hmem => hnone other (List.mem_cons_of_mem _ hmem)) _

theorem knownBefore_eq
    (patience : Nat) (exchanges : Nat → Exchange) (count : Nat) :
    probe.knownBefore patience exchanges count =
      probe.knownAfter
        ((List.range count).map fun number =>
          ⟨exchanges number, some patience⟩) := by
  induction count with
  | zero => rfl
  | succ count ih =>
      rw [knownBefore, ih, List.range_succ, List.map_append, knownAfter,
        knownAfter, List.foldl_append]
      simp [learn, endsInTime]

theorem reads (probe : SafeModeProbe) : probe.Reads where
  succeeds_iff known exchange := success_ping_iff known
  failed known exchange hfailed := by
    refine (ping_of_unanswered (fun state hanswers => ?_) known).2
    exact nomatch (ping_of_answers hanswers known).1.symm.trans hfailed
  unchanged attempts attempt hnone := by
    rw [knownAfter, List.foldl_append, List.foldl_cons, List.foldl_nil,
      learn_of_nothing hnone]
    rfl
  latest before attempt after state hbrings hafter := by
    rw [knownAfter, List.foldl_append, List.foldl_cons,
      foldl_learn_of_nothing hafter, learn_of_brings hbrings]
  never attempts hnone := foldl_learn_of_nothing hnone false
  knownBefore := knownBefore_eq

end Learning

end SafeModeProbe

/-! ## The calls of a dependency -/

namespace SafeModeProbe

section Calls

variable {probe : SafeModeProbe}

/-- What the network makes of the pings of a probe, by their number. -/
def exchanges (probe : SafeModeProbe) (views : Nat → View) (number : Nat) :
    Exchange :=
  (views number).exchange probe.uri

/-- The answer to the ping of some number came in time, with the text `state`
for the safe mode. -/
def BringsAt
    (probe : SafeModeProbe) (timeout : Nat) (views : Nat → View)
    (number : Nat) (state : String) : Prop :=
  probe.Brings ⟨probe.exchanges views number, some timeout⟩ state

/-- Whether the answers of a dependency satisfy the gate in the pass of some
number. -/
def SatisfiesAt
    (probe : SafeModeProbe) (policy : SafeModePolicy) (timeout : Nat)
    (views : Nat → View) (number : Nat) : Prop :=
  probe.BringsAt timeout views number "" ∨
    (∃ state, state ≠ "" ∧ probe.BringsAt timeout views number state) ∧
      policy = .ignoreReentry ∧
        ∃ earlier, earlier < number ∧ probe.BringsAt timeout views earlier ""

/-- A call comes back in time with a success exactly if the answer does, and
then the probe knows what the answer says. -/
theorem completes_iff
    (names : Net.Names) (timeout : Nat) (views : Nat → View) (number : Nat)
    (watched : Probe) (inSafeMode : Bool) :
    (∃ status,
      ((Target.safeMode probe).call names timeout views number).answer timeout
          watched = .completed status ∧
        status.success = true ∧
        ((Target.safeMode probe).call names timeout views number).safeMode =
          inSafeMode) ↔
      ∃ state, probe.BringsAt timeout views number state ∧
        inSafeMode = !state.isEmpty := by
  have hanswer :
      ((Target.safeMode probe).call names timeout views number).answer timeout
          watched =
        if fetchTime probe.uri probe.timeout (probe.exchanges views number) <
            timeout then
          .completed
            (probe.ping
              (probe.knownBefore timeout (probe.exchanges views) number)
              (probe.exchanges views number)).1
        else .timedOut := rfl
  have hsafeMode :
      ((Target.safeMode probe).call names timeout views number).safeMode =
        (probe.ping
          (probe.knownBefore timeout (probe.exchanges views) number)
          (probe.exchanges views number)).2 := rfl
  rw [hanswer, hsafeMode]
  constructor
  · rintro ⟨status, hcompleted, hsuccess, rfl⟩
    split at hcompleted
    next hintime =>
      obtain rfl := PingOutcome.completed.inj hcompleted
      obtain ⟨state, hanswers⟩ := (success_ping_iff _).mp hsuccess
      refine ⟨state, ⟨?_, hanswers⟩, (ping_of_answers hanswers _).2⟩
      simpa [endsInTime] using hintime
    next => exact nomatch hcompleted
  · rintro ⟨state, ⟨hends, hanswers⟩, rfl⟩
    have hintime :
        fetchTime probe.uri probe.timeout (probe.exchanges views number) <
          timeout := by
      simpa [endsInTime] using hends
    obtain ⟨hsuccess, hknown⟩ := ping_of_answers hanswers
      (probe.knownBefore timeout (probe.exchanges views) number)
    exact ⟨_, if_pos hintime, hsuccess, hknown⟩

end Calls

end SafeModeProbe

/-! ## The pings of a dependency -/

section Counting

variable {place : Nat → Position} {live : Bool} {pass front back : List Ping}
  {ping : Ping} {index : Nat}

theorem Sweep.countP_position
    (hsweep : Sweep place live pass) (hplace : Function.Injective place)
    (hindex : index < pass.length) :
    pass.countP (·.position = place index) = 1 := by
  have hmapped :
      pass.countP (·.position = place index) =
        (pass.map (·.position)).count (place index) := by
    rw [List.count_eq_countP, List.countP_map]
    congr 1
  rw [hmapped, hsweep.positions, List.count_map_of_injective _ _ hplace,
    List.count_range, if_pos hindex]

theorem Sweep.countP_front
    (hsweep : Sweep place live (front ++ ping :: back))
    (hplace : Function.Injective place) :
    front.countP (·.position = ping.position) = 0 := by
  have hping : ping.position = place front.length :=
    hsweep.position_getElem? (by simp)
  rw [List.countP_eq_zero]
  intro other hmem
  obtain ⟨number, hnumber⟩ := List.mem_iff_getElem?.mp hmem
  have hroom := (List.getElem?_eq_some_iff.mp hnumber).1
  have hother : other.position = place number := by
    apply hsweep.position_getElem?
    rw [List.getElem?_append_left hroom, hnumber]
  rw [hother, hping, decide_eq_true_eq]
  intro heq
  have hsame := hplace heq
  omega

/-- Each of some passes pings a place once. -/
theorem countP_flatten
    {passes : List (List Ping)} {count : Nat}
    (hcomplete : ∀ pass ∈ passes, Sweep place live pass ∧ pass.length = count)
    (hplace : Function.Injective place) (hindex : index < count) :
    passes.flatten.countP (·.position = place index) = passes.length := by
  induction passes with
  | nil => rfl
  | cons pass passes ih =>
      obtain ⟨hsweep, hfull⟩ := hcomplete pass List.mem_cons_self
      have hrest := ih fun other hmem =>
        hcomplete other (List.mem_cons_of_mem _ hmem)
      rw [List.flatten_cons, List.countP_append, hrest,
        hsweep.countP_position hplace (by omega), List.length_cons,
        Nat.add_comm]

end Counting

/-! ## The gate -/

section Gate

variable {σ : Type} {monitor : Monitor σ} {world : World}
  {probe : SafeModeProbe} {views : Nat → View} {index : Nat}
  {origin : State σ}

/-- The dependency of some index is watched by a safe mode probe, which the
network shows `views`. -/
structure Monitor.WatchesMaster
    (monitor : Monitor σ) (world : World) (probe : SafeModeProbe)
    (views : Nat → View) (index : Nat) : Prop where
  watched :
    monitor.probe? (.dependency index) = some (Target.safeMode probe).probe
  call : ∃ names, ∀ number,
    world.call (.dependency index) number =
      (Target.safeMode probe).call names monitor.timing.probeTimeout views
        number

/-- A safe mode probe among the dependencies of a plan. -/
theorem Plan.watchesMaster
    {plan : Plan} (reporter : Reporter σ) (site : Site)
    (hdependency : plan.dependencies[index]? = some (.safeMode probe)) :
    (plan.monitor reporter).WatchesMaster (plan.world site) probe
      (site.view (.dependency index)) index where
  watched := by simp [Plan.monitor, Monitor.probe?, hdependency]
  call := ⟨site.names, fun number => by
    simp [Plan.world, Site.world, Site.target?, hdependency, Plan.monitor]⟩

/-- In each of some passes over the dependencies, the ping of a safe mode probe
satisfies the gate exactly if the answers up to it say so. -/
def JudgedByAnswers
    (monitor : Monitor σ) (world : World) (probe : SafeModeProbe)
    (views : Nat → View) (index : Nat) (passes : List (List Ping)) : Prop :=
  ∀ before pass after, passes = before ++ pass :: after →
    ∃ ping, pass[index]? = some ping ∧ ping.position = .dependency index ∧
      ping.number = before.length ∧
      (monitor.Satisfies world before.flatten ping ↔
        probe.SatisfiesAt monitor.timing.policy monitor.timing.probeTimeout
          views before.length)

theorem dependency_injective : Function.Injective Position.dependency :=
  fun _ _ => Position.dependency.inj

/-- The pings of a dependency are numbered by the passes. -/
theorem CountedFrom.number_eq
    {passes before after : List (List Ping)} {pass more : List Ping}
    (hcounted : CountedFrom origin (passes.flatten ++ more))
    (hslot : origin.slot? (.dependency index) = some {}) {count : Nat}
    (hcomplete : ∀ pass ∈ passes,
      Sweep .dependency false pass ∧ pass.length = count)
    (hindex : index < count) (hsplit : passes = before ++ pass :: after)
    {ping : Ping} (hmem : ping ∈ pass)
    (hposition : ping.position = .dependency index) :
    ping.number = before.length := by
  obtain ⟨front, back, rfl⟩ := List.append_of_mem hmem
  have hpings :
      passes.flatten ++ more =
        (before.flatten ++ front) ++ ping ::
          (back ++ after.flatten ++ more) := by
    simp [hsplit]
  have hsweep : Sweep .dependency false (front ++ ping :: back) :=
    (hcomplete _ (by simp [hsplit])).1
  have hfront := hsweep.countP_front dependency_injective
  have hbefore :
      before.flatten.countP (·.position = .dependency index) =
        before.length :=
    countP_flatten
      (fun other hother => hcomplete other (by simp [hsplit, hother]))
      dependency_injective hindex
  have hnumber := hcounted _ ping _ hpings {} (hposition ▸ hslot)
  rw [hposition] at hfront hnumber
  rw [List.countP_append, hfront, hbefore] at hnumber
  simpa using hnumber

theorem Ping.Faithful.outcome_eq
    {timeout : Nat} {ping : Ping} {watched : Probe}
    (hfaithful : ping.Faithful monitor world timeout)
    (hanswered : ping.Answered)
    (hprobe : monitor.probe? ping.position = some watched) :
    ping.outcome =
      some ((world.call ping.position ping.number).answer timeout watched) := by
  obtain ⟨other, hother, hanswer⟩ := hfaithful
  obtain rfl := Option.some.inj (hother.symm.trans hprobe)
  rcases hanswered with ⟨status, houtcome⟩ | houtcome
  · rw [houtcome, ← hanswer _ houtcome]
  · rw [houtcome, ← hanswer _ houtcome]

/-- A ping of the probe came in with a success, and left it knowing what it
knows, exactly if the answer came in time and said so. -/
theorem Monitor.WatchesMaster.succeeded_iff
    (hwatches : monitor.WatchesMaster world probe views index) {ping : Ping}
    (hfaithful : ping.Faithful monitor world monitor.timing.probeTimeout)
    (hanswered : ping.Answered)
    (hposition : ping.position = .dependency index) (inSafeMode : Bool) :
    (∃ status, ping.outcome = some (.completed status) ∧
        status.success = true ∧
        (world.call ping.position ping.number).safeMode = inSafeMode) ↔
      ∃ state,
        probe.BringsAt monitor.timing.probeTimeout views ping.number state ∧
          inSafeMode = !state.isEmpty := by
  obtain ⟨names, hcall⟩ := hwatches.call
  have hprobe : monitor.probe? ping.position =
      some (Target.safeMode probe).probe := by
    rw [hposition]
    exact hwatches.watched
  rw [hfaithful.outcome_eq hanswered hprobe, hposition, hcall,
    ← SafeModeProbe.completes_iff names _ views ping.number
      (Target.safeMode probe).probe]
  simp only [Option.some.injEq]

theorem Monitor.WatchesMaster.leftSafeMode_iff
    (hwatches : monitor.WatchesMaster world probe views index) {ping : Ping}
    (hfaithful : ping.Faithful monitor world monitor.timing.probeTimeout)
    (hanswered : ping.Answered)
    (hposition : ping.position = .dependency index) :
    ping.leftSafeMode world = true ↔
      probe.BringsAt monitor.timing.probeTimeout views ping.number "" := by
  have hsucceeded :=
    hwatches.succeeded_iff hfaithful hanswered hposition false
  rw [Ping.leftSafeMode, Bool.and_eq_true, Bool.not_eq_true']
  constructor
  · rintro ⟨hsuccess, hsafeMode⟩
    obtain ⟨status, houtcome, hup⟩ := Ping.exists_status_of_succeeded hsuccess
    obtain ⟨state, hbrings, hempty⟩ :=
      hsucceeded.mp ⟨status, houtcome, hup, hsafeMode⟩
    obtain rfl : state = "" := by simpa using hempty
    exact hbrings
  · intro hbrings
    obtain ⟨status, houtcome, hup, hsafeMode⟩ :=
      hsucceeded.mpr ⟨"", hbrings, rfl⟩
    exact ⟨(Ping.succeeded_of_completed houtcome).trans hup, hsafeMode⟩

/-- Passes whose pings of the dependency are faithful and numbered in order. -/
structure InOrder
    (monitor : Monitor σ) (world : World) (index : Nat)
    (passes : List (List Ping)) : Prop where
  placed : ∀ pass ∈ passes, ∃ ping,
    pass[index]? = some ping ∧ ping.position = .dependency index
  number : ∀ before pass after, passes = before ++ pass :: after →
    ∀ ping ∈ pass, ping.position = .dependency index →
      ping.number = before.length
  answered : ∀ pass ∈ passes, ∀ ping ∈ pass, ping.Answered
  faithful : ∀ pass ∈ passes, ∀ ping ∈ pass,
    ping.Faithful monitor world monitor.timing.probeTimeout

/-- Some pass before saw the master out of safe mode exactly if an answer to one
of the pings before said so. -/
theorem InOrder.exists_left_iff
    {passes before after : List (List Ping)} {pass : List Ping}
    (horder : InOrder monitor world index passes)
    (hwatches : monitor.WatchesMaster world probe views index)
    (hsplit : passes = before ++ pass :: after) :
    (∃ other ∈ before.flatten, other.position = .dependency index ∧
        other.leftSafeMode world = true) ↔
      ∃ earlier, earlier < before.length ∧
        probe.BringsAt monitor.timing.probeTimeout views earlier "" := by
  have hearlier : ∀ {front back : List (List Ping)} {found : List Ping},
      before = front ++ found :: back →
        passes = front ++ found :: (back ++ pass :: after) := by
    rintro front back found rfl
    simp [hsplit]
  constructor
  · rintro ⟨other, hother, hposition, hleft⟩
    obtain ⟨found, hfound, hmem⟩ := List.mem_flatten.mp hother
    obtain ⟨front, back, rfl⟩ := List.append_of_mem hfound
    have hpass : found ∈ passes := by simp [hsplit]
    have hnumber :=
      horder.number _ found _ (hearlier rfl) other hmem hposition
    rw [hwatches.leftSafeMode_iff (horder.faithful found hpass other hmem)
      (horder.answered found hpass other hmem) hposition, hnumber] at hleft
    exact ⟨front.length, by simp, hleft⟩
  · rintro ⟨earlier, hlt, hbrings⟩
    obtain ⟨front, found, back, rfl, rfl⟩ :
        ∃ front found back,
          before = front ++ found :: back ∧ front.length = earlier :=
      ⟨before.take earlier, before[earlier], before.drop (earlier + 1),
        by simp, by simp; omega⟩
    have hpass : found ∈ passes := by simp [hsplit]
    obtain ⟨other, hplace, hposition⟩ := horder.placed found hpass
    have hmem : other ∈ found := List.mem_of_getElem? hplace
    have hnumber :=
      horder.number _ found _ (hearlier rfl) other hmem hposition
    refine ⟨other, by simp [hmem], hposition, ?_⟩
    rw [hwatches.leftSafeMode_iff (horder.faithful found hpass other hmem)
      (horder.answered found hpass other hmem) hposition, hnumber]
    exact hbrings

theorem InOrder.satisfies_iff
    {passes before after : List (List Ping)} {pass : List Ping}
    (horder : InOrder monitor world index passes)
    (hwatches : monitor.WatchesMaster world probe views index)
    (hsplit : passes = before ++ pass :: after) {ping : Ping}
    (hmem : ping ∈ pass) (hposition : ping.position = .dependency index) :
    monitor.Satisfies world before.flatten ping ↔
      probe.SatisfiesAt monitor.timing.policy monitor.timing.probeTimeout views
        before.length := by
  have hpass : pass ∈ passes := by simp [hsplit]
  have hnumber := horder.number before pass after hsplit ping hmem hposition
  have hsucceeded := hwatches.succeeded_iff
    (horder.faithful pass hpass ping hmem)
    (horder.answered pass hpass ping hmem) hposition
  have hearlier := horder.exists_left_iff hwatches hsplit
  rw [← hposition] at hearlier
  have hprobe : monitor.probe? ping.position =
      some (Target.safeMode probe).probe := by
    rw [hposition]
    exact hwatches.watched
  constructor
  · rintro ⟨watched, status, hwatched, houtcome, hsuccess, hjudged⟩
    obtain rfl := Option.some.inj (hwatched.symm.trans hprobe)
    obtain ⟨state, hbrings, hstate⟩ :=
      (hsucceeded _).mp ⟨status, houtcome, hsuccess, rfl⟩
    rw [hnumber] at hbrings
    by_cases hempty : state = ""
    · exact .inl (hempty ▸ hbrings)
    · -- In safe mode by this very answer, so only the policy can let it pass.
      rcases hjudged with hincapable | hout | ⟨hpolicy, hleft⟩
      · exact nomatch hincapable
      · simp [hout, hempty] at hstate
      · exact .inr ⟨⟨state, hempty, hbrings⟩, hpolicy, hearlier.mp hleft⟩
  · rintro (hbrings | ⟨⟨state, -, hbrings⟩, hpolicy, hleft⟩) <;>
      rw [← hnumber] at hbrings
    · obtain ⟨status, houtcome, hsuccess, hout⟩ :=
        (hsucceeded false).mpr ⟨"", hbrings, rfl⟩
      exact ⟨_, status, hprobe, houtcome, hsuccess, .inr (.inl hout)⟩
    · obtain ⟨status, houtcome, hsuccess, -⟩ :=
        (hsucceeded _).mpr ⟨state, hbrings, rfl⟩
      exact ⟨_, status, hprobe, houtcome, hsuccess,
        .inr (.inr ⟨hpolicy, hearlier.mpr hleft⟩)⟩

theorem Gated.inOrder
    {exit : Option RunExit} {wait rest : List Entry}
    {passes : List (List Ping)} {cut : List Ping}
    (hgated : Gated monitor world exit wait rest passes cut)
    (hfresh : monitor.Fresh origin)
    (hcounted : CountedFrom origin (pingsIn (wait ++ rest)))
    (hfaithful : ∀ ping ∈ pingsIn (wait ++ rest),
      ping.Faithful monitor world monitor.timing.probeTimeout)
    {watched : Probe}
    (hprobe : monitor.probe? (.dependency index) = some watched) :
    InOrder monitor world index passes := by
  have hindex : index < monitor.dependencies.length :=
    (List.getElem?_eq_some_iff.mp hprobe).1
  have hslot : origin.slot? (.dependency index) = some {} := by
    rw [hfresh.slot?, hprobe]
    rfl
  rw [pingsIn_append, hgated.pings, List.append_assoc] at hcounted hfaithful
  constructor
  case placed =>
    intro pass hpass
    obtain ⟨hsweep, hfull⟩ := hgated.complete pass hpass
    obtain ⟨ping, hping⟩ : ∃ ping, pass[index]? = some ping :=
      ⟨_, List.getElem?_eq_getElem (by omega)⟩
    exact ⟨ping, hping, hsweep.position_getElem? hping⟩
  case number =>
    intro before pass after hsplit ping hmem hposition
    exact hcounted.number_eq hslot hgated.complete hindex hsplit hmem hposition
  case answered =>
    intro pass hpass
    exact (hgated.complete pass hpass).1.answered
  case faithful =>
    intro pass hpass ping hmem
    apply hfaithful
    exact List.mem_append_left _ (List.mem_flatten.mpr ⟨pass, hpass, hmem⟩)

end Gate

/-! ## The main statement -/

/-- What a safe mode probe knows is what the last ping that brought an answer
said.  And where such a probe watches a dependency of a monitor that has not run
before, a pass of the wait finds the dependency satisfied exactly if the answer
to the ping of that very pass says so, or, where reentry is ignored, an earlier
one did: no flag that is left from an earlier ping opens or closes the gate. -/
theorem safeModeProbe_record (probe : SafeModeProbe) :
    probe.Reads ∧
    ∀ {σ : Type} {monitor : Monitor σ} {world : World} {views : Nat → View}
      {index : Nat} {stop : Option Nat} {fuel : Nat} {origin final : State σ}
      {exit : Option RunExit},
      monitor.WatchesMaster world probe views index →
      monitor.Fresh origin →
      monitor.run world stop fuel origin = (.ok exit, final) →
      ∃ wait rest passes cut, final.since origin = wait ++ rest ∧
        Gated monitor world exit wait rest passes cut ∧
        JudgedByAnswers monitor world probe views index passes := by
  refine ⟨SafeModeProbe.reads probe, ?_⟩
  intro σ monitor world views index stop fuel origin final exit hwatches hfresh
    hrun
  obtain ⟨hcontinues, hlog⟩ := run_log hrun
  obtain ⟨wait, rest, passes, cut, hentries, hgated⟩ := hlog.gated hfresh
  have hcounted := hcontinues.counted
  have hfaithful := hcontinues.faithful
  rw [hentries] at hcounted hfaithful
  rw [hfresh.reachable.timeout] at hfaithful
  have horder :=
    hgated.inOrder hfresh hcounted hfaithful hwatches.watched
  refine ⟨wait, rest, passes, cut, hentries, hgated, ?_⟩
  intro before pass after hsplit
  obtain ⟨ping, hplace, hposition⟩ := horder.placed pass (by simp [hsplit])
  have hmem : ping ∈ pass := List.mem_of_getElem? hplace
  exact ⟨ping, hplace, hposition,
    horder.number before pass after hsplit ping hmem hposition,
    horder.satisfies_iff hwatches hsplit hmem hposition⟩

/-! ## An example -/

namespace Sample

def master : SafeModeProbe where
  uri := { scheme := some .http, authority := "master:80".toList }
  timeout := 1000

/-- A body that gives a text for the safe mode. -/
def attributes (state : String) : ByteArray :=
  ("\x7b\"beans\":[\x7b\"Safemode\":\"" ++ state ++ "\"\x7d]\x7d").toUTF8

/-- The master is in safe mode, then gone for a while, and then out of it. -/
def masterViews (number : Nat) : View where
  fileContent _ := { value := .ok "7" }
  listing _ := { value := .error .notFound }
  kill pid _ :=
    if pid = 7 then { returned := 0, lastError := 0 }
    else { returned := -1, lastError := 3 }
  connect _ := { value := .unanswered }
  exchange _ :=
    if number = 0 then
      { answer := .replied { code := 200, body := attributes "ON" } }
    else if number = 1 then
      { connection := .failed "refused", answer := .silent }
    else { answer := .replied { code := 200, body := attributes "" } }

/-- A service that depends on the master. -/
def masteredPlan : Plan where
  name := "service"
  dependencies := [.safeMode master]
  primaries := [.pid { file := "service.pid" }]
  timing := {}

def mastered : Monitor Unit :=
  masteredPlan.monitor .default

def masterSite : Site where
  view _ := masterViews

def masterWorld : World :=
  masteredPlan.world masterSite

def masteredStart : State Unit :=
  (mastered.perform masterWorld 0 (.initial mastered ()) .start).2

def masteredEnd : State Unit :=
  (mastered.run masterWorld none 12 masteredStart).2

theorem mastered_fresh : mastered.Fresh masteredStart :=
  .performed (.built rfl) masterWorld 0 rfl

theorem mastered_watches :
    mastered.WatchesMaster masterWorld master masterViews 0 :=
  Plan.watchesMaster .default masterSite rfl

theorem mastered_run_eq :
    mastered.run masterWorld none 12 masteredStart =
      (.ok none, masteredEnd) := by
  have hexit :
      (mastered.run masterWorld none 12 masteredStart).1.toOption =
        some none := by
    decide +kernel
  unfold masteredEnd
  generalize mastered.run masterWorld none 12 masteredStart = found at hexit ⊢
  obtain ⟨exit | exit, final⟩ := found
  · exact nomatch hexit
  · rw [Except.toOption, Option.some.injEq] at hexit
    rw [hexit]

end Sample

/-- The third answer opens the gate: the first was in safe mode. -/
theorem safeModeProbe_record_sample :
    (∃ wait rest passes cut,
      Sample.masteredEnd.since Sample.masteredStart = wait ++ rest ∧
        Gated Sample.mastered Sample.masterWorld none wait rest passes cut ∧
        JudgedByAnswers Sample.mastered Sample.masterWorld Sample.master
          Sample.masterViews 0 passes) ∧
      Sample.masteredEnd.phase = .live :=
  ⟨(safeModeProbe_record Sample.master).2 Sample.mastered_watches
    Sample.mastered_fresh Sample.mastered_run_eq, by decide +kernel⟩

end HealthMonitor
