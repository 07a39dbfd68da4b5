import HealthMonitor.Proofs.Origins
import HealthMonitor.Proofs.Pacing
import HealthMonitor.Proofs.Strides
import Mathlib.Data.List.Chain

/-!
# Rounds

A run goes round the probes of its phase, pauses, and goes round again until it
moves on to a later phase.  In a round each ping begins where the one before it
ended, and a hung call holds it up for no longer than the timeout.  A round
begins one interval after the round before it, or at once if it is the first of
its phase.  So the calls of a probe come at a steady pace
(`run_roundRecord`).
-/

namespace HealthMonitor

variable {σ : Type}

/-! ## Pings that follow each other -/

/-- How a ping goes that is due at some instant. -/
structure Ping.Prompt
    (monitor : Monitor σ) (world : World) (timeout due : Nat) (ping : Ping) :
    Prop where
  started : ping.started = due
  started_le : ping.started ≤ ping.answered
  answered_le : ping.answered ≤ ping.started + timeout
  traced : ping.IsTraced monitor world timeout

section Prompt

variable {monitor : Monitor σ} {world : World} {state : State σ} {pass : Pass}
  {probe : Probe} {moment : Moment} {due : Nat}

/-- A hung call holds a ping up for no longer than the timeout. -/
theorem prompt_answeredPing
    (hprobe : monitor.probe? pass.position = some probe)
    (hdue : state.now.instant = due) :
    (Run.answeredPing world state pass probe).Prompt monitor world
      state.watchdog.timeout due where
  started := hdue
  started_le := Watchdog.le_answered_race _ _ _ _
  answered_le := Watchdog.answered_race_le _ _ _ _
  traced := isTraced_answeredPing hprobe

theorem prompt_brokenPing
    (hprobe : monitor.probe? pass.position = some probe)
    (hlater : state.now.instant < moment.instant)
    (hearly : moment.instant <
      (Run.watchOf world state pass probe).answered.instant)
    (hdue : state.now.instant = due) :
    (Run.brokenPing world state pass moment).Prompt monitor world
      state.watchdog.timeout due where
  started := hdue
  started_le := Nat.le_of_lt hlater
  answered_le :=
    Nat.le_trans (Nat.le_of_lt hearly) (Watchdog.answered_race_le _ _ _ _)
  traced := isTraced_brokenPing hprobe hearly

end Prompt

/-- An entry that is written when it is due.  Only a farewell may come later. -/
def Entry.IsDue (instant : Nat) : Entry → Prop
  | told time callback _ => callback ≠ .unregister → time = instant
  | _ => True

theorem Entry.isDue_of_isAt
    {instant : Nat} {entry : Entry} (hentry : entry.IsAt instant) :
    entry.IsDue instant := by
  cases entry with
  | told time callback verdict => exact fun _ => hentry
  | pinged ping => trivial
  | prepared position => trivial
  | beganBootstrap position => trivial
  | endedBootstrap position => trivial

theorem Pass.position_eq (pass : Pass) :
    pass.position = pass.phase.place pass.index := by
  cases pass with
  | dependencies index blocker => rfl
  | bootstrap index blocker seen => rfl
  | live index clean => rfl

theorem Monitor.lt_countIn
    {monitor : Monitor σ} {phase : Phase} {index : Nat} {probe : Probe}
    (hprobe : monitor.probe? (phase.place index) = some probe) :
    index < monitor.countIn phase := by
  cases phase with
  | dependencyWait => exact (List.getElem?_eq_some_iff.mp hprobe).1
  | bootstrap => exact (List.getElem?_eq_some_iff.mp hprobe).1
  | live => exact (List.getElem?_eq_some_iff.mp hprobe).1

/-! ## One round -/

/-- A round of the probes of a phase, as far as it got, with all that is written
until the next. -/
structure Round where
  phase : Phase
  start : Nat
  entries : List Entry := []

namespace Round

def pings (round : Round) : List Ping :=
  pingsIn round.entries

/-- When the last of its pings ended. -/
def finish (round : Round) : Nat :=
  clockAfter round.start round.pings

def grow (round : Round) (more : List Entry) : Round :=
  { round with entries := round.entries ++ more }

@[simp] theorem phase_grow (round : Round) (more : List Entry) :
    (round.grow more).phase = round.phase := rfl

@[simp] theorem pings_grow (round : Round) (more : List Entry) :
    (round.grow more).pings = round.pings ++ pingsIn more :=
  pingsIn_append _ _

/-- The pings of a round are of the first probes of its phase, one after the
other, and nothing in it waits for anything else. -/
structure Steady
    (monitor : Monitor σ) (world : World) (timeout : Nat) (round : Round) :
    Prop where
  positions :
    round.pings.map (·.position) =
      (List.range round.pings.length).map round.phase.place
  phases : ∀ ping ∈ round.pings, ping.phase = round.phase
  prompt : ∀ before ping after, round.pings = before ++ ping :: after →
    ping.Prompt monitor world timeout (clockAfter round.start before)
  due : ∀ before entry after, round.entries = before ++ entry :: after →
    entry.IsDue (clockAfter round.start (pingsIn before))

variable {monitor : Monitor σ} {world : World} {timeout : Nat}
  {round : Round} {state other : State σ} {more : List Entry} {ping : Ping}
  {left middle right : List Ping}

theorem steady_new (phase : Phase) (start : Nat) :
    Steady monitor world timeout { phase, start } where
  positions := rfl
  phases := List.forall_mem_nil _
  prompt := by
    intro before ping after hsplit
    simp [pings] at hsplit
  due := by
    intro before entry after hsplit
    simp at hsplit

theorem finish_grow_of_quiet (hquiet : pingsIn more = []) :
    (round.grow more).finish = round.finish := by
  rw [finish, pings_grow, hquiet, List.append_nil]
  rfl

theorem Steady.quiet
    (hsteady : round.Steady monitor world timeout)
    (hquiet : pingsIn more = [])
    (hdue : ∀ entry ∈ more, entry.IsDue round.finish) :
    (round.grow more).Steady monitor world timeout := by
  have hpings : (round.grow more).pings = round.pings := by
    rw [pings_grow, hquiet, List.append_nil]
  constructor
  case positions => rw [hpings]; exact hsteady.positions
  case phases => rw [hpings]; exact hsteady.phases
  case prompt => rw [hpings]; exact hsteady.prompt
  case due =>
    apply forall_split_append hsteady.due
    intro before entry after hsplit
    have hbefore : pingsIn before = [] := by
      rw [hsplit, pingsIn_append, List.append_eq_nil_iff] at hquiet
      exact hquiet.1
    have hentry := hdue entry (by simp [hsplit])
    rw [pingsIn_append, hbefore, List.append_nil]
    exact hentry

theorem Steady.writes
    (hsteady : round.Steady monitor world timeout)
    (hwrites : Writes state other more)
    (hnow : state.now.instant = round.finish) :
    (round.grow more).Steady monitor world timeout := by
  apply hsteady.quiet hwrites.pingsIn_eq
  intro entry hmem
  rw [← hnow]
  exact Entry.isDue_of_isAt (hwrites.instants entry hmem)

theorem Steady.farewell
    (hsteady : round.Steady monitor world timeout) (state : State σ) :
    (round.grow (state.farewell monitor)).Steady monitor world timeout := by
  apply hsteady.quiet (pingsIn_farewell monitor state)
  unfold State.farewell
  split
  next => exact List.forall_mem_nil _
  next =>
    rw [List.forall_mem_singleton]
    intro hunregister
    exact absurd rfl hunregister

theorem Steady.pinged
    (hsteady : round.Steady monitor world timeout)
    (hposition : ping.position = round.phase.place round.pings.length)
    (hphase : ping.phase = round.phase)
    (hprompt : ping.Prompt monitor world timeout round.finish) :
    (round.grow [.pinged ping]).Steady monitor world timeout := by
  have hpings : (round.grow [.pinged ping]).pings = round.pings ++ [ping] := by
    simp
  constructor
  case positions =>
    rw [hpings, List.length_append, List.length_singleton, List.range_succ,
      List.map_append, List.map_append, hsteady.positions]
    simp [hposition]
  case phases =>
    rw [hpings]
    exact forall_mem_concat hsteady.phases hphase
  case prompt =>
    rw [hpings]
    exact forall_split_concat hsteady.prompt hprompt
  case due => exact forall_split_concat hsteady.due trivial

theorem finish_pinged (round : Round) (ping : Ping) :
    (round.grow [.pinged ping]).finish = ping.answered := by
  simp [finish]

theorem Steady.position_eq
    (hsteady : round.Steady monitor world timeout)
    (hsplit : round.pings = left ++ ping :: right) :
    ping.position = round.phase.place left.length := by
  have hpositions := hsteady.positions
  have hlt : left.length < round.pings.length := by
    rw [hsplit, List.length_append, List.length_cons]
    omega
  have hget := congrArg (·[left.length]?) hpositions
  simpa [hsplit, List.getElem?_range] using hget

/-- In a round there are no more pings than probes. -/
theorem Steady.length_le
    (hsteady : round.Steady monitor world timeout) :
    round.pings.length ≤ monitor.countIn round.phase := by
  rcases List.eq_nil_or_concat round.pings with hnil | ⟨front, last, hlast⟩
  · rw [hnil]
    exact Nat.zero_le _
  · rw [List.concat_eq_append] at hlast
    obtain ⟨probe, hprobe, -⟩ := (hsteady.prompt front last [] hlast).traced
    rw [hsteady.position_eq hlast] at hprobe
    have hlt := Monitor.lt_countIn hprobe
    rw [hlast, List.length_append, List.length_singleton]
    exact hlt

theorem Steady.clock_bounds
    (hsteady : round.Steady monitor world timeout)
    (hsplit : round.pings = left ++ middle ++ right) :
    clockAfter round.start left ≤ clockAfter round.start (left ++ middle) ∧
      clockAfter round.start (left ++ middle) ≤
        clockAfter round.start left + middle.length * timeout := by
  induction middle generalizing left with
  | nil => simp
  | cons ping rest ih =>
      have hprompt := hsteady.prompt left ping (rest ++ right) (by simp [hsplit])
      have hstarted := hprompt.started
      have hle := hprompt.started_le
      have hbound := hprompt.answered_le
      have hrest : round.pings = left ++ [ping] ++ rest ++ right := by
        simp [hsplit]
      have hmore := ih hrest
      rw [clockAfter_concat] at hmore
      rw [List.append_cons, List.length_cons, Nat.succ_mul]
      omega

end Round

/-! ## Round after round -/

/-- How a round comes after another, which was gone through to the end: a pause
later in the same phase, or at once in a later one. -/
structure Follows
    (monitor : Monitor σ) (earlier later : Round) : Prop where
  full : earlier.pings.length = monitor.countIn earlier.phase
  start :
    (later.phase = earlier.phase ∧
        later.start = earlier.finish + monitor.timing.probeInterval) ∨
      (earlier.phase.rank < later.phase.rank ∧ later.start = earlier.finish)

/-- The entries of a run, cut into its rounds. -/
structure GoesRound
    (monitor : Monitor σ) (world : World) (origin : State σ)
    (rounds : List Round) (entries : List Entry) : Prop where
  entries : entries = rounds.flatMap (·.entries)
  first : ∀ round, rounds.head? = some round →
    round.start = origin.now.instant
  steady : ∀ round ∈ rounds,
    round.Steady monitor world origin.watchdog.timeout
  chain : rounds.IsChain (Follows monitor)

section Going

variable {monitor : Monitor σ} {world : World} {stop : Option Nat}
  {origin state other : State σ} {done : List Round} {current later : Round}
  {entries more : List Entry} {run next : Run σ} {index : Nat}

theorem GoesRound.last
    (hrounds : GoesRound monitor world origin (done ++ [current]) entries) :
    current.Steady monitor world origin.watchdog.timeout :=
  hrounds.steady current (by simp)

theorem GoesRound.grow
    (hrounds : GoesRound monitor world origin (done ++ [current]) entries)
    (hsteady :
      (current.grow more).Steady monitor world origin.watchdog.timeout) :
    GoesRound monitor world origin (done ++ [current.grow more])
      (entries ++ more) where
  entries := by
    rw [hrounds.entries]
    simp [Round.grow]
  first := by
    intro round hround
    cases done with
    | nil =>
        obtain rfl := Option.some.inj hround
        exact hrounds.first current rfl
    | cons head tail => exact hrounds.first round hround
  steady := by
    intro round hround
    rcases List.mem_append.mp hround with hdone | hlast
    · exact hrounds.steady round (List.mem_append_left _ hdone)
    · rw [List.mem_singleton.mp hlast]
      exact hsteady
  chain := by
    have hchain := hrounds.chain
    rw [List.isChain_append] at hchain ⊢
    obtain ⟨hdone, -, hlast⟩ := hchain
    refine ⟨hdone, List.isChain_singleton _, ?_⟩
    intro earlier hearlier last hfound
    obtain rfl := Option.some.inj hfound
    obtain ⟨hfull, hstart⟩ := hlast earlier hearlier current rfl
    exact ⟨hfull, hstart⟩

theorem GoesRound.begin
    (hrounds : GoesRound monitor world origin (done ++ [current]) entries)
    (hfollows : Follows monitor current later)
    (hsteady : later.Steady monitor world origin.watchdog.timeout) :
    GoesRound monitor world origin (done ++ [current] ++ [later])
      (entries ++ later.entries) where
  entries := by
    rw [hrounds.entries]
    simp
  first := by
    intro round hround
    apply hrounds.first round
    cases done with
    | nil => exact hround
    | cons head tail => exact hround
  steady := forall_mem_concat hrounds.steady hsteady
  chain := by
    rw [List.isChain_append]
    refine ⟨hrounds.chain, List.isChain_singleton _, ?_⟩
    intro earlier hearlier last hlast
    rw [List.getLast?_concat] at hearlier
    obtain rfl := Option.some.inj hearlier
    obtain rfl := Option.some.inj hlast
    exact hfollows

theorem GoesRound.pinged
    (hrounds : GoesRound monitor world origin (done ++ [current]) entries)
    {pass : Pass} (hphase : current.phase = pass.phase)
    (hindex : current.pings.length = pass.index) {ping : Ping}
    (hposition : ping.position = pass.position)
    (hlive : ping.live = pass.isLive)
    (hprompt :
      ping.Prompt monitor world origin.watchdog.timeout current.finish) :
    GoesRound monitor world origin (done ++ [current.grow [.pinged ping]])
      (entries ++ [.pinged ping]) := by
  have hplace : ping.position = current.phase.place current.pings.length := by
    rw [hposition, hphase, hindex]
    exact pass.position_eq
  have hsame : ping.phase = current.phase :=
    (Ping.phase_eq_of_pass hposition hlive).trans hphase.symm
  exact hrounds.grow (hrounds.last.pinged hplace hsame hprompt)

/-- A run as it stands in its last round: at the next ping, in the pause after
the last one, or at its end. -/
inductive Rounded
    (monitor : Monitor σ) (world : World) (origin : State σ) :
    Run σ → List Entry → Prop
  | ping {state : State σ} {pass : Pass} {done : List Round} {current : Round}
      {entries : List Entry}
      (hrounds : GoesRound monitor world origin (done ++ [current]) entries)
      (hphase : current.phase = pass.phase)
      (hindex : current.pings.length = pass.index)
      (hnow : state.now.instant = current.finish) :
      Rounded monitor world origin ⟨state, .ping pass⟩ entries
  | pause {state : State σ} {done : List Round} {current : Round}
      {entries : List Entry}
      (hrounds : GoesRound monitor world origin (done ++ [current]) entries)
      (hphase : current.phase = state.phase)
      (hfull : current.pings.length = monitor.countIn current.phase)
      (hnow : state.now.instant = current.finish) :
      Rounded monitor world origin ⟨state, .pause⟩ entries
  | ended {state : State σ} {exit : RunExit} {rounds : List Round}
      {entries : List Entry}
      (hrounds : GoesRound monitor world origin rounds entries) :
      Rounded monitor world origin ⟨state, .ended exit⟩ entries

theorem Rounded.goesRound
    (hrounded : Rounded monitor world origin run entries) :
    ∃ rounds, GoesRound monitor world origin rounds entries := by
  cases hrounded with
  | ping hrounds _ _ _ => exact ⟨_, hrounds⟩
  | pause hrounds _ _ _ => exact ⟨_, hrounds⟩
  | ended hrounds => exact ⟨_, hrounds⟩

theorem Rounded.shutDown
    (hrounds : GoesRound monitor world origin (done ++ [current]) entries)
    (state : State σ) :
    Rounded monitor world origin (Run.shutDown monitor state)
      (entries ++ state.farewell monitor) :=
  .ended (hrounds.grow (hrounds.last.farewell state))

theorem Opens.rounded
    (hopens : Opens monitor origin .dependencyWait run entries) :
    Rounded monitor world origin run entries := by
  have hfirst : ∀ {other : State σ} (phase : Phase),
      Writes origin other entries →
        GoesRound monitor world origin
          ([] ++ [Round.grow { phase, start := origin.now.instant } entries])
          entries := by
    intro other phase hwrites
    constructor
    case entries => simp [Round.grow]
    case first =>
      intro round hround
      obtain rfl := Option.some.inj hround
      rfl
    case steady =>
      rw [List.nil_append, List.forall_mem_singleton]
      exact (Round.steady_new phase _).writes hwrites rfl
    case chain => exact List.isChain_singleton _
  have hfinish : ∀ phase, origin.now.instant =
      (Round.grow { phase, start := origin.now.instant } entries).finish := by
    intro phase
    rw [Round.finish_grow_of_quiet hopens.writes.pingsIn_eq]
    rfl
  have hnone : ∀ phase,
      (Round.grow { phase, start := origin.now.instant } entries).pings = [] := by
    intro phase
    rw [Round.pings_grow, hopens.writes.pingsIn_eq]
    rfl
  cases hopens with
  | @ping other pass entries hwrites hphase _ _ hindex _ =>
      refine .ping (hfirst pass.phase hwrites) rfl ?_ ?_
      · rw [hnone, hindex]
        rfl
      · rw [hwrites.now]
        exact hfinish _
  | idle hwrites hphase hempty _ =>
      refine .pause (hfirst .live hwrites) hphase.symm ?_ ?_
      · rw [hnone, Round.phase_grow, Monitor.countIn, hempty]
        rfl
      · rw [hwrites.now]
        exact hfinish _
  | completed hwrites => exact .ended (hfirst .live hwrites)

/-- A phase that opens after a full round begins a new one. -/
theorem GoesRound.opens
    (hrounds : GoesRound monitor world origin (done ++ [current]) entries)
    (hfull : current.pings.length = monitor.countIn current.phase)
    {earliest : Phase} (hlater : current.phase.rank < earliest.rank)
    (hopens : Opens monitor state earliest run more)
    (hnow : state.now.instant = current.finish) :
    Rounded monitor world origin run (entries ++ more) := by
  have hgrown := hrounds.grow (hrounds.last.writes hopens.writes hnow)
  have hquiet := hopens.writes.pingsIn_eq
  have hstart : state.now.instant = (current.grow more).finish := by
    rw [Round.finish_grow_of_quiet hquiet]
    exact hnow
  have hnext : ∀ phase, current.phase.rank < phase.rank →
      GoesRound monitor world origin
        (done ++ [current.grow more] ++
          [{ phase, start := state.now.instant }])
        (entries ++ more) := by
    intro phase hrank
    have hfollows : Follows monitor (current.grow more)
        { phase, start := state.now.instant } := by
      constructor
      · rw [Round.pings_grow, hquiet, List.append_nil]
        exact hfull
      · exact .inr ⟨hrank, hstart⟩
    have hadded := hgrown.begin hfollows (Round.steady_new phase _)
    rwa [List.append_nil] at hadded
  cases hopens with
  | @ping other pass more hwrites hphase hrank _ hindex _ =>
      have hafter : current.phase.rank < pass.phase.rank := by
        rw [hphase]
        exact Nat.lt_of_lt_of_le hlater hrank
      refine .ping (hnext pass.phase hafter) rfl hindex.symm ?_
      rw [hwrites.now]
      rfl
  | idle hwrites hphase hempty _ =>
      have hafter : current.phase.rank < Phase.live.rank := by
        apply Nat.lt_of_lt_of_le hlater
        cases earliest <;> decide
      refine .pause (hnext .live hafter) hphase.symm ?_ ?_
      · rw [Monitor.countIn, hempty]
        rfl
      · rw [hwrites.now]
        rfl
  | completed hwrites => exact .ended hgrown

theorem GoesRound.turn
    (hrounds : GoesRound monitor world origin (done ++ [current]) entries)
    (hphase : current.phase = state.phase)
    (hindex : current.pings.length = index)
    (hturn : Turn monitor state index run more)
    (hnow : state.now.instant = current.finish) :
    Rounded monitor world origin run (entries ++ more) := by
  have hgrown := hrounds.grow (hrounds.last.writes hturn.writes hnow)
  have hquiet := hturn.writes.pingsIn_eq
  have hpings : (current.grow more).pings = current.pings := by
    rw [Round.pings_grow, hquiet, List.append_nil]
  have hfinish : state.now.instant = (current.grow more).finish := by
    rw [Round.finish_grow_of_quiet hquiet]
    exact hnow
  have hfull : monitor.countIn state.phase ≤ index →
      current.pings.length = monitor.countIn current.phase := by
    intro hle
    have hlength := hrounds.last.length_le
    rw [hphase] at hlength ⊢
    omega
  cases hturn with
  | next hstays hpass hnext _ =>
      refine .ping hgrown (hphase.trans hpass.symm) ?_ ?_
      · rw [hpings, hindex, hnext]
      · rw [hstays.now]
        exact hfinish
  | pause hstays hcount _ =>
      refine .pause hgrown (hphase.trans hstays.phase.symm) ?_ ?_
      · rw [hpings]
        exact hfull hcount
      · rw [hstays.now]
        exact hfinish
  | opened hopens hcount hlater =>
      rw [← hphase] at hlater
      exact hrounds.opens (hfull hcount) hlater hopens hnow
  | ended _ _ _ => exact .ended hgrown

theorem Stride.rounded
    (hstride : Stride monitor world stop run next more)
    (htimeout : run.state.watchdog.timeout = origin.watchdog.timeout)
    (hrounded : Rounded monitor world origin run entries) :
    Rounded monitor world origin next (entries ++ more) := by
  cases hstride with
  | @woken state next more hawake hturn =>
      cases hrounded with
      | @pause state done current entries hrounds hphase hfull hnow =>
          have hwake : (Run.wake monitor state).instant =
              current.finish + monitor.timing.probeInterval := by
            rw [Run.wake, Moment.instant_timer, hnow]
          -- A pause later the same phase begins its next round, still empty.
          have hagain : GoesRound monitor world origin
              (done ++ [current] ++
                [{ phase := state.phase
                   start := (Run.wake monitor state).instant }])
              (entries ++ []) :=
            hrounds.begin ⟨hfull, .inl ⟨hphase.symm, hwake⟩⟩
              (Round.steady_new _ _)
          rw [List.append_nil] at hagain
          have hmoved : state.phase =
              (state.moveTo (Run.wake monitor state)).phase := rfl
          exact hagain.turn hmoved rfl hturn rfl
  | @answered state pass probe next more hphase hprobe _ hturn =>
      cases hrounded with
      | @ping state pass done current entries hrounds hpass hindex hnow =>
          have hprompt :
              (Run.answeredPing world state pass probe).Prompt monitor world
                state.watchdog.timeout current.finish :=
            prompt_answeredPing hprobe hnow
          rw [htimeout] at hprompt
          have hpinged := hrounds.pinged hpass hindex rfl rfl hprompt
          rw [List.append_cons]
          apply hpinged.turn _ _ hturn
          · rw [Round.finish_pinged]
            rfl
          · rw [Round.phase_grow, hpass, hphase, Run.phase_afterAnswer]
          · rw [Round.pings_grow, List.length_append, hindex]
            rfl
  | @broken state pass probe moment hphase hprobe hstopped hlater hearly =>
      cases hrounded with
      | @ping state pass done current entries hrounds hpass hindex hnow =>
          have hprompt := prompt_brokenPing hprobe hlater hearly hnow
          rw [htimeout] at hprompt
          have hpinged := hrounds.pinged hpass hindex rfl rfl hprompt
          rw [List.append_cons]
          exact .shutDown hpinged _
  | @stopped state control moment hcontrol _ _ _ =>
      cases hrounded with
      | ping hrounds _ _ _ => exact .shutDown hrounds _
      | pause hrounds _ _ _ => exact .shutDown hrounds _
      | ended _ => exact absurd rfl (hcontrol _)

theorem Journey.rounded
    (hjourney : Journey monitor world stop origin run entries) :
    Rounded monitor world origin run entries := by
  induction hjourney with
  | opened hopens => exact hopens.rounded
  | strode hjourney hstride ih => exact hstride.rounded hjourney.timeout ih

end Going

/-! ## The pace of the calls -/

/-- Two calls of one place in a phase, with none between them. -/
def Successive (pings : List Ping) (first second : Ping) : Prop :=
  ∃ before middle after, pings = before ++ first :: (middle ++ second :: after) ∧
    second.phase = first.phase ∧ second.position = first.position ∧
    ∀ ping ∈ middle, ping.phase = first.phase → ping.position ≠ first.position

section Pace

variable {monitor : Monitor σ} {world : World} {origin : State σ}
  {timeout : Nat} {earlier later : Round} {rounds : List Round}
  {entries : List Entry} {left middle right left' right' : List Ping}
  {first second : Ping}

theorem Phase.rank_injective {phase other : Phase}
    (hrank : phase.rank = other.rank) : phase = other := by
  cases phase <;> cases other <;> first | rfl | exact nomatch hrank

theorem Round.Steady.phase_eq
    (hsteady : earlier.Steady monitor world timeout)
    (hsplit : earlier.pings = left ++ first :: right) :
    first.phase = earlier.phase :=
  hsteady.phases first (by simp [hsplit])

theorem Phase.index_eq_of_place_eq
    {phase : Phase} {index other : Nat}
    (hplace : phase.place index = phase.place other) : index = other := by
  have hindex := congrArg Position.index hplace
  rwa [index_place, index_place] at hindex

theorem Round.Steady.not_twice
    (hsteady : earlier.Steady monitor world timeout)
    (hsplit : earlier.pings = left ++ first :: (middle ++ second :: right)) :
    second.position ≠ first.position := by
  have hlater : earlier.pings = (left ++ first :: middle) ++ second :: right := by
    simp [hsplit]
  intro hsame
  rw [hsteady.position_eq hlater, hsteady.position_eq hsplit] at hsame
  have hlength := Phase.index_eq_of_place_eq hsame
  simp at hlength

/-- A round that was gone through to the end pinged each of its probes. -/
theorem Round.Steady.exists_ping
    (hsteady : later.Steady monitor world timeout)
    (hfull : later.pings.length = monitor.countIn later.phase) {index : Nat}
    (hindex : index < monitor.countIn later.phase) :
    ∃ ping ∈ later.pings, ping.phase = later.phase ∧
      ping.position = later.phase.place index := by
  rw [← hfull] at hindex
  have hsplit : later.pings =
      later.pings.take index ++
        later.pings[index] :: later.pings.drop (index + 1) := by
    rw [← List.drop_eq_getElem_cons hindex, List.take_append_drop]
  have hplace := hsteady.position_eq hsplit
  rw [List.length_take_of_le (Nat.le_of_lt hindex)] at hplace
  exact ⟨_, List.getElem_mem hindex, hsteady.phase_eq hsplit, hplace⟩

/-- The calls of one place in two rounds, one after the other, are an interval
apart and what all calls of the phase may hold up. -/
theorem Follows.spaced
    (hfollows : Follows monitor earlier later)
    (hearlier : earlier.Steady monitor world timeout)
    (hlater : later.Steady monitor world timeout)
    (hphase : later.phase = earlier.phase)
    (hfirst : earlier.pings = left ++ first :: right)
    (hsecond : later.pings = left' ++ second :: right')
    (hposition : second.position = first.position) :
    first.started + monitor.timing.probeInterval ≤ second.started ∧
      second.started ≤
        first.started + monitor.timing.probeInterval +
          monitor.countIn earlier.phase * timeout := by
  have hstart :
      later.start = earlier.finish + monitor.timing.probeInterval := by
    rcases hfollows.start with ⟨-, hstart⟩ | ⟨hrank, -⟩
    · exact hstart
    · rw [hphase] at hrank
      exact absurd hrank (Nat.lt_irrefl _)
  have hlength : left'.length = left.length := by
    rw [hlater.position_eq hsecond, hearlier.position_eq hfirst, hphase]
      at hposition
    exact Phase.index_eq_of_place_eq hposition
  have hcount :
      left.length + (first :: right).length = monitor.countIn earlier.phase := by
    rw [← hfollows.full, hfirst, List.length_append]
  have hrest : earlier.pings = left ++ (first :: right) ++ [] := by
    rw [List.append_nil]
    exact hfirst
  have hlead : later.pings = [] ++ left' ++ second :: right' := hsecond
  have hfinish := hearlier.clock_bounds hrest
  have hreached := hlater.clock_bounds hlead
  rw [← (hearlier.prompt _ _ _ hfirst).started, ← hfirst] at hfinish
  rw [List.nil_append, ← (hlater.prompt _ _ _ hsecond).started, hlength,
    clockAfter_nil, hstart] at hreached
  have hend : clockAfter earlier.start earlier.pings = earlier.finish := rfl
  rw [hend] at hfinish
  rw [← hcount, Nat.add_mul]
  omega

theorem rank_le_of_chain
    (hchain : (earlier :: rounds).IsChain (Follows monitor))
    (hmem : later ∈ rounds) : earlier.phase.rank ≤ later.phase.rank := by
  have htrans : IsTrans Round fun first second =>
      first.phase.rank ≤ second.phase.rank :=
    ⟨fun _ _ _ => Nat.le_trans⟩
  have hranks :
      (earlier :: rounds).IsChain fun first second =>
        first.phase.rank ≤ second.phase.rank := by
    apply hchain.imp
    intro first second hfollows
    rcases hfollows.start with ⟨hphase, -⟩ | ⟨hrank, -⟩
    · rw [hphase]
    · exact Nat.le_of_lt hrank
  exact hranks.rel_cons hmem

/-- A round between two of one phase is of that phase too, and so it pings what
they ping. -/
theorem Round.Steady.exists_ping_between
    {next : Round} {skipped : List Round}
    (hearlier : earlier.Steady monitor world timeout)
    (hfirst : earlier.pings = left ++ first :: right)
    (hchain :
      (earlier :: (next :: skipped ++ later :: rounds)).IsChain
        (Follows monitor))
    (hnext : next.Steady monitor world timeout)
    (hsame : later.phase = earlier.phase) :
    ∃ ping ∈ next.pings, ping.phase = first.phase ∧
      ping.position = first.position := by
  have hfull : next.pings.length = monitor.countIn next.phase := by
    cases skipped with
    | nil => exact (hchain.tail.rel_head? rfl).full
    | cons other _ => exact (hchain.tail.rel_head? rfl).full
  have hle : earlier.phase.rank ≤ next.phase.rank :=
    rank_le_of_chain hchain (by simp)
  have hge : next.phase.rank ≤ later.phase.rank :=
    rank_le_of_chain hchain.tail (by simp)
  have hbetween : next.phase = earlier.phase := by
    apply Phase.rank_injective
    rw [hsame] at hge
    omega
  have hlt : left.length < monitor.countIn next.phase := by
    rw [hbetween]
    apply Nat.lt_of_lt_of_le _ hearlier.length_le
    rw [hfirst, List.length_append, List.length_cons]
    omega
  obtain ⟨ping, hping, hphase, hplace⟩ := hnext.exists_ping hfull hlt
  refine ⟨ping, hping, ?_, ?_⟩
  · rw [hphase, hbetween, hearlier.phase_eq hfirst]
  · rw [hplace, hbetween, hearlier.position_eq hfirst]

/-- Two successive calls of a place are made in two rounds, one after the
other. -/
theorem GoesRound.successive
    (hrounds : GoesRound monitor world origin rounds entries)
    (hsuccessive : Successive (pingsIn entries) first second) :
    ∃ earlier later left right left' right',
      earlier ∈ rounds ∧ later ∈ rounds ∧ Follows monitor earlier later ∧
        earlier.pings = left ++ first :: right ∧
        later.pings = left' ++ second :: right' := by
  obtain ⟨before, middle, after, hsplit, hphase, hposition, hnone⟩ := hsuccessive
  rw [hrounds.entries, pingsIn_flatMap] at hsplit
  obtain ⟨front, earlier, back, left, right, rfl, hfirst, -, hrest⟩ :=
    flatMap_split hsplit
  have hearlier := hrounds.steady earlier (by simp)
  change earlier.pings = left ++ first :: right at hfirst
  -- The second call is not in the round of the first, so it comes in a later one.
  have hback : ∃ between, middle = right ++ between ∧
      back.flatMap Round.pings = between ++ second :: after := by
    rcases List.append_eq_append_iff.mp hrest with
      ⟨rest, hright, hsecond⟩ | ⟨between, hmiddle, hback⟩
    · cases rest with
      | nil => exact ⟨[], by simpa using hright.symm, hsecond.symm⟩
      | cons head rest =>
          obtain ⟨rfl, -⟩ := List.cons.inj hsecond
          rw [hright] at hfirst
          exact absurd hposition (hearlier.not_twice hfirst)
    · exact ⟨between, hmiddle, hback⟩
  obtain ⟨between, rfl, hback⟩ := hback
  obtain ⟨skipped, later, rest, left', right', rfl, hsecond, rfl, -⟩ :=
    flatMap_split hback
  have hlater := hrounds.steady later (by simp)
  have hchain := hrounds.chain.right_of_append
  cases skipped with
  | nil =>
      exact ⟨earlier, later, left, right, left', right', by simp, by simp,
        hchain.rel_head? rfl, hfirst, hsecond⟩
  | cons next skipped =>
      have hsame : later.phase = earlier.phase := by
        rw [← hearlier.phase_eq hfirst, ← hlater.phase_eq hsecond, hphase]
      have hnext := hrounds.steady next (by simp)
      obtain ⟨ping, hping, hpingPhase, hplace⟩ :=
        hearlier.exists_ping_between hfirst hchain hnext hsame
      exact absurd hplace (hnone ping (by simp [hping]) hpingPhase)

theorem GoesRound.spaced
    (hrounds : GoesRound monitor world origin rounds entries)
    (hsuccessive : Successive (pingsIn entries) first second) :
    first.started + monitor.timing.probeInterval ≤ second.started ∧
      second.started ≤
        first.started + monitor.timing.probeInterval +
          monitor.countIn first.phase * origin.watchdog.timeout := by
  obtain ⟨earlier, later, left, right, left', right', hmem, hmem', hfollows,
    hfirst, hsecond⟩ := hrounds.successive hsuccessive
  obtain ⟨-, -, -, -, hphase, hposition, -⟩ := hsuccessive
  have hearlier := hrounds.steady earlier hmem
  have hlater := hrounds.steady later hmem'
  rw [hearlier.phase_eq hfirst]
  apply hfollows.spaced hearlier hlater _ hfirst hsecond hposition
  rw [← hearlier.phase_eq hfirst, ← hlater.phase_eq hsecond, hphase]

end Pace

/-! ## The schedule of a run -/

/-- The rounds of a run and the pace of its calls, whatever its probes do. -/
structure RoundRecord
    (monitor : Monitor σ) (world : World) (origin : State σ)
    (entries : List Entry) (rounds : List Round) : Prop where
  rounds : GoesRound monitor world origin rounds entries
  timeout : origin.watchdog.timeout = monitor.timing.probeTimeout
  /-- A ping ends when its call comes in or its time is up. -/
  ended : ∀ ping ∈ pingsIn entries, ping.outcome ≠ none →
    ping.answered =
      ping.started +
        (world.call ping.position ping.number).waited
          monitor.timing.probeTimeout
  spaced : ∀ first second, Successive (pingsIn entries) first second →
    first.started + monitor.timing.probeInterval ≤ second.started ∧
      second.started ≤
        first.started + monitor.timing.probeInterval +
          monitor.countIn first.phase * monitor.timing.probeTimeout
  /-- The call of a probe that can be stopped is over when the next ping, of
  whatever probe, begins. -/
  apart : ∀ before first middle second after,
    pingsIn entries = before ++ first :: (middle ++ second :: after) →
      ∀ probe, monitor.probe? first.position = some probe →
        probe.cancellable = true →
          first.IsOver monitor.probe? second.started

/-- Every run goes round its probes without ever being held up by a call for
longer than the timeout. -/
theorem run_roundRecord
    {monitor : Monitor σ} {world : World} {stop : Option Nat} {fuel : Nat}
    {origin final : State σ} {exit : Option RunExit}
    (hreachable : monitor.Reachable origin)
    (hrun : monitor.run world stop fuel origin = (.ok exit, final)) :
    ∃ rounds,
      RoundRecord monitor world origin (final.since origin) rounds := by
  obtain ⟨control, -, hjourney⟩ := run_journey hrun
  obtain ⟨rounds, hrounds⟩ := hjourney.rounded.goesRound
  have htimeline := (run_timed hrun).timeline
  have htimeout := hreachable.timeout
  have htraced := hjourney.isTraced
  rw [htimeout] at htraced
  refine ⟨rounds, hrounds, htimeout, ?_, ?_, ?_⟩
  · intro ping hping hanswered
    obtain ⟨probe, -, htraces⟩ := htraced ping hping
    exact htraces.answered hanswered
  · intro first second hsuccessive
    rw [← htimeout]
    exact hrounds.spaced hsuccessive
  · intro before first middle second after hsplit probe hprobe hcancellable
    obtain ⟨other, hother, htraces⟩ := htraced first (by simp [hsplit])
    obtain rfl := Option.some.inj (hother.symm.trans hprobe)
    have hanswered := hjourney.answered_of_followed hsplit (by simp)
    exact htraces.isOver hprobe hcancellable hanswered
      (htimeline.answered_le_started hsplit)

theorem run_roundRecord_sample :
    (∃ rounds,
      RoundRecord Sample.monitor Sample.world Sample.started
        (Sample.final.since Sample.started) rounds) ∧
      (pingsIn (Sample.final.since Sample.started)).map (·.started) =
        [0, 2000, 2000, 4000, 4000, 6000] :=
  ⟨run_roundRecord Sample.reachable Sample.run_eq, by decide⟩

end HealthMonitor
