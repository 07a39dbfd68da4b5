import HealthMonitor.Proofs.PreLive
import HealthMonitor.Proofs.Timeline
import Mathlib.Data.List.Induction

/-!
# The pace of a phase before live

Within a phase a ping begins where the one before it ended, or one interval
after if it begins a further pass, and it takes no longer than the timeout.  So
a pass lasts at most as long as all its probes may hang, and the clock gains one
interval with each further pass.  Since a further pass is begun only within the
limit, there are only so many passes, and none ends long after the limit.
-/

namespace HealthMonitor

variable {σ : Type}

/-- How a ping lies in time after the pings `earlier` of the same phase, when
the phase was entered at `entered`. -/
structure Ping.Paced
    (monitor : Monitor σ) (entered : Nat) (earlier : List Ping)
    (ping : Ping) : Prop where
  started :
    ping.started =
      clockAfter entered earlier +
        if earlier ≠ [] ∧ ping.position.index = 0 then
          monitor.timing.probeInterval
        else 0
  started_le : ping.started ≤ ping.answered
  answered_le : ping.answered ≤ ping.started + monitor.timing.probeTimeout
  early : earlier ≠ [] → ping.position.index = 0 →
    ∀ limit, monitor.timing.bootstrapLimit = some limit →
      clockAfter entered earlier - entered < limit

def Paced
    (monitor : Monitor σ) (entered : Nat) (pings : List Ping) : Prop :=
  ∀ earlier ping later, pings = earlier ++ ping :: later →
    ping.Paced monitor entered earlier

/-- The most passes that a phase can begin within a limit. -/
def Timing.passLimit (timing : Timing) (limit : Nat) : Nat :=
  (limit + timing.probeInterval - 1) / timing.probeInterval + 1

/-! ## Passes on the clock -/

section Clock

variable {monitor : Monitor σ} {entered : Nat}
  {pings earlier pass later : List Ping}

theorem Paced.of_append
    (hpaced : Paced monitor entered (pings ++ later)) :
    Paced monitor entered pings := by
  intro earlier ping rest hsplit
  apply hpaced earlier ping (rest ++ later)
  rw [hsplit, List.append_assoc, List.cons_append]

/-- Further pings of a pass follow each other without a pause. -/
theorem Paced.clock_within_pass
    (hpaced : Paced monitor entered (earlier ++ pass))
    (hindices : ∀ ping ∈ pass, ping.position.index ≠ 0) :
    clockAfter entered earlier ≤ clockAfter entered (earlier ++ pass) ∧
      clockAfter entered (earlier ++ pass) ≤
        clockAfter entered earlier +
          pass.length * monitor.timing.probeTimeout := by
  induction pass generalizing earlier with
  | nil => simp
  | cons ping rest ih =>
      have hping := hpaced earlier ping rest rfl
      have hindex := hindices ping List.mem_cons_self
      have hstarted : ping.started = clockAfter entered earlier := by
        rw [hping.started, if_neg (fun hboth => hindex hboth.2), Nat.add_zero]
      have hle := hping.started_le
      have hbound := hping.answered_le
      rw [List.append_cons] at hpaced ⊢
      obtain ⟨hafter, hwithin⟩ := ih hpaced fun other hmem =>
        hindices other (List.mem_cons_of_mem _ hmem)
      rw [clockAfter_concat] at hafter hwithin
      rw [List.length_cons, Nat.succ_mul]
      constructor
      · omega
      · omega

@[simp] theorem Phase.index_place (phase : Phase) (index : Nat) :
    (phase.place index).index = index := by
  cases phase with
  | dependencyWait => rfl
  | bootstrap => rfl
  | live => rfl

/-- The first ping of a full pass is of the first probe, the others are not. -/
theorem indices_of_positions
    {phase : Phase} {ping : Ping} {rest : List Ping}
    (hpositions :
      (ping :: rest).map (·.position) =
        (List.range (rest.length + 1)).map phase.place) :
    ping.position.index = 0 ∧
      ∀ other ∈ rest, other.position.index ≠ 0 := by
  rw [List.range_succ_eq_map, List.map_cons, List.map_cons, List.cons.injEq,
    List.map_map] at hpositions
  obtain ⟨hfirst, hrest⟩ := hpositions
  constructor
  · rw [hfirst, Phase.index_place]
  · intro other hmem
    have hposition : other.position ∈ rest.map (·.position) :=
      List.mem_map_of_mem hmem
    rw [hrest, List.mem_map] at hposition
    obtain ⟨index, -, heq⟩ := hposition
    rw [← heq, Function.comp_apply, Phase.index_place]
    exact Nat.succ_ne_zero index

/-- When a pass begins that comes after some pings of its phase. -/
def passStart
    (monitor : Monitor σ) (entered : Nat) (earlier : List Ping) : Nat :=
  clockAfter entered earlier +
    if earlier = [] then 0 else monitor.timing.probeInterval

theorem Paced.clock_pass
    {phase : Phase} (hpaced : Paced monitor entered (earlier ++ pass))
    (hpositions :
      pass.map (·.position) = (List.range pass.length).map phase.place)
    (hnonempty : pass ≠ []) :
    passStart monitor entered earlier ≤ clockAfter entered (earlier ++ pass) ∧
      clockAfter entered (earlier ++ pass) ≤
        passStart monitor entered earlier +
          pass.length * monitor.timing.probeTimeout := by
  cases pass with
  | nil => exact absurd rfl hnonempty
  | cons ping rest =>
      obtain ⟨hindex, hindices⟩ := indices_of_positions hpositions
      have hping := hpaced earlier ping rest rfl
      have hstarted : ping.started = passStart monitor entered earlier := by
        rw [hping.started, passStart]
        by_cases hfirst : earlier = []
        · simp [hfirst]
        · simp [hfirst, hindex]
      have hle := hping.started_le
      have hbound := hping.answered_le
      rw [List.append_cons] at hpaced ⊢
      obtain ⟨hafter, hwithin⟩ := hpaced.clock_within_pass hindices
      rw [clockAfter_concat] at hafter hwithin
      rw [List.length_cons, Nat.succ_mul]
      constructor
      · omega
      · omega

/-- Each pass after the first has cost an interval. -/
theorem Paced.intervals_le
    (hpaced : Paced monitor entered pings) :
    entered + passesBegun pings * monitor.timing.probeInterval ≤
      clockAfter entered pings + monitor.timing.probeInterval := by
  induction pings using List.reverseRecOn with
  | nil => simp [passesBegun]
  | append_singleton pings ping ih =>
      have hping := hpaced pings ping [] rfl
      have hrest := ih hpaced.of_append
      have hstarted := hping.started
      have hle := hping.started_le
      rw [clockAfter_concat, passesBegun_concat]
      by_cases hindex : ping.position.index = 0
      · rw [if_pos hindex, Nat.succ_mul]
        by_cases hfirst : pings = []
        · subst hfirst
          simp [passesBegun] at hstarted ⊢
          omega
        · rw [if_pos ⟨hfirst, hindex⟩] at hstarted
          omega
      · rw [if_neg hindex, Nat.add_zero]
        rw [if_neg (fun hboth => hindex hboth.2)] at hstarted
        omega

theorem Paced.entered_le
    (hpaced : Paced monitor entered pings) :
    entered ≤ clockAfter entered pings := by
  induction pings using List.reverseRecOn with
  | nil => simp
  | append_singleton pings ping ih =>
      have hping := hpaced pings ping [] rfl
      have hrest := ih hpaced.of_append
      have hstarted := hping.started
      have hle := hping.started_le
      rw [clockAfter_concat]
      omega

theorem Paced.passesBegun_le
    (hpaced : Paced monitor entered pings)
    (hinterval : 0 < monitor.timing.probeInterval) {limit : Nat}
    (hlimit : monitor.timing.bootstrapLimit = some limit) :
    passesBegun pings ≤ monitor.timing.passLimit limit := by
  induction pings using List.reverseRecOn with
  | nil => exact Nat.zero_le _
  | append_singleton pings ping ih =>
      have hping := hpaced pings ping [] rfl
      have hold := ih hpaced.of_append
      rw [passesBegun_concat]
      by_cases hindex : ping.position.index = 0
      · rw [if_pos hindex]
        by_cases hfirst : pings = []
        · subst hfirst
          exact Nat.le_add_left 1 _
        · -- The pass before ended within the limit.
          have hearly := hping.early hfirst hindex limit hlimit
          have hintervals := hpaced.of_append.intervals_le
          have hfits :
              passesBegun pings * monitor.timing.probeInterval ≤
                limit + monitor.timing.probeInterval - 1 := by
            omega
          have hquotient := (Nat.le_div_iff_mul_le hinterval).mpr hfits
          exact Nat.succ_le_succ hquotient
      · rw [if_neg hindex]
        exact hold

end Clock

/-! ## The pace of a phase in a run -/

theorem enteredAfter_of_untold
    {entries : List Entry}
    (huntold : ∀ entry ∈ entries, entry.callback? = none) (start : Nat) :
    enteredAfter start entries = start := by
  induction entries with
  | nil => rfl
  | cons entry entries ih =>
      have hrest := ih fun other hmem =>
        huntold other (List.mem_cons_of_mem _ hmem)
      have hentry := huntold entry List.mem_cons_self
      cases entry with
      | told instant callback verdict => exact nomatch hentry
      | pinged ping => exact hrest
      | prepared position => exact hrest
      | beganBootstrap position => exact hrest
      | endedBootstrap position => exact hrest

section Entered

variable (monitor : Monitor σ) (phase : Phase) (instant : Nat)
  (verdict : Verdict) (pings : List Ping)

@[simp] theorem pingsIn_phaseEntries :
    pingsIn (monitor.phaseEntries phase instant verdict pings) = pings := by
  unfold Monitor.phaseEntries Monitor.bootstrapEntries
  split
  next => simp
  next => simp

@[simp] theorem callbacksIn_phaseEntries :
    callbacksIn (monitor.phaseEntries phase instant verdict pings) =
      [.phase phase] := by
  unfold Monitor.phaseEntries Monitor.bootstrapEntries
  split
  next => simp
  next => simp

@[simp] theorem enteredAfter_phaseEntries (start : Nat) :
    enteredAfter start (monitor.phaseEntries phase instant verdict pings) =
      instant := by
  rw [Monitor.phaseEntries, enteredAfter_phase_cons]
  apply enteredAfter_of_untold
  intro entry hmem
  rw [List.mem_append] at hmem
  rcases hmem with hnote | hpinged
  · split at hnote
    next =>
      obtain ⟨index, -, rfl⟩ := List.mem_map.mp hnote
      rfl
    next => simp at hnote
  · obtain ⟨ping, -, rfl⟩ := List.mem_map.mp hpinged
    rfl

end Entered

section Timed

variable {monitor : Monitor σ} {world : World} {origin : State σ}
  {phase : Phase} {entries before after : List Entry} {entered : Nat}
  {verdict : Verdict} {pings : List Ping}

theorem Timeline.entered_eq
    (htimeline : Timeline monitor origin entries)
    (hentries :
      entries =
        before ++
          (monitor.phaseEntries phase entered verdict pings ++ after)) :
    entered = clockAfter origin.now.instant (pingsIn before) :=
  htimeline before _ _ hentries (by simp) (by simp)

theorem Timeline.paced
    (hreachable : monitor.Reachable origin)
    (htimeline : Timeline monitor origin entries)
    (hentries :
      entries =
        before ++
          (monitor.phaseEntries phase entered verdict pings ++ after))
    (hbefore : ∀ ping ∈ pingsIn before, ping.phase.rank < phase.rank)
    (hphase : phase ≠ .live) (hpings : ∀ ping ∈ pings, ping.phase = phase) :
    Paced monitor entered pings := by
  have hentered := htimeline.entered_eq hentries
  intro earlier ping later hsplit
  have hping : ping.phase = phase := hpings ping (by simp [hsplit])
  have hbetween :
      entries =
        (before ++ monitor.phaseEntries phase entered verdict earlier) ++
          .pinged ping :: (later.map .pinged ++ after) := by
    rw [hentries, hsplit]
    simp [Monitor.phaseEntries]
  have htimely : ping.Timely monitor origin
      (before ++ monitor.phaseEntries phase entered verdict earlier) :=
    htimeline _ _ _ hbetween
  have hclock :
      clockAfter origin.now.instant
          (pingsIn
            (before ++ monitor.phaseEntries phase entered verdict earlier)) =
        clockAfter entered earlier := by
    rw [pingsIn_append, pingsIn_phaseEntries, clockAfter_append, ← hentered]
  have hresumes :
      resumes
          (pingsIn
            (before ++ monitor.phaseEntries phase entered verdict earlier))
          ping.phase ping.position.index = true ↔
        earlier ≠ [] ∧ ping.position.index = 0 := by
    rw [pingsIn_append, pingsIn_phaseEntries, resumes, Bool.and_eq_true,
      beq_iff_eq, and_comm]
    apply and_congr_left'
    rcases List.eq_nil_or_concat earlier with rfl | ⟨front, last, rfl⟩
    · have hother : ∀ last, (pingsIn before).getLast? = some last →
          last.phase ≠ ping.phase := by
        intro last hlast heq
        have hrank := hbefore last (List.mem_of_getLast? hlast)
        rw [heq, hping] at hrank
        exact Nat.lt_irrefl _ hrank
      simpa [Option.any_eq_true] using hother
    · have hlast : last.phase = phase := hpings last (by simp [hsplit])
      simp [List.getLast?_append, hlast, hping]
  constructor
  · rw [htimely.started, hclock]
    simp only [hresumes]
  · exact htimely.started_le
  · rw [← hreachable.timeout]
    exact htimely.answered_le
  · intro hnonempty hindex limit hlimit
    have hearly := htimely.early (hresumes.mpr ⟨hnonempty, hindex⟩)
      (by rw [hping]; exact hphase) limit hlimit
    rw [hclock] at hearly
    simpa using hearly

end Timed

/-! ## The passes of a phase within its limit -/

/-- How long some pings of a phase have taken since it was entered. -/
def elapsedAfter (entered : Nat) (pings : List Ping) : Nat :=
  clockAfter entered pings - entered

section Passes

variable {monitor : Monitor σ} {world : World} {origin : State σ}
  {phase : Phase} {exit : Option RunExit} {before after : List Entry}
  {passes earlier later : List (List Ping)} {cut pass : List Ping}

theorem clears_nil (earlier : List Ping) :
    monitor.Clears world origin earlier phase [] := by
  cases phase with
  | dependencyWait => exact List.forall_mem_nil _
  | bootstrap => exact List.forall_mem_nil _
  | live => exact List.forall_mem_nil _

/-- Each pass of a phase but its last was made in vain. -/
theorem PhaseEnd.not_clears
    (hend : PhaseEnd monitor world origin phase exit passes cut after)
    (hsplit : passes = earlier ++ pass :: later) (hlater : later ≠ []) :
    ¬monitor.Clears world origin earlier.flatten phase pass := by
  have hinit : ∀ {front : List (List Ping)} {last : List Ping},
      passes = front ++ [last] →
        monitor.Blocks world origin phase front →
          ¬monitor.Clears world origin earlier.flatten phase pass := by
    intro front last hpasses hblocks
    rw [hpasses] at hsplit
    rcases concat_split hsplit with ⟨rfl, -, -⟩ | ⟨rest, -, hfront⟩
    · exact absurd rfl hlater
    · exact hblocks earlier pass rest hfront
  cases hend with
  | left instant verdict hblocks hclears hexit hquiet hpast =>
      exact hinit rfl hblocks
  | timedOut hblocks => exact hblocks earlier pass later hsplit
  | broken hblocks hcut hexit hbetween hafter =>
      exact hblocks earlier pass later hsplit

theorem PhaseEnd.cut_positions
    (hend : PhaseEnd monitor world origin phase exit passes cut after) :
    cut.map (·.position) = (List.range cut.length).map phase.place ∧
      ∀ ping ∈ cut, ping.live = false := by
  cases hend with
  | left instant verdict hblocks hclears hexit hquiet hpast =>
      exact ⟨rfl, List.forall_mem_nil _⟩
  | timedOut hblocks => exact ⟨rfl, List.forall_mem_nil _⟩
  | broken hblocks hcut hexit hbetween hafter =>
      exact ⟨hcut.positions, hcut.live⟩

theorem PhaseLog.phase_eq
    (hlog : PhaseLog monitor world origin phase exit before passes cut after)
    (hphase : phase ≠ .live) :
    ∀ ping ∈ passes.flatten ++ cut, ping.phase = phase := by
  intro ping hmem
  rcases List.mem_append.mp hmem with hpasses | hcut
  · obtain ⟨pass, hpass, hping⟩ := List.mem_flatten.mp hpasses
    obtain ⟨hsweep, -⟩ := hlog.complete pass hpass
    obtain ⟨index, -, hposition⟩ := hsweep.exists_place hping
    exact Ping.phase_eq_of_place hphase hposition (hsweep.live ping hping)
  · obtain ⟨hpositions, hlive⟩ := hlog.ended.cut_positions
    have hposition : ping.position ∈ cut.map (·.position) :=
      List.mem_map_of_mem hcut
    rw [hpositions, List.mem_map] at hposition
    obtain ⟨index, -, heq⟩ := hposition
    exact Ping.phase_eq_of_place hphase heq.symm (hlive ping hcut)

/-- After a pass that was made in vain the run goes on only within the limit. -/
theorem PhaseLog.elapsed_lt
    (hlog : PhaseLog monitor world origin phase exit before passes cut after)
    {entered : Nat} (hpaced : Paced monitor entered (passes.flatten ++ cut))
    {limit : Nat} (hlimit : monitor.timing.bootstrapLimit = some limit)
    (hsplit : passes = earlier ++ pass :: later)
    (hvain : ¬monitor.Clears world origin earlier.flatten phase pass)
    (hnext : later ≠ [] ∨ cut ≠ []) :
    elapsedAfter entered (earlier.flatten ++ pass) < limit := by
  have hnonempty : pass ≠ [] := by
    rintro rfl
    exact hvain (clears_nil _)
  have hcount : 0 < monitor.countIn phase := by
    rw [← (hlog.complete pass (by simp [hsplit])).2]
    exact List.length_pos_iff.mpr hnonempty
  have hfirst : ∃ ping rest,
      later.flatten ++ cut = ping :: rest ∧ ping.position.index = 0 := by
    cases later with
    | nil =>
        have hpositions := hlog.ended.cut_positions.1
        cases cut with
        | nil => simp at hnext
        | cons ping rest =>
            exact ⟨ping, rest, rfl, (indices_of_positions hpositions).1⟩
    | cons next more =>
        obtain ⟨hsweep, hfull⟩ := hlog.complete next (by simp [hsplit])
        have hpositions := hsweep.positions
        cases next with
        | nil =>
            rw [← hfull] at hcount
            exact absurd hcount (Nat.lt_irrefl 0)
        | cons ping rest =>
            exact ⟨ping, rest ++ (more.flatten ++ cut), by simp,
              (indices_of_positions hpositions).1⟩
  obtain ⟨ping, rest, hrest, hindex⟩ := hfirst
  have hpings :
      passes.flatten ++ cut = (earlier.flatten ++ pass) ++ ping :: rest := by
    rw [hsplit, ← hrest]
    simp
  exact (hpaced _ _ _ hpings).early (by simp [hnonempty]) hindex limit hlimit

/-- A pass ends in time for its phase: the first one when all probes may have
hung, a further one when in addition the limit and a pause have passed. -/
theorem PhaseLog.elapsed_bounds
    (hlog : PhaseLog monitor world origin phase exit before passes cut after)
    {entered : Nat} (hpaced : Paced monitor entered (passes.flatten ++ cut))
    {limit : Nat} (hlimit : monitor.timing.bootstrapLimit = some limit)
    (hsplit : passes = earlier ++ pass :: later) :
    earlier = [] ∧
        elapsedAfter entered (earlier.flatten ++ pass) ≤
          monitor.countIn phase * monitor.timing.probeTimeout ∨
      elapsedAfter entered (earlier.flatten ++ pass) <
        limit + monitor.timing.probeInterval +
          monitor.countIn phase * monitor.timing.probeTimeout := by
  obtain ⟨hsweep, hfull⟩ := hlog.complete pass (by simp [hsplit])
  have hprefix : Paced monitor entered (earlier.flatten ++ pass) := by
    rw [hsplit] at hpaced
    simp only [List.flatten_append, List.flatten_cons, List.append_assoc]
      at hpaced
    rw [← List.append_assoc] at hpaced
    exact hpaced.of_append
  rcases List.eq_nil_or_concat earlier with rfl | ⟨front, previous, rfl⟩
  · refine .inl ⟨rfl, ?_⟩
    by_cases hnonempty : pass = []
    · simp [elapsedAfter, hnonempty]
    · obtain ⟨-, hwithin⟩ := hprefix.clock_pass hsweep.positions hnonempty
      have hstart : passStart monitor entered [] = entered := by
        simp [passStart]
      rw [hfull, List.flatten_nil, hstart] at hwithin
      exact Nat.sub_le_of_le_add (Nat.add_comm _ _ ▸ hwithin)
  · right
    rw [List.concat_eq_append] at hsplit hprefix ⊢
    have hbefore : passes = front ++ previous :: (pass :: later) := by
      rw [hsplit, List.append_assoc, List.singleton_append]
    have hvain := hlog.ended.not_clears hbefore (List.cons_ne_nil _ _)
    have hearly := hlog.elapsed_lt hpaced hlimit hbefore hvain (by simp)
    have hprevious : previous ≠ [] := by
      rintro rfl
      exact hvain (clears_nil _)
    have hnonempty : pass ≠ [] := by
      rw [← List.length_pos_iff, hfull,
        ← (hlog.complete previous (by simp [hbefore])).2]
      exact List.length_pos_iff.mpr hprevious
    have hflatten : (front ++ [previous]).flatten = front.flatten ++ previous := by
      simp
    rw [hflatten] at hprefix ⊢
    obtain ⟨-, hwithin⟩ := hprefix.clock_pass hsweep.positions hnonempty
    rw [hfull, passStart, if_neg (by simp [hprevious])] at hwithin
    unfold elapsedAfter at hearly ⊢
    omega

/-! ## How many passes there are -/

theorem passesBegun_append (pings more : List Ping) :
    passesBegun (pings ++ more) = passesBegun pings + passesBegun more :=
  List.countP_append

theorem passesBegun_pass
    (hpositions :
      pass.map (·.position) = (List.range pass.length).map phase.place)
    (hnonempty : pass ≠ []) :
    passesBegun pass = 1 := by
  cases pass with
  | nil => exact absurd rfl hnonempty
  | cons ping rest =>
      obtain ⟨hindex, hindices⟩ := indices_of_positions hpositions
      have hrest : rest.countP (·.position.index == 0) = 0 := by
        simpa [List.countP_eq_zero] using hindices
      simp [passesBegun, hindex, hrest]

theorem passesBegun_flatten
    (hcomplete : ∀ pass ∈ passes,
      Sweep phase.place false pass ∧ pass.length = monitor.countIn phase)
    (hcount : 0 < monitor.countIn phase) :
    passesBegun passes.flatten = passes.length := by
  induction passes with
  | nil => rfl
  | cons pass passes ih =>
      obtain ⟨hsweep, hfull⟩ := hcomplete pass List.mem_cons_self
      have hnonempty : pass ≠ [] := by
        rw [← List.length_pos_iff, hfull]
        exact hcount
      rw [List.flatten_cons, passesBegun_append,
        passesBegun_pass hsweep.positions hnonempty,
        ih fun other hmem => hcomplete other (List.mem_cons_of_mem _ hmem),
        List.length_cons, Nat.add_comm]

/-- Without probes one pass is all that a phase makes. -/
theorem PhaseLog.passes_of_no_probes
    (hlog : PhaseLog monitor world origin phase exit before passes cut after)
    (hcount : monitor.countIn phase = 0) :
    passes.length ≤ 1 ∧ cut = [] := by
  have hempty : ∀ pass ∈ passes, pass = [] := by
    intro pass hmem
    rw [← List.length_eq_zero_iff, (hlog.complete pass hmem).2, hcount]
  constructor
  · match hpasses : passes with
    | [] => exact Nat.zero_le 1
    | [pass] => exact Nat.le_refl 1
    | pass :: next :: more =>
        have hvain :=
          hlog.ended.not_clears (List.nil_append _).symm (List.cons_ne_nil _ _)
        rw [hempty pass List.mem_cons_self] at hvain
        exact absurd (clears_nil _) hvain
  · cases hlog.ended with
    | left instant verdict hblocks hclears hexit hquiet hpast => rfl
    | timedOut hblocks => rfl
    | broken hblocks hcut hexit hbetween hafter =>
        have hbound := hcut.bound
        rw [hcount] at hbound
        exact List.length_eq_zero_iff.mp (Nat.le_zero.mp hbound)

/-- The passes of a phase, the one that was cut short included, are no more
than the limit allows. -/
theorem PhaseLog.passes_le
    (hlog : PhaseLog monitor world origin phase exit before passes cut after)
    {entered : Nat} (hpaced : Paced monitor entered (passes.flatten ++ cut))
    (hinterval : 0 < monitor.timing.probeInterval) {limit : Nat}
    (hlimit : monitor.timing.bootstrapLimit = some limit) :
    passes.length + (if cut = [] then 0 else 1) ≤
      monitor.timing.passLimit limit := by
  by_cases hcount : monitor.countIn phase = 0
  · obtain ⟨hpasses, rfl⟩ := hlog.passes_of_no_probes hcount
    rw [if_pos rfl, Nat.add_zero]
    exact Nat.le_trans hpasses (Nat.le_add_left 1 _)
  · have hbegun := hpaced.passesBegun_le hinterval hlimit
    rw [passesBegun_append,
      passesBegun_flatten hlog.complete (Nat.pos_of_ne_zero hcount)] at hbegun
    by_cases hcut : cut = []
    · simpa [hcut, passesBegun] using hbegun
    · rw [if_neg hcut]
      rwa [passesBegun_pass hlog.ended.cut_positions.1 hcut] at hbegun

end Passes

end HealthMonitor
