import HealthMonitor.Proofs.Pacing

/-!
# The time limit before live

Each phase before live is held to the limit on its own, from the instant of its
entry.  The limit is looked at after each pass that was made in vain: the first
of those that ends with the limit reached ends the run, and no other does.
Since passes come an interval apart and pings have a timeout, a run with a
limit is live or over after a number of steps that only depends on its timing.
-/

namespace HealthMonitor

variable {σ : Type}

/-- The run was ended by the limit of a phase: its exit and its last callback,
made at that instant, tell so. -/
def EndsAtLimit
    (phase : Phase) (entered elapsed : Nat) (exit : Option RunExit)
    (after : List Entry) : Prop :=
  ∃ probe last verdict,
    exit = some (.bootstrapTimedOut phase probe elapsed last) ∧
      after =
        [.told (entered + elapsed)
          (.timedOut phase probe last (entered + elapsed)) verdict]

/-- What a limit makes of the passes of a phase that was entered at `entered`,
its complete passes and one that was cut short. -/
structure HeldToLimit
    (monitor : Monitor σ) (world : World) (origin : State σ) (phase : Phase)
    (limit : Nat) (exit : Option RunExit) (entered : Nat)
    (passes : List (List Ping)) (cut : List Ping) (after : List Entry) :
    Prop where
  complete : ∀ pass ∈ passes,
    Sweep phase.place false pass ∧ pass.length = monitor.countIn phase
  late : ∀ earlier pass later, passes = earlier ++ pass :: later →
    ¬monitor.Clears world origin earlier.flatten phase pass →
      limit ≤ elapsedAfter entered (earlier.flatten ++ pass) →
        later = [] ∧ cut = [] ∧
          EndsAtLimit phase entered
            (elapsedAfter entered (earlier.flatten ++ pass)) exit after
  early : ∀ earlier pass later, passes = earlier ++ pass :: later →
    ¬monitor.Clears world origin earlier.flatten phase pass →
      elapsedAfter entered (earlier.flatten ++ pass) < limit →
        later ≠ [] ∨ IsBreak exit
  ended : ∀ probe elapsed last,
    exit = some (.bootstrapTimedOut phase probe elapsed last) →
      ∃ earlier pass, passes = earlier ++ [pass] ∧
        ¬monitor.Clears world origin earlier.flatten phase pass ∧
          elapsed = elapsedAfter entered (earlier.flatten ++ pass) ∧
            limit ≤ elapsed
  bounds : ∀ earlier pass later, passes = earlier ++ pass :: later →
    earlier = [] ∧
        elapsedAfter entered (earlier.flatten ++ pass) ≤
          monitor.countIn phase * monitor.timing.probeTimeout ∨
      elapsedAfter entered (earlier.flatten ++ pass) <
        limit + monitor.timing.probeInterval +
          monitor.countIn phase * monitor.timing.probeTimeout
  some_pass : passes = [] → IsBreak exit
  count : passes.length + (if cut = [] then 0 else 1) ≤
    monitor.timing.passLimit limit

/-! ## A phase in its run -/

section Phases

variable {monitor : Monitor σ} {world : World} {origin : State σ}
  {phase : Phase} {exit : Option RunExit} {entries before after : List Entry}
  {passes earlier later : List (List Ping)} {cut pass pings : List Ping}
  {entered elapsed instant : Nat} {verdict heard : Verdict} {probe : String}
  {last : Option Status}

theorem clockAfter_of_written
    (hwritten :
      entries =
        before ++
          (monitor.phaseEntries phase entered verdict pings ++ after))
    (hentered : entered = clockAfter origin.now.instant (pingsIn before))
    (hafter : pingsIn after = []) :
    clockAfter origin.now.instant (pingsIn entries) =
      clockAfter entered pings := by
  rw [hwritten, pingsIn_append, pingsIn_append, pingsIn_phaseEntries, hafter,
    List.append_nil, clockAfter_append, ← hentered]

theorem enteredAfter_of_written
    (hwritten :
      entries =
        before ++
          (monitor.phaseEntries phase entered verdict pings ++ after))
    (hafter : ∀ start, enteredAfter start after = start) (start : Nat) :
    enteredAfter start entries = entered := by
  rw [hwritten, enteredAfter_append, enteredAfter_append,
    enteredAfter_phaseEntries, hafter]

theorem Timeline.told_after
    (htimeline : Timeline monitor origin entries) {quiet more : List Entry}
    {callback : Callback}
    (hwritten :
      entries =
        before ++
          (monitor.phaseEntries phase entered verdict pings ++
            (quiet ++ .told instant callback heard :: more)))
    (hquiet : pingsIn quiet = []) (hunregister : callback ≠ .unregister)
    (hcycle : callback ≠ .cycle)
    (hpaced : Paced monitor entered pings) :
    instant = entered + elapsedAfter entered pings := by
  have hentered := htimeline.entered_eq hwritten
  have hle := hpaced.entered_le
  have htold := htimeline
    (before ++ monitor.phaseEntries phase entered verdict pings ++ quiet)
    (.told instant callback heard) more (by simp [hwritten]) hunregister
    (fun heq => absurd heq hcycle)
  rw [pingsIn_append, pingsIn_append, pingsIn_phaseEntries, hquiet,
    List.append_nil, clockAfter_append, ← hentered] at htold
  unfold elapsedAfter
  omega

theorem index_of_last
    {front : List Ping} {last : Ping}
    (hpositions :
      (front ++ [last]).map (·.position) =
        (List.range (front ++ [last]).length).map phase.place) :
    last.position.index + 1 = (front ++ [last]).length := by
  rw [List.length_append, List.length_singleton, List.range_succ,
    List.map_append, List.map_append] at hpositions
  have hsame := List.append_inj_right' hpositions rfl
  have hlast : last.position = phase.place front.length :=
    (List.cons.inj hsame).1
  rw [List.length_append, List.length_singleton, hlast, Phase.index_place]

theorem quiet_of_farewell
    (hafter : after = [] ∨ IsFarewell origin after) :
    pingsIn after = [] ∧ (∀ start, enteredAfter start after = start) ∧
      ∀ callback ∈ callbacksIn after, callback = .unregister := by
  rcases hafter with rfl | hfarewell
  · exact ⟨rfl, fun _ => rfl, List.forall_mem_nil _⟩
  · unfold IsFarewell at hfarewell
    split at hfarewell
    next =>
      rw [hfarewell]
      exact ⟨rfl, fun _ => rfl, List.forall_mem_nil _⟩
    next =>
      obtain ⟨instant, verdict, rfl⟩ := hfarewell
      exact ⟨rfl, fun _ => rfl, by simp⟩

/-- A run is not stopped after a pass in vain that has reached the limit. -/
theorem PhaseLog.elapsed_lt_of_broken
    (hlog : PhaseLog monitor world origin phase exit before passes [] after)
    (hphase : phase ≠ .live)
    (hwritten :
      entries =
        before ++
          (monitor.phaseEntries phase entered verdict (passes.flatten ++ []) ++
            after))
    (hentered : entered = clockAfter origin.now.instant (pingsIn before))
    (hwithin : WithinLimit monitor origin entries)
    (hafter : after = [] ∨ IsFarewell origin after) {limit : Nat}
    (hlimit : monitor.timing.bootstrapLimit = some limit)
    (hsplit : passes = earlier ++ [pass]) (hnonempty : pass ≠ []) :
    elapsedAfter entered (earlier.flatten ++ pass) < limit := by
  obtain ⟨hquiet, hunmoved, hfarewell⟩ := quiet_of_farewell hafter
  have hflatten : passes.flatten ++ [] = earlier.flatten ++ pass := by
    simp [hsplit]
  rw [hflatten] at hwritten
  rcases List.eq_nil_or_concat pass with rfl | ⟨front, last, rfl⟩
  · exact absurd rfl hnonempty
  rw [List.concat_eq_append] at *
  obtain ⟨hsweep, hfull⟩ := hlog.complete (front ++ [last]) (by simp [hsplit])
  have hlastPhase : last.phase = phase := by
    apply hlog.phase_eq hphase
    rw [hflatten]
    simp
  have hlast : (pingsIn entries).getLast? = some last := by
    rw [hwritten, pingsIn_append, pingsIn_append, pingsIn_phaseEntries, hquiet,
      List.append_nil, ← List.append_assoc, ← List.append_assoc,
      List.getLast?_concat]
  have hindex : last.position.index + 1 = monitor.countIn last.phase := by
    rw [hlastPhase, ← hfull]
    exact index_of_last hsweep.positions
  have hnext : ∀ next, last.phase.rank < next.rank →
      .phase next ∉ callbacksIn entries := by
    intro next hrank hmem
    rw [hwritten, callbacksIn_append, callbacksIn_append,
      callbacksIn_phaseEntries, List.mem_append, List.mem_append,
      List.mem_singleton] at hmem
    rw [hlastPhase] at hrank
    rcases hmem with hbefore | hself | hend
    · have hwait := Callback.phase.inj (hlog.callbacks _ hbefore)
      rw [hwait] at hrank
      exact absurd hrank (Nat.not_lt_zero _)
    · rw [Callback.phase.inj hself] at hrank
      exact Nat.lt_irrefl _ hrank
    · exact nomatch hfarewell _ hend
  have hearly := hwithin last hlast (hsweep.answered last (by simp)) hindex
    (hlastPhase ▸ hphase) hnext limit hlimit
  rw [clockAfter_of_written hwritten hentered hquiet,
    enteredAfter_of_written hwritten hunmoved] at hearly
  exact hearly

/-- What ends a phase by its limit tells the time that its passes have taken. -/
theorem elapsed_eq_of_limit
    (hwritten :
      entries =
        before ++ (monitor.phaseEntries phase entered verdict pings ++ after))
    (hentered : entered = clockAfter origin.now.instant (pingsIn before))
    (hquiet : pingsIn after = [])
    (hunmoved : ∀ start, enteredAfter start after = start)
    (hreached :
      LimitReached monitor origin entries
        (.bootstrapTimedOut phase probe elapsed last)) :
    elapsed = elapsedAfter entered pings ∧
      ∃ limit, monitor.timing.bootstrapLimit = some limit ∧
        limit ≤ elapsed := by
  have htold := hreached phase probe elapsed last rfl
  rwa [clockAfter_of_written hwritten hentered hquiet,
    enteredAfter_of_written hwritten hunmoved] at htold

/-- A phase that its limit ended was ended after its last pass, in vain and with
the limit reached. -/
theorem PhaseLog.endsAtLimit
    (hlog : PhaseLog monitor world origin phase exit before passes cut after)
    (hwritten :
      entries =
        before ++
          (monitor.phaseEntries phase entered verdict (passes.flatten ++ cut) ++
            after))
    (hpaced : Paced monitor entered (passes.flatten ++ cut))
    {fuel limit : Nat} (hlimit : monitor.timing.bootstrapLimit = some limit)
    (htimed : RunTimed monitor origin fuel exit entries)
    (hexit : exit = some (.bootstrapTimedOut phase probe elapsed last)) :
    ∃ earlier pass, passes = earlier ++ [pass] ∧
      ¬monitor.Clears world origin earlier.flatten phase pass ∧
        elapsed = elapsedAfter entered (earlier.flatten ++ pass) ∧
          limit ≤ elapsed ∧ EndsAtLimit phase entered elapsed exit after := by
  have hentered := htimed.timeline.entered_eq hwritten
  have hreached := htimed.limit _ hexit
  have hend := hlog.ended
  cases hend with
  | left instant heard hblocks hclears hother hquiet hpast =>
      exact absurd hexit (hother probe elapsed last)
  | broken hblocks hcut hbreak hbetween hafter =>
      exact absurd hexit (hbreak.ne_limit probe elapsed last)
  | @timedOut earlier pass found taken instant status heard hblocks =>
      obtain ⟨-, rfl, rfl, rfl⟩ :=
        RunExit.bootstrapTimedOut.inj (Option.some.inj hexit)
      have hflatten :
          (earlier ++ [pass]).flatten ++ [] = earlier.flatten ++ pass := by
        simp
      rw [hflatten] at hwritten hpaced
      obtain ⟨htaken, found, hfound, hle⟩ :=
        elapsed_eq_of_limit hwritten hentered rfl (fun _ => rfl) hreached
      rw [hlimit, Option.some.injEq] at hfound
      have hinstant : instant = entered + taken := by
        rw [htaken]
        exact htimed.timeline.told_after hwritten pingsIn_nil (by simp) (by simp)
          hpaced
      subst hinstant
      exact ⟨earlier, pass, rfl, hblocks earlier pass [] rfl, htaken,
        hfound ▸ hle, _, _, heard, rfl, rfl⟩

/-- Whatever comes after a pass in vain was begun within the limit. -/
theorem PhaseLog.last_of_late
    (hlog : PhaseLog monitor world origin phase exit before passes cut after)
    (hpaced : Paced monitor entered (passes.flatten ++ cut)) {limit : Nat}
    (hlimit : monitor.timing.bootstrapLimit = some limit)
    (hsplit : passes = earlier ++ pass :: later)
    (hvain : ¬monitor.Clears world origin earlier.flatten phase pass)
    (hlate : limit ≤ elapsedAfter entered (earlier.flatten ++ pass)) :
    later = [] ∧ cut = [] := by
  by_contra hnot
  have hnext : later ≠ [] ∨ cut ≠ [] := by
    by_cases hlater : later = []
    · exact .inr fun hcut => hnot ⟨hlater, hcut⟩
    · exact .inl hlater
  have hearly := hlog.elapsed_lt hpaced hlimit hsplit hvain hnext
  omega

/-- A last pass in vain that has reached the limit ends the run. -/
theorem PhaseLog.endsAtLimit_of_late
    (hlog : PhaseLog monitor world origin phase exit before passes [] after)
    (hphase : phase ≠ .live)
    (hwritten :
      entries =
        before ++
          (monitor.phaseEntries phase entered verdict (passes.flatten ++ []) ++
            after))
    (hpaced : Paced monitor entered (passes.flatten ++ []))
    {fuel limit : Nat} (hlimit : monitor.timing.bootstrapLimit = some limit)
    (htimed : RunTimed monitor origin fuel exit entries)
    (hsplit : passes = earlier ++ [pass])
    (hvain : ¬monitor.Clears world origin earlier.flatten phase pass)
    (hlate : limit ≤ elapsedAfter entered (earlier.flatten ++ pass)) :
    EndsAtLimit phase entered (elapsedAfter entered (earlier.flatten ++ pass))
      exit after := by
  have hend := hlog.ended
  cases hend with
  | left instant heard hblocks hclears hexit hquiet hpast =>
      obtain ⟨rfl, hsame⟩ := List.append_singleton_inj.mp hsplit
      exact absurd (hsame ▸ hclears) hvain
  | timedOut hblocks =>
      obtain ⟨front, last, hpasses, -, htaken, -, hends⟩ :=
        hlog.endsAtLimit hwritten hpaced hlimit htimed rfl
      rw [hpasses] at hsplit
      obtain ⟨rfl, hsame⟩ := List.append_singleton_inj.mp hsplit
      rw [← hsame, ← htaken]
      exact hends
  | broken hblocks hcut hexit hbetween hafter =>
      have hnonempty : pass ≠ [] := by
        rintro rfl
        exact hvain (clears_nil _)
      have hearly := hlog.elapsed_lt_of_broken hphase hwritten
        (htimed.timeline.entered_eq hwritten) (htimed.within (hbetween rfl))
        hafter hlimit hsplit hnonempty
      exact absurd hlate (Nat.not_le_of_lt hearly)

/-- After a last pass in vain within the limit the run was broken off. -/
theorem PhaseLog.isBreak_of_early
    (hlog : PhaseLog monitor world origin phase exit before passes cut after)
    (hwritten :
      entries =
        before ++
          (monitor.phaseEntries phase entered verdict (passes.flatten ++ cut) ++
            after))
    (hpaced : Paced monitor entered (passes.flatten ++ cut))
    {fuel limit : Nat} (hlimit : monitor.timing.bootstrapLimit = some limit)
    (htimed : RunTimed monitor origin fuel exit entries)
    (hsplit : passes = earlier ++ [pass])
    (hvain : ¬monitor.Clears world origin earlier.flatten phase pass)
    (hearly : elapsedAfter entered (earlier.flatten ++ pass) < limit) :
    IsBreak exit := by
  have hend := hlog.ended
  cases hend with
  | left instant heard hblocks hclears hexit hquiet hpast =>
      obtain ⟨rfl, hsame⟩ := List.append_singleton_inj.mp hsplit
      exact absurd (hsame ▸ hclears) hvain
  | timedOut hblocks =>
      obtain ⟨front, last, hpasses, -, htaken, hle, -⟩ :=
        hlog.endsAtLimit hwritten hpaced hlimit htimed rfl
      rw [hpasses] at hsplit
      obtain ⟨rfl, rfl⟩ := List.append_singleton_inj.mp hsplit
      rw [← htaken] at hearly
      exact absurd hle (Nat.not_le_of_lt hearly)
  | broken hblocks hcut hexit hbetween hafter => exact hexit

theorem PhaseLog.heldToLimit
    (hlog : PhaseLog monitor world origin phase exit before passes cut after)
    (hphase : phase ≠ .live)
    (hwritten :
      entries =
        before ++
          (monitor.phaseEntries phase entered verdict (passes.flatten ++ cut) ++
            after))
    (hreachable : monitor.Reachable origin) {fuel limit : Nat}
    (hlimit : monitor.timing.bootstrapLimit = some limit)
    (htimed : RunTimed monitor origin fuel exit entries) :
    HeldToLimit monitor world origin phase limit exit entered passes cut
      after := by
  have hpaced := htimed.timeline.paced hreachable hwritten hlog.pings hphase
    (hlog.phase_eq hphase)
  constructor
  case complete => exact hlog.complete
  case late =>
    intro earlier pass later hsplit hvain hlate
    obtain ⟨rfl, rfl⟩ := hlog.last_of_late hpaced hlimit hsplit hvain hlate
    exact ⟨rfl, rfl, hlog.endsAtLimit_of_late hphase hwritten hpaced hlimit
      htimed hsplit hvain hlate⟩
  case early =>
    intro earlier pass later hsplit hvain hearly
    by_cases hlater : later = []
    · subst hlater
      exact .inr (hlog.isBreak_of_early hwritten hpaced hlimit htimed hsplit
        hvain hearly)
    · exact .inl hlater
  case ended =>
    intro probe elapsed last hexit
    obtain ⟨earlier, pass, hpasses, hvain, htaken, hle, -⟩ :=
      hlog.endsAtLimit hwritten hpaced hlimit htimed hexit
    exact ⟨earlier, pass, hpasses, hvain, htaken, hle⟩
  case bounds =>
    intro earlier pass later hsplit
    exact hlog.elapsed_bounds hpaced hlimit hsplit
  case some_pass =>
    intro hnone
    have hend := hlog.ended
    cases hend with
    | left instant heard hblocks hclears hexit hquiet hpast => simp at hnone
    | timedOut hblocks => simp at hnone
    | broken hblocks hcut hexit hbetween hafter => exact hexit
  case count => exact hlog.passes_le hpaced hreachable.valid.1 hlimit

end Phases

/-! ## How many steps there are before live -/

/-- How many pings some passes make, with one more for the pause before each. -/
def effort (pings : List Ping) : Nat :=
  pings.length + passesBegun pings

/-- The most steps that a run with a limit makes before live: with each pass a
ping of each probe, and a pause. -/
def Monitor.stepsBeforeLive (monitor : Monitor σ) (limit : Nat) : Nat :=
  monitor.timing.passLimit limit * (monitor.countIn .dependencyWait + 1) +
    monitor.timing.passLimit limit * (monitor.countIn .bootstrap + 1)

section Effort

variable {monitor : Monitor σ} {world : World} {origin : State σ}
  {phase : Phase} {exit : Option RunExit} {entries before after : List Entry}
  {passes : List (List Ping)} {cut : List Ping} {entered : Nat}

theorem length_flatten_of_complete
    (hcomplete : ∀ pass ∈ passes,
      Sweep phase.place false pass ∧ pass.length = monitor.countIn phase) :
    passes.flatten.length = passes.length * monitor.countIn phase := by
  induction passes with
  | nil => simp
  | cons pass passes ih =>
      obtain ⟨-, hfull⟩ := hcomplete pass List.mem_cons_self
      have hrest := ih fun other hmem =>
        hcomplete other (List.mem_cons_of_mem _ hmem)
      rw [List.flatten_cons, List.length_append, hfull, hrest,
        List.length_cons, Nat.succ_mul, Nat.add_comm]

theorem PhaseEnd.length_cut_le
    (hend : PhaseEnd monitor world origin phase exit passes cut after) :
    cut.length ≤ (if cut = [] then 0 else 1) * monitor.countIn phase := by
  cases hend with
  | left instant verdict hblocks hclears hexit hquiet hpast => exact Nat.zero_le _
  | timedOut hblocks => exact Nat.zero_le _
  | broken hblocks hcut hexit hbetween hafter =>
      by_cases hnone : cut = []
      · simp [hnone]
      · simpa [hnone] using hcut.bound

theorem PhaseLog.effort_le
    (hlog : PhaseLog monitor world origin phase exit before passes cut after)
    (hpaced : Paced monitor entered (passes.flatten ++ cut))
    (hinterval : 0 < monitor.timing.probeInterval) {limit : Nat}
    (hlimit : monitor.timing.bootstrapLimit = some limit) :
    effort (passes.flatten ++ cut) ≤
      monitor.timing.passLimit limit * (monitor.countIn phase + 1) := by
  have hpasses := hlog.passes_le hpaced hinterval hlimit
  have hbegun := hpaced.passesBegun_le hinterval hlimit
  have hcut := hlog.ended.length_cut_le
  have hlength :
      (passes.flatten ++ cut).length ≤
        monitor.timing.passLimit limit * monitor.countIn phase := by
    rw [List.length_append, length_flatten_of_complete hlog.complete]
    calc
      passes.length * monitor.countIn phase + cut.length ≤
          passes.length * monitor.countIn phase +
            (if cut = [] then 0 else 1) * monitor.countIn phase :=
        Nat.add_le_add_left hcut _
      _ = (passes.length + if cut = [] then 0 else 1) *
            monitor.countIn phase :=
        (Nat.add_mul _ _ _).symm
      _ ≤ monitor.timing.passLimit limit * monitor.countIn phase :=
        Nat.mul_le_mul_right _ hpasses
  rw [effort, Nat.mul_succ]
  exact Nat.add_le_add hlength hbegun

/-- What follows the last ping of a phase is of later phases only. -/
theorem PhaseEnd.rank_lt
    (hend : PhaseEnd monitor world origin phase exit passes cut after) :
    ∀ ping ∈ pingsIn after, phase.rank < ping.phase.rank := by
  cases hend with
  | left instant verdict hblocks hclears hexit hquiet hpast =>
      exact hpast.pings
  | timedOut hblocks => exact List.forall_mem_nil _
  | broken hblocks hcut hexit hbetween hafter =>
      rw [(quiet_of_farewell hafter).1]
      exact List.forall_mem_nil _

theorem PhaseLog.filter_eq
    (hlog : PhaseLog monitor world origin phase exit before passes cut after)
    (hphase : phase ≠ .live)
    (hwritten :
      entries =
        before ++
          (monitor.phaseEntries phase entered verdict (passes.flatten ++ cut) ++
            after)) :
    (pingsIn entries).filter (·.phase = phase) = passes.flatten ++ cut := by
  have hbefore : (pingsIn before).filter (·.phase = phase) = [] := by
    rw [List.filter_eq_nil_iff]
    intro ping hmem heq
    have hrank := hlog.pings ping hmem
    rw [of_decide_eq_true heq] at hrank
    exact Nat.lt_irrefl _ hrank
  have hafter : (pingsIn after).filter (·.phase = phase) = [] := by
    rw [List.filter_eq_nil_iff]
    intro ping hmem heq
    have hrank := hlog.ended.rank_lt ping hmem
    rw [of_decide_eq_true heq] at hrank
    exact Nat.lt_irrefl _ hrank
  have hself :
      (passes.flatten ++ cut).filter (·.phase = phase) =
        passes.flatten ++ cut := by
    rw [List.filter_eq_self]
    intro ping hmem
    exact decide_eq_true (hlog.phase_eq hphase ping hmem)
  rw [hwritten, pingsIn_append, pingsIn_append, pingsIn_phaseEntries,
    List.filter_append, List.filter_append, hbefore, hself, hafter,
    List.nil_append, List.append_nil]

theorem effort_cons (ping : Ping) (pings : List Ping) :
    effort (ping :: pings) =
      effort pings + 1 + if ping.position.index = 0 then 1 else 0 := by
  simp only [effort, passesBegun, List.length_cons, List.countP_cons,
    beq_iff_eq]
  omega

theorem effort_eq_sum (pings : List Ping) :
    effort pings =
      effort (pings.filter (·.phase = .dependencyWait)) +
        effort (pings.filter (·.phase = .bootstrap)) +
          effort (pings.filter (·.phase = .live)) := by
  induction pings with
  | nil => rfl
  | cons ping pings ih =>
      rw [effort_cons, ih]
      cases hphase : ping.phase with
      | dependencyWait =>
          simp only [List.filter_cons, hphase, effort_cons, reduceCtorEq,
            decide_true, decide_false, if_true, Bool.false_eq_true, if_false]
          omega
      | bootstrap =>
          simp only [List.filter_cons, hphase, effort_cons, reduceCtorEq,
            decide_true, decide_false, if_true, Bool.false_eq_true, if_false]
          omega
      | live =>
          simp only [List.filter_cons, hphase, effort_cons, reduceCtorEq,
            decide_true, decide_false, if_true, Bool.false_eq_true, if_false]
          omega

/-- A run with a limit makes only so much effort in a phase before live. -/
theorem RunLog.effort_le
    (hlog : RunLog monitor world origin exit entries)
    (hreachable : monitor.Reachable origin)
    (htimeline : Timeline monitor origin entries) {limit : Nat}
    (hlimit : monitor.timing.bootstrapLimit = some limit) {phase : Phase}
    (hphase : phase ≠ .live) :
    effort ((pingsIn entries).filter (·.phase = phase)) ≤
      monitor.timing.passLimit limit * (monitor.countIn phase + 1) := by
  by_cases hentered : .phase phase ∈ callbacksIn entries
  · obtain ⟨before, entered, verdict, passes, cut, after, hwritten, hplan⟩ :=
      hlog.hasPhase hreachable hphase hentered
    have hpaced := htimeline.paced hreachable hwritten hplan.pings hphase
      (hplan.phase_eq hphase)
    rw [hplan.filter_eq hphase hwritten]
    exact hplan.effort_le hpaced hreachable.valid.1 hlimit
  · have hnone : (pingsIn entries).filter (·.phase = phase) = [] := by
      rw [List.filter_eq_nil_iff]
      intro ping hmem heq
      exact hentered (of_decide_eq_true heq ▸ hlog.entered_of_ping ping hmem)
    rw [hnone]
    exact Nat.zero_le _

/-- With more steps than its timing allows before live, a run is live or over. -/
theorem RunLog.ends_or_lives
    (hlog : RunLog monitor world origin exit entries)
    (hreachable : monitor.Reachable origin) {fuel limit : Nat}
    (hlimit : monitor.timing.bootstrapLimit = some limit)
    (htimed : RunTimed monitor origin fuel exit entries)
    (hfuel : monitor.stepsBeforeLive limit < fuel) :
    exit ≠ none ∨ .phase .live ∈ callbacksIn entries := by
  by_contra hnot
  rw [not_or, Decidable.not_not] at hnot
  obtain ⟨hunended, hunlived⟩ := hnot
  have hlive : (pingsIn entries).filter (·.phase = .live) = [] := by
    rw [List.filter_eq_nil_iff]
    intro ping hmem heq
    exact hunlived (of_decide_eq_true heq ▸ hlog.entered_of_ping ping hmem)
  have hsteps : fuel ≤ effort (pingsIn entries) :=
    (htimed.progress hunended).resolve_left hunlived
  have hwait := hlog.effort_le hreachable htimed.timeline hlimit
    (show Phase.dependencyWait ≠ .live by decide)
  have hboot := hlog.effort_le hreachable htimed.timeline hlimit
    (show Phase.bootstrap ≠ .live by decide)
  rw [effort_eq_sum, hlive] at hsteps
  have hnone : effort [] = 0 := rfl
  unfold Monitor.stepsBeforeLive at hfuel
  omega

end Effort

/-! ## The limit in every run -/

/-- What a time limit makes of a run that was given `fuel` steps. -/
structure DeadlineRecord
    (monitor : Monitor σ) (world : World) (origin : State σ)
    (limit fuel : Nat) (exit : Option RunExit) (entries : List Entry) :
    Prop where
  phases : ∀ phase, phase ≠ .live → .phase phase ∈ callbacksIn entries →
    ∃ before entered verdict passes cut after,
      entries =
          before ++
            (monitor.phaseEntries phase entered verdict
                (passes.flatten ++ cut) ++
              after) ∧
        entered = clockAfter origin.now.instant (pingsIn before) ∧
        (∀ ping ∈ pingsIn before ++ pingsIn after, ping.phase ≠ phase) ∧
        HeldToLimit monitor world origin phase limit exit entered passes cut
          after
  exits : ∀ phase probe elapsed last,
    exit = some (.bootstrapTimedOut phase probe elapsed last) →
      phase ≠ .live ∧ .phase phase ∈ callbacksIn entries
  ends : monitor.stepsBeforeLive limit < fuel →
    exit ≠ none ∨ .phase .live ∈ callbacksIn entries

section Runs

variable {monitor : Monitor σ} {world : World} {origin : State σ}
  {exit : Option RunExit} {entries : List Entry}

theorem RunLog.exits_in_phase
    (hlog : RunLog monitor world origin exit entries) {phase : Phase}
    {probe : String} {elapsed : Nat} {last : Option Status}
    (hexit : exit = some (.bootstrapTimedOut phase probe elapsed last)) :
    phase ≠ .live ∧ .phase phase ∈ callbacksIn entries := by
  cases hlog with
  | waiting hlog hroom hstop =>
      exact absurd hexit (hstop.isBreak.ne_limit _ _ _)
  | waitTimedOut hlog hfull hblocked =>
      obtain ⟨rfl, -⟩ := RunExit.bootstrapTimedOut.inj (Option.some.inj hexit)
      simp [hlog.callbacksIn_eq]
  | booting hlog hroom hstop =>
      exact absurd hexit (hstop.isBreak.ne_limit _ _ _)
  | bootTimedOut hlog hfull hblocked =>
      obtain ⟨rfl, -⟩ := RunExit.bootstrapTimedOut.inj (Option.some.inj hexit)
      simp [hlog.callbacksIn_eq]
  | living hlog htail => exact absurd hexit (htail.ne_limit _ _ _)

theorem PhaseLog.elsewhere
    {phase : Phase} {before after : List Entry} {passes : List (List Ping)}
    {cut : List Ping}
    (hlog : PhaseLog monitor world origin phase exit before passes cut after) :
    ∀ ping ∈ pingsIn before ++ pingsIn after, ping.phase ≠ phase := by
  rintro ping hmem rfl
  rcases List.mem_append.mp hmem with hbefore | hafter
  · exact Nat.lt_irrefl _ (hlog.pings ping hbefore)
  · exact Nat.lt_irrefl _ (hlog.ended.rank_lt ping hafter)

/-- In every run with a limit, each phase before live that does not come to its
end otherwise ends the run at the end of its first pass in vain that reaches the
limit, and the run is live or over after a bounded number of steps. -/
theorem run_deadlineRecord
    {stop : Option Nat} {fuel limit : Nat} {final : State σ}
    (hreachable : monitor.Reachable origin)
    (hlimit : monitor.timing.bootstrapLimit = some limit)
    (hrun : monitor.run world stop fuel origin = (.ok exit, final)) :
    DeadlineRecord monitor world origin limit fuel exit
      (final.since origin) := by
  obtain ⟨-, hlog⟩ := run_log hrun
  have htimed := run_timed hrun
  constructor
  case phases =>
    intro phase hphase hentered
    obtain ⟨before, entered, verdict, passes, cut, after, hwritten, hplan⟩ :=
      hlog.hasPhase hreachable hphase hentered
    exact ⟨before, entered, verdict, passes, cut, after, hwritten,
      htimed.timeline.entered_eq hwritten, hplan.elsewhere,
      hplan.heldToLimit hphase hwritten hreachable hlimit htimed⟩
  case exits =>
    intro phase probe elapsed last hexit
    exact hlog.exits_in_phase hexit
  case ends =>
    intro hfuel
    exact hlog.ends_or_lives hreachable hlimit htimed hfuel

end Runs

namespace Sample

/-- The sample monitor with a limit that is no multiple of its interval. -/
def limited : Monitor Unit :=
  { monitor with timing := { bootstrapLimit := some 3000 } }

/-- The database is ready but slow, and the service stays down. -/
def outage : World where
  call
    | .dependency _, _ =>
        { takes := some 500, ending := .status (.up "db" "ready") }
    | .primary _, _ => { ending := .status (.down "http" "refused") }

def limitedStart : State Unit :=
  (limited.perform outage 0 (.initial limited ()) .start).2

def limitedEnd : State Unit :=
  (limited.run outage none 20 limitedStart).2

theorem limited_reachable : limited.Reachable limitedStart :=
  .performed (.built rfl) outage 0 .start

theorem limited_run_eq :
    limited.run outage none 20 limitedStart =
      (.ok (some (.bootstrapTimedOut .bootstrap "http" 4000
        (some ((Status.down "http" "refused").inPhase .bootstrap)))),
        limitedEnd) := rfl

end Sample

/-- The bootstrap, entered at 500, is over after its third pass at 4500. -/
theorem run_deadlineRecord_sample :
    Sample.limited.timing.bootstrapLimit = some 3000 ∧
      DeadlineRecord Sample.limited Sample.outage Sample.limitedStart 3000 20
        (some (.bootstrapTimedOut .bootstrap "http" 4000
          (some ((Status.down "http" "refused").inPhase .bootstrap))))
        (Sample.limitedEnd.since Sample.limitedStart) :=
  ⟨rfl, run_deadlineRecord Sample.limited_reachable rfl Sample.limited_run_eq⟩

end HealthMonitor
