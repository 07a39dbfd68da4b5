import HealthMonitor.Proofs.Deadline
import HealthMonitor.Reporter.OneShot

/-!
# How a bootstrap with a limit ends

A bootstrap with a limit that is not broken off ends with the first pass that is
clean or that ends with the limit reached, whichever comes first.  A clean pass
always goes live, however late it ends: a pause and slow calls can carry it past
the limit.
-/

namespace HealthMonitor

variable {σ : Type}

def Callback.isBootstrapTimeout : Callback → Bool
  | .timedOut .bootstrap _ _ _ => true
  | _ => false

/-- How a bootstrap that was entered at `entered` ends with its last pass, after
the passes `passes`. -/
structure BootstrapEnds
    (monitor : Monitor σ) (limit : Nat) (exit : Option RunExit)
    (entries after : List Entry) (entered : Nat) (passes : List (List Ping))
    (pass : List Ping) : Prop where
  complete : ∀ other ∈ passes ++ [pass],
    Sweep .primary false other ∧ other.length = monitor.primaries.length
  vain : ∀ earlier other later, passes = earlier ++ other :: later →
    (∃ ping ∈ other, ping.succeeded = false) ∧
      elapsedAfter entered (earlier.flatten ++ other) < limit
  clean : (∀ ping ∈ pass, ping.succeeded = true) →
    (∃ quiet verdict more,
        after =
            quiet ++
              .told (entered + elapsedAfter entered (passes.flatten ++ pass))
                (.phase .live) verdict :: more ∧
          pingsIn quiet = []) ∧
      (callbacksIn entries).countP Callback.isBootstrapTimeout = 0 ∧
      ∀ probe elapsed last,
        exit ≠ some (.bootstrapTimedOut .bootstrap probe elapsed last)
  down : (∃ ping ∈ pass, ping.succeeded = false) →
    .phase .live ∉ callbacksIn entries ∧
      (callbacksIn entries).countP Callback.isBootstrapTimeout = 1 ∧
      limit ≤ elapsedAfter entered (passes.flatten ++ pass) ∧
      EndsAtLimit .bootstrap entered
        (elapsedAfter entered (passes.flatten ++ pass)) exit after
  bounds : passes = [] ∧
      elapsedAfter entered (passes.flatten ++ pass) ≤
        monitor.primaries.length * monitor.timing.probeTimeout ∨
    elapsedAfter entered (passes.flatten ++ pass) <
      limit + monitor.timing.probeInterval +
        monitor.primaries.length * monitor.timing.probeTimeout

section Ends

variable {monitor : Monitor σ} {world : World} {origin : State σ}
  {exit : Option RunExit} {entries before after : List Entry}
  {passes : List (List Ping)} {cut : List Ping} {entered : Nat}
  {verdict : Verdict}

theorem not_clears_bootstrap_iff {earlier pass : List Ping} :
    ¬monitor.Clears world origin earlier .bootstrap pass ↔
      ∃ ping ∈ pass, ping.succeeded = false := by
  simp [Monitor.Clears]

theorem countP_isBootstrapTimeout_of_past
    (hpast : Past .bootstrap entries) :
    (callbacksIn entries).countP Callback.isBootstrapTimeout = 0 := by
  rw [List.countP_eq_zero]
  intro callback hmem htimeout
  match callback with
  | .timedOut .bootstrap probe last now =>
      exact Nat.lt_irrefl _ (hpast.limits _ probe last now hmem)

/-- What a run tells of live and of limits in the bootstrap is told after the
last ping of the bootstrap. -/
theorem PhaseLog.told_in_after
    (hlog :
      PhaseLog monitor world origin .bootstrap exit before passes cut after)
    {pings : List Ping}
    (hwritten :
      entries =
        before ++
          (monitor.phaseEntries .bootstrap entered verdict pings ++ after)) :
    (callbacksIn entries).countP Callback.isBootstrapTimeout =
        (callbacksIn after).countP Callback.isBootstrapTimeout ∧
      (.phase .live ∈ callbacksIn entries ↔
        .phase .live ∈ callbacksIn after) := by
  have hbefore :
      (callbacksIn before).countP Callback.isBootstrapTimeout = 0 := by
    rw [List.countP_eq_zero]
    intro callback hmem
    simp [hlog.callbacks callback hmem, Callback.isBootstrapTimeout]
  have hunlived : .phase .live ∉ callbacksIn before :=
    fun hmem => nomatch hlog.callbacks _ hmem
  rw [hwritten, callbacksIn_append, callbacksIn_append,
    callbacksIn_phaseEntries, List.countP_append, hbefore]
  simp [hunlived, Callback.isBootstrapTimeout]

/-- The passes before the last one were made in vain and within the limit. -/
theorem PhaseLog.vain_before
    (hlog :
      PhaseLog monitor world origin .bootstrap exit before passes cut after)
    (hpaced : Paced monitor entered (passes.flatten ++ cut)) {limit : Nat}
    (hlimit : monitor.timing.bootstrapLimit = some limit)
    {front : List (List Ping)} {last : List Ping}
    (hpasses : passes = front ++ [last]) :
    ∀ earlier other later, front = earlier ++ other :: later →
      (∃ ping ∈ other, ping.succeeded = false) ∧
        elapsedAfter entered (earlier.flatten ++ other) < limit := by
  intro earlier other later hfront
  have hsplit : passes = earlier ++ other :: (later ++ [last]) := by
    simp [hpasses, hfront]
  have hnext : later ++ [last] ≠ [] := by simp
  have hvain := hlog.ended.not_clears hsplit hnext
  exact ⟨not_clears_bootstrap_iff.mp hvain,
    hlog.elapsed_lt hpaced hlimit hsplit hvain (.inl hnext)⟩

theorem Past.eq_live
    {next : Phase} (hpast : Past .bootstrap entries)
    (hmem : .phase next ∈ callbacksIn entries) : next = .live := by
  have hrank := hpast.phases next hmem
  cases next with
  | live => rfl
  | dependencyWait => exact nomatch hrank
  | bootstrap => exact absurd hrank (Nat.lt_irrefl _)

/-- A bootstrap that is not broken off was left or ended by its limit. -/
theorem PhaseLog.bootstrapEnds
    (hlog :
      PhaseLog monitor world origin .bootstrap exit before passes cut after)
    (hwritten :
      entries =
        before ++
          (monitor.phaseEntries .bootstrap entered verdict
              (passes.flatten ++ cut) ++
            after))
    (hreachable : monitor.Reachable origin) {fuel limit : Nat}
    (hlimit : monitor.timing.bootstrapLimit = some limit)
    (htimed : RunTimed monitor origin fuel exit entries)
    (hgoes : IsBreak exit → .phase .live ∈ callbacksIn entries) :
    ∃ earlier pass, passes = earlier ++ [pass] ∧ cut = [] ∧
      BootstrapEnds monitor limit exit entries after entered earlier pass := by
  have hphase : Phase.bootstrap ≠ .live := by decide
  have hpaced := htimed.timeline.paced hreachable hwritten hlog.pings hphase
    (hlog.phase_eq hphase)
  have hheld := hlog.heldToLimit hphase hwritten hreachable hlimit htimed
  obtain ⟨hcount, hlived⟩ := hlog.told_in_after hwritten
  have hend := hlog.ended
  cases hend with
  | @left _ earlier pass quiet more next instant heard hblocks hclears hexit
      hquiet hpast =>
      refine ⟨earlier, pass, rfl, rfl, ?_⟩
      obtain rfl : next = .live := hpast.eq_live (by simp)
      have hvain := hlog.vain_before hpaced hlimit rfl
      have hflatten :
          (earlier ++ [pass]).flatten ++ [] = earlier.flatten ++ pass := by
        simp
      rw [hflatten] at hpaced hwritten
      have hinstant :=
        htimed.timeline.told_after hwritten hquiet (by simp) (by simp) hpaced
      subst hinstant
      constructor
      case complete => exact hlog.complete
      case vain => exact hvain
      case clean =>
        intro _
        rw [hcount]
        exact ⟨⟨quiet, heard, more, rfl, hquiet⟩,
          countP_isBootstrapTimeout_of_past hpast, hexit⟩
      case down =>
        intro hdown
        exact absurd hclears (not_clears_bootstrap_iff.mpr hdown)
      case bounds => exact hheld.bounds earlier pass [] rfl
  | @timedOut earlier pass probe elapsed instant last heard hblocks =>
      refine ⟨earlier, pass, rfl, rfl, ?_⟩
      have hvain := hlog.vain_before hpaced hlimit rfl
      have hdown := hblocks earlier pass [] rfl
      obtain ⟨front, last, hpasses, -, htaken, hle⟩ := hheld.ended _ _ _ rfl
      obtain ⟨rfl, rfl⟩ := List.append_singleton_inj.mp hpasses
      rw [htaken] at hle
      constructor
      case complete => exact hlog.complete
      case vain => exact hvain
      case clean => exact fun hclean => absurd hclean hdown
      case down =>
        intro _
        obtain ⟨-, -, hends⟩ := hheld.late earlier pass [] rfl hdown hle
        rw [hcount, hlived]
        exact ⟨by simp, rfl, hle, hends⟩
      case bounds => exact hheld.bounds earlier pass [] rfl
  | broken hblocks hcut hexit hbetween hafter =>
      have hmem := hlived.mp (hgoes hexit)
      exact nomatch (quiet_of_farewell hafter).2.2 _ hmem

end Ends

/-- With a limit, a bootstrap that neither a shutdown nor an abort breaks off
goes live with its first clean pass, unless a pass in vain has reached the limit
before. -/
theorem run_bootstrapEnds
    {monitor : Monitor σ} {world : World} {stop : Option Nat}
    {fuel limit : Nat} {origin final : State σ} {exit : Option RunExit}
    (hreachable : monitor.Reachable origin)
    (hlimit : monitor.timing.bootstrapLimit = some limit)
    (hrun : monitor.run world stop fuel origin = (.ok exit, final))
    (hfuel : exit ≠ none ∨ monitor.stepsBeforeLive limit < fuel)
    (hshutdown : exit ≠ some .shutdown)
    (habort : ∀ abort, exit ≠ some (.aborted abort))
    (hentered : .phase .bootstrap ∈ callbacksIn (final.since origin)) :
    ∃ before entered verdict passes pass after,
      final.since origin =
          before ++
            (monitor.phaseEntries .bootstrap entered verdict
                (passes.flatten ++ pass) ++
              after) ∧
        (∀ ping ∈ pingsIn before ++ pingsIn after, ping.phase ≠ .bootstrap) ∧
        BootstrapEnds monitor limit exit (final.since origin) after entered
          passes pass := by
  obtain ⟨-, hlog⟩ := run_log hrun
  have htimed := run_timed hrun
  obtain ⟨before, entered, verdict, passes, cut, after, hwritten, hplan⟩ :=
    hlog.hasPhase hreachable (by decide) hentered
  have hgoes : IsBreak exit → .phase .live ∈ callbacksIn (final.since origin) := by
    rintro (hnone | hstopped | ⟨abort, haborted⟩)
    · have hends := hlog.ends_or_lives hreachable hlimit htimed
        (hfuel.resolve_left (fun hne => hne hnone))
      exact hends.resolve_left (fun hne => hne hnone)
    · exact absurd hstopped hshutdown
    · exact absurd haborted (habort abort)
  obtain ⟨earlier, pass, rfl, rfl, hends⟩ :=
    hplan.bootstrapEnds hwritten hreachable hlimit htimed hgoes
  have hflatten :
      (earlier ++ [pass]).flatten ++ [] = earlier.flatten ++ pass := by
    simp
  rw [hflatten] at hwritten
  exact ⟨before, entered, verdict, earlier, pass, after, hwritten,
    hplan.elsewhere, hends⟩

theorem run_bootstrapEnds_sample :
    Sample.limited.timing.bootstrapLimit = some 3000 ∧
      ∃ before entered verdict passes pass after,
        Sample.limitedEnd.since Sample.limitedStart =
            before ++
              (Sample.limited.phaseEntries .bootstrap entered verdict
                  (passes.flatten ++ pass) ++
                after) ∧
          (∀ ping ∈ pingsIn before ++ pingsIn after,
            ping.phase ≠ .bootstrap) ∧
          BootstrapEnds Sample.limited 3000
            (some (.bootstrapTimedOut .bootstrap "http" 4000
              (some ((Status.down "http" "refused").inPhase .bootstrap))))
            (Sample.limitedEnd.since Sample.limitedStart) after entered passes
            pass :=
  ⟨rfl, run_bootstrapEnds Sample.limited_reachable rfl Sample.limited_run_eq
    (.inl nofun) nofun nofun (by decide)⟩

/-! ## A late bootstrap -/

/-- Live is entered only while the bootstrap is within its limit. -/
def GoesLiveInTime (limit : Nat) (entries : List Entry) : Prop :=
  ∀ entered opened verdict heard,
    .told entered (.phase .bootstrap) verdict ∈ entries →
      .told opened (.phase .live) heard ∈ entries → opened - entered < limit

namespace Sample

/-- A status check with a limit. -/
def check : Monitor OneShotReporter where
  name := "service"
  primaries := [{ name := "http" }]
  timing := { bootstrapLimit := some 3000 }
  reporter := OneShotReporter.reporter

/-- The service comes up with its third call. -/
def recovery : World where
  call
    | .dependency _, _ => { ending := .status (.up "db" "ready") }
    | .primary _, number =>
        if number < 2 then { ending := .status (.down "http" "refused") }
        else { ending := .status (.up "http" "ok") }

def checkStart : State OneShotReporter :=
  (check.perform recovery 0 (.initial check {}) .start).2

def checkEnd : State OneShotReporter :=
  (check.run recovery none 20 checkStart).2

end Sample

/-- The third pass begins with the limit reached, and still goes live. -/
theorem late_bootstrap_goes_live :
    Sample.check.run Sample.recovery none 20 Sample.checkStart =
        (.ok (some .cycleCompleted), Sample.checkEnd) ∧
      ¬GoesLiveInTime 3000 (Sample.checkEnd.since Sample.checkStart) := by
  refine ⟨rfl, ?_⟩
  intro hkept
  have hearly : 4000 - 0 < 3000 :=
    hkept 0 4000 .proceed .proceed (by decide) (by decide)
  exact absurd hearly (by decide)

end HealthMonitor
