import HealthMonitor.Proofs.Sketches
import HealthMonitor.Reporter.Log
import HealthMonitor.Reporter.Rest

/-!
# The log and the status server drive a monitor alike

Both reporters stop a run at a failure if they are told to, and at nothing else.
Monitors that report to them therefore lead the same life, up to the timestamps
of statuses, and a run of either ends in a shutdown, in an abort, at the limit
of a phase before live, or at the first failure of live.  The main statement is
`run_logAndRest`.
-/

namespace HealthMonitor

variable {σ : Type}

/-- The phases that a run entered, each with its instant. -/
def phasesIn (entries : List Entry) : List (Nat × Phase) :=
  entries.filterMap fun
    | .told instant (.phase phase) _ => some (instant, phase)
    | _ => none

/-- The failed status of a live ping, as it is reported. -/
def Ping.failure? (ping : Ping) : Option Status :=
  if ping.live then
    (ping.status?.filter (!·.success)).map (·.inPhase .live)
  else none

/-- Two runs took the same course: they differ in timestamps of statuses at
most. -/
structure SameButDates
    (exit other : Option RunExit) (entries others : List Entry) : Prop where
  exit : exit.map RunExit.undated = other.map RunExit.undated
  pings :
    (pingsIn entries).map Ping.undated = (pingsIn others).map Ping.undated
  phases : phasesIn entries = phasesIn others
  entries : entries.map Entry.undated = others.map Entry.undated

/-- How a run ends, with all pings it made, if only a failure can stop it and
only if `exitOnFailure` says so. -/
structure StopsAtFailures
    (exitOnFailure : Bool) (exit : Option RunExit) (pings : List Ping) :
    Prop where
  exits : ∀ found, exit = some found →
    found = .shutdown ∨ (∃ abort, found = .aborted abort) ∨
      (∃ phase probe elapsed last,
        found = .bootstrapTimedOut phase probe elapsed last) ∨
      exitOnFailure = true ∧ ∃ status, found = .probeFailed status
  /-- A live ping that hangs does not stop the run. -/
  hung : ∀ before ping, pings = before ++ [ping] → ping.live = true →
    ping.outcome = some .timedOut → exit = none ∨ exit = some .shutdown
  failed : ∀ status, exit = some (.probeFailed status) →
    ∃ before ping, pings = before ++ [ping] ∧ ping.failure? = some status ∧
      ∀ earlier ∈ before, earlier.failure? = none
  first : exitOnFailure = true → ∀ before ping after status,
    pings = before ++ ping :: after → ping.failure? = some status →
      after = [] ∧ exit = some (.probeFailed status)

/-- Two monitors that were started make runs of one course, and both runs stop
at failures only. -/
def RunAlike
    {α β : Type} (exitOnFailure : Bool) (stop : Option Nat) (fuel : Nat)
    (monitor : Monitor α) (world : World) (origin : State α)
    (twin : Monitor β) (second : World) (mate : State β) : Prop :=
  ∃ exit final other last,
    monitor.run world stop fuel origin = (.ok exit, final) ∧
      twin.run second stop fuel mate = (.ok other, last) ∧
      SameButDates exit other (final.since origin) (last.since mate) ∧
      StopsAtFailures exitOnFailure exit (pingsIn (final.since origin)) ∧
      StopsAtFailures exitOnFailure other (pingsIn (last.since mate))

/-- The same monitor with the log for its reporter. -/
def Monitor.logging (base : Monitor σ) (exitOnFailure : Bool) :
    Monitor LogReporter :=
  base.reportingTo (LogReporter.reporter exitOnFailure)

/-- The same monitor with a status server for its reporter. -/
def Monitor.serving (base : Monitor σ) (setup : RestSetup) :
    Monitor RestReporter :=
  base.reportingTo (RestReporter.reporter setup)

/-! ## The rule of both reporters -/

/-- Only a failure stops, and only if `exitOnFailure` says so. -/
def stopsAtFailure (exitOnFailure : Bool) : Callback → Bool
  | .failure _ => exitOnFailure
  | _ => false

theorem stopsAtFailure_undated (exitOnFailure : Bool) (callback : Callback) :
    stopsAtFailure exitOnFailure callback.undated =
      stopsAtFailure exitOnFailure callback := by
  cases callback <;> rfl

theorem LogReporter.follows (exitOnFailure : Bool) :
    (reporter exitOnFailure).Follows (stopsAtFailure exitOnFailure) where
  verdict state callback := by cases callback <;> rfl
  undated := stopsAtFailure_undated exitOnFailure

theorem RestReporter.follows
    {setup : RestSetup} {address : String}
    (hlisten : setup.listen = .ok address) :
    (reporter setup).Follows (stopsAtFailure setup.exitOnFailure) where
  verdict state callback := by
    cases callback with
    | start name description =>
        simp only [reporter, start, hlisten]
        rfl
    | unregister => rfl
    | phase stage => rfl
    | booted status => rfl
    | result stage status => rfl
    | heartbeat status => rfl
    | failure status => rfl
    | timedOut stage probe last now => rfl
    | cycle => rfl
  undated := stopsAtFailure_undated setup.exitOnFailure

/-! ## Courses -/

section Courses

theorem sketch_since (final origin : State σ) :
    (final.since origin).map Entry.undated =
      final.sketch.since origin.sketch := by
  simp [State.since, State.sketch]

theorem pingsIn_undated (entries : List Entry) :
    pingsIn (entries.map Entry.undated) =
      (pingsIn entries).map Ping.undated := by
  rw [pingsIn, pingsIn, List.filterMap_map, List.map_filterMap]
  congr 1
  funext entry
  cases entry <;> rfl

theorem phasesIn_undated (entries : List Entry) :
    phasesIn (entries.map Entry.undated) = phasesIn entries := by
  rw [phasesIn, phasesIn, List.filterMap_map]
  congr 1
  funext entry
  cases entry with
  | told instant callback verdict => cases callback <;> rfl
  | pinged ping => rfl
  | prepared position => rfl
  | beganBootstrap position => rfl
  | endedBootstrap position => rfl

theorem sameButDates_of_entries
    {exit other : Option RunExit} {entries others : List Entry}
    (hexit : exit.map RunExit.undated = other.map RunExit.undated)
    (hentries : entries.map Entry.undated = others.map Entry.undated) :
    SameButDates exit other entries others where
  exit := hexit
  pings := by rw [← pingsIn_undated, hentries, pingsIn_undated]
  phases := by rw [← phasesIn_undated, hentries, phasesIn_undated]
  entries := hentries

end Courses

/-! ## Two monitors under one rule -/

section Twins

variable {α β : Type} {monitor : Monitor α} {twin : Monitor β}
  {stops : Callback → Bool} {origin : State α} {mate : State β}
  (hfollows : monitor.reporter.Follows stops)
  (htwin : twin.reporter.Follows stops)
  (hruled : monitor.ruledBy stops = twin.ruledBy stops)
include hfollows htwin hruled

theorem sketch_eq_after
    {reporter : α} {other : β}
    (hbuilt : monitor.build? reporter = .ok origin)
    (hmate : twin.build? other = .ok mate) {deeds others : List Monitor.Deed}
    (hdeeds :
      deeds.map Monitor.Deed.undated = others.map Monitor.Deed.undated) :
    (monitor.after origin deeds).sketch = (twin.after mate others).sketch := by
  rw [Monitor.sketch_after hfollows, Monitor.sketch_after htwin,
    Monitor.build?_eq_ok hbuilt, Monitor.build?_eq_ok hmate,
    Monitor.sketch_initial, Monitor.sketch_initial, hruled, hdeeds]

theorem sameButDates_run
    (hsketch : origin.sketch = mate.sketch) {world second : World}
    (hworld : world.undated = second.undated) (stop : Option Nat) (fuel : Nat)
    (hstarted : origin.started = true) :
    ∃ exit final other last,
      monitor.run world stop fuel origin = (.ok exit, final) ∧
        twin.run second stop fuel mate = (.ok other, last) ∧
          SameButDates exit other (final.since origin) (last.since mate) := by
  have hmate : mate.started = true :=
    (congrArg State.started hsketch).symm.trans hstarted
  have hplayed :
      (Run.play monitor world stop fuel (Run.begin monitor origin)).sketch =
        (Run.play twin second stop fuel (Run.begin twin mate)).sketch := by
    rw [Run.sketch_play hfollows, Run.sketch_play htwin,
      Run.sketch_begin hfollows, Run.sketch_begin htwin, hruled, hworld,
      hsketch]
  refine ⟨_, _, _, _, if_pos hstarted, if_pos hmate,
    sameButDates_of_entries ?_ ?_⟩
  · rw [← Monitor.exit?_sketch, hplayed, Monitor.exit?_sketch]
  · rw [sketch_since, sketch_since, hsketch]
    exact congrArg (State.since · mate.sketch) (congrArg Run.state hplayed)

end Twins

/-! ## What the rule leaves of the exits -/

/-- Entries whose verdicts are those of a rule. -/
def Ruled (stops : Callback → Bool) (entries : List Entry) : Prop :=
  ∀ instant callback verdict, .told instant callback verdict ∈ entries →
    verdict = .ofStop (stops callback)

section Ruled

variable {monitor : Monitor σ} {world : World} {origin : State σ}
  {entries more : List Entry} {exitOnFailure : Bool} {exit : Option RunExit}

theorem Ruled.mono
    {stops : Callback → Bool} (hruled : Ruled stops entries)
    (hsubset : more ⊆ entries) :
    Ruled stops more :=
  fun instant callback verdict hmem =>
    hruled instant callback verdict (hsubset hmem)

theorem ruled_of_relays
    {stops : Callback → Bool} (hfollows : monitor.reporter.Follows stops)
    {state other : State σ} (hrelays : Relays monitor state other entries) :
    Ruled stops entries := by
  intro instant callback verdict hmem
  obtain ⟨before, after, hsplit⟩ := List.append_of_mem hmem
  rw [hrelays.verdict before instant callback verdict after hsplit]
  exact hfollows.verdict _ callback

theorem Ping.failure?_of_not_live
    {ping : Ping} (hlive : ping.live = false) : ping.failure? = none := by
  rw [failure?, hlive]
  rfl

theorem Ping.failure?_of_failed
    {ping : Ping} {status : Status} (hlive : ping.live = true)
    (houtcome : ping.outcome = some (.completed status))
    (hsuccess : status.success = false) :
    ping.failure? = some (status.inPhase .live) := by
  rw [failure?, if_pos hlive, status?_of_completed houtcome,
    Option.filter_some, hsuccess]
  rfl

theorem Ping.failure?_of_status?
    {ping : Ping} (hstatus : ∀ status, ping.outcome = some (.completed status) →
      status.success = true) :
    ping.failure? = none := by
  unfold failure?
  cases hfound : ping.status? with
  | none => simp
  | some status =>
      simp [hstatus status (outcome_of_status? hfound)]

/-- A live ping after which the run goes on did not fail, if a failure is to
stop it. -/
theorem Block.Settled.failure?_eq_none
    {block : Block} (hsettled : block.Settled monitor)
    (hruled : Ruled (stopsAtFailure true) block.entries) :
    block.ping.failure? = none := by
  apply Ping.failure?_of_status?
  intro status hstatus
  cases hsettled with
  | up houtcome hsuccess hbeat =>
      have hsame := Option.some.inj (houtcome.symm.trans hstatus)
      obtain rfl := PingOutcome.completed.inj hsame
      exact hsuccess
  | down houtcome hsuccess hbeat =>
      exact nomatch hruled _ _ _ (.tail _ (.tail _ (.head _)))
  | hung houtcome hbeat => exact nomatch houtcome.symm.trans hstatus

theorem LiveLog.exists_block
    {boot : List Entry} {passes : List LivePass} {current : List Block}
    (hlog : LiveLog monitor world origin boot passes current entries) :
    ∀ ping ∈ pingsIn entries, ping.live = true →
      ∃ block : Block, block.ping = ping ∧ block.Settled monitor ∧
        block.entries ⊆ entries := by
  intro ping hmem hlive
  obtain ⟨before, pass, hbooted⟩ := hlog.booted
  obtain ⟨instant, verdict, rfl⟩ := hlog.written
  rw [pingsIn_append, pingsIn_told_cons, List.mem_append, hlog.pingsIn_live,
    List.mem_append] at hmem
  rcases hmem with hboot | hpasses | hcurrent
  · exact nomatch (hbooted.beforeLive.pings ping hboot).symm.trans hlive
  · obtain ⟨pass, hpass, hping⟩ := List.mem_flatMap.mp hpasses
    obtain ⟨block, hblock, rfl⟩ := List.mem_map.mp hping
    obtain ⟨clean, hcomplete⟩ := hlog.complete_of_mem hpass
    refine ⟨block, rfl, hcomplete.settled block hblock, fun entry hentry => ?_⟩
    have hwritten : entry ∈ passes.flatMap LivePass.entries :=
      List.mem_flatMap.mpr ⟨pass, hpass, List.mem_append_left _
        (List.mem_flatMap.mpr ⟨block, hblock, hentry⟩)⟩
    simp [liveEntries, hwritten]
  · obtain ⟨block, hblock, rfl⟩ := List.mem_map.mp hcurrent
    refine ⟨block, rfl, hlog.settled block hblock, fun entry hentry => ?_⟩
    have hwritten : entry ∈ current.flatMap Block.entries :=
      List.mem_flatMap.mpr ⟨block, hblock, hentry⟩
    exact List.mem_append_right _ (.tail _ (List.mem_append_right _ hwritten))

theorem LiveLog.failure?_eq_none
    {boot : List Entry} {passes : List LivePass} {current : List Block}
    (hlog : LiveLog monitor world origin boot passes current entries)
    (hruled : Ruled (stopsAtFailure true) entries) :
    ∀ ping ∈ pingsIn entries, ping.failure? = none := by
  intro ping hmem
  cases hlive : ping.live with
  | false => exact Ping.failure?_of_not_live hlive
  | true =>
      obtain ⟨block, rfl, hsettled, hsubset⟩ :=
        hlog.exists_block ping hmem hlive
      exact hsettled.failure?_eq_none (hruled.mono hsubset)

/-! ## Ends -/

theorem Interrupted.failure?_eq_none
    {position : Position} {live : Bool} {tail : List Entry}
    (hstop : Interrupted origin position live exit tail) :
    ∀ ping ∈ pingsIn tail, ping.failure? = none := by
  have hunanswered : ∀ ping : Ping, ping.status? = none →
      ping.failure? = none := by
    intro ping hnone
    simp [Ping.failure?, hnone]
  cases hstop with
  | underway => simp
  | shutDown htail => simp [htail.pingsIn_eq]
  | cutShort hposition hlive houtcome htail =>
      simpa [htail.pingsIn_eq] using
        hunanswered _ (by simp [Ping.status?, houtcome])
  | aborted hposition hlive houtcome =>
      simpa using hunanswered _ (by simp [Ping.status?, houtcome])

/-- A run in which no live ping failed, and which did not end where one hung. -/
theorem StopsAtFailures.of_unfailed
    {pings : List Ping}
    (hexit : IsBreak exit ∨ ∃ phase probe elapsed last,
      exit = some (.bootstrapTimedOut phase probe elapsed last))
    (hlast : ∀ before ping, pings = before ++ [ping] → ping.live = true →
      ping.outcome = some .timedOut → exit = none ∨ exit = some .shutdown)
    (hnone : exitOnFailure = true → ∀ ping ∈ pings, ping.failure? = none) :
    StopsAtFailures exitOnFailure exit pings := by
  constructor
  case exits =>
    rintro found rfl
    rcases hexit with hbreak | ⟨phase, probe, elapsed, last, hlimit⟩
    · simp only [IsBreak, reduceCtorEq, Option.some.injEq, false_or] at hbreak
      exact hbreak.imp_right .inl
    · exact .inr (.inr (.inl
        ⟨phase, probe, elapsed, last, Option.some.inj hlimit⟩))
  case hung => exact hlast
  case failed =>
    rintro status rfl
    simp [IsBreak] at hexit
  case first =>
    rintro hexit before ping after status rfl hfailure
    have hquiet := hnone hexit ping (by simp)
    exact nomatch hfailure.symm.trans hquiet

theorem BeforeLive.stopsAtFailures
    (hbefore : BeforeLive entries)
    (hexit : IsBreak exit ∨ ∃ phase probe elapsed last,
      exit = some (.bootstrapTimedOut phase probe elapsed last)) :
    StopsAtFailures exitOnFailure exit (pingsIn entries) := by
  apply StopsAtFailures.of_unfailed hexit
  · intro before ping hpings hlive
    have hearly := hbefore.pings ping (by simp [hpings])
    exact nomatch hearly.symm.trans hlive
  · intro _ ping hmem
    exact Ping.failure?_of_not_live (hbefore.pings ping hmem)

theorem LiveLog.stopsAtFailures
    {boot tail : List Entry} {passes : List LivePass} {current : List Block}
    (hlog : LiveLog monitor world origin boot passes current entries)
    (htail : LiveTail monitor origin passes current exit tail)
    (hruled : Ruled (stopsAtFailure exitOnFailure) (entries ++ tail)) :
    StopsAtFailures exitOnFailure exit (pingsIn (entries ++ tail)) := by
  have hnone : exitOnFailure = true →
      ∀ ping ∈ pingsIn entries, ping.failure? = none := by
    rintro rfl
    exact hlog.failure?_eq_none (hruled.mono (List.subset_append_left _ _))
  rw [pingsIn_append]
  cases htail with
  | stopped hroom hstop =>
      apply StopsAtFailures.of_unfailed (.inl hstop.isBreak)
      · intro before ping hpings hlive houtcome
        cases hstop with
        | underway => exact .inl rfl
        | shutDown htail => exact .inr rfl
        | cutShort hposition hlive hcut htail => exact .inr rfl
        | aborted hposition hlive haborted =>
            obtain ⟨-, rfl⟩ := List.append_singleton_inj.mp hpings
            exact nomatch haborted.symm.trans houtcome
      · intro hexit
        exact List.forall_mem_append.mpr
          ⟨hnone hexit, hstop.failure?_eq_none⟩
  | @failed ping status instant verdict hposition hlive houtcome hsuccess =>
      have hstopped := hruled instant (.failure (status.inPhase .live)) .stop
        (by simp)
      have hexit : exitOnFailure = true := by
        cases exitOnFailure with
        | true => rfl
        | false => exact nomatch hstopped
      have hfailure := Ping.failure?_of_failed hlive houtcome hsuccess
      simp only [pingsIn_pinged_cons, pingsIn_told_cons, pingsIn_nil]
      constructor
      case exits =>
        rintro found hfound
        obtain rfl := Option.some.inj hfound
        exact .inr (.inr (.inr ⟨hexit, _, rfl⟩))
      case hung =>
        intro before last hpings _ hhung
        obtain ⟨-, rfl⟩ := List.append_singleton_inj.mp hpings
        exact nomatch houtcome.symm.trans hhung
      case failed =>
        intro found hfound
        obtain rfl := RunExit.probeFailed.inj (Option.some.inj hfound)
        exact ⟨_, ping, rfl, hfailure, hnone hexit⟩
      case first =>
        intro _ before other after found hpings hother
        rcases concat_split hpings with ⟨rfl, -, rfl⟩ | ⟨rest, -, hearlier⟩
        · obtain rfl := Option.some.inj (hfailure.symm.trans hother)
          exact ⟨rfl, rfl⟩
        · have hquiet := hnone hexit other (by simp [hearlier])
          exact nomatch hother.symm.trans hquiet
  | @hung ping last instant hposition hlive houtcome =>
      exact nomatch hruled instant
        (.timedOut .live (monitor.probeName ping.position) last instant) .stop
        (by simp)
  | @completed instant hfull hclean hbefore =>
      exact nomatch hruled instant .cycle .stop (by simp)

theorem RunLog.stopsAtFailures
    (hlog : RunLog monitor world origin exit entries)
    (hruled : Ruled (stopsAtFailure exitOnFailure) entries) :
    StopsAtFailures exitOnFailure exit (pingsIn entries) := by
  cases hlog with
  | waiting hlog hroom hstop =>
      exact (hlog.beforeLive.append hstop.beforeLive).stopsAtFailures
        (.inl hstop.isBreak)
  | waitTimedOut hlog hfull hblocked =>
      refine (hlog.beforeLive.append ?_).stopsAtFailures
        (.inr ⟨_, _, _, _, rfl⟩)
      exact ⟨by simp, by simp [Callback.isLive, Callback.isResult]⟩
  | booting hlog hroom hstop =>
      exact (hlog.beforeLive.append hstop.beforeLive).stopsAtFailures
        (.inl hstop.isBreak)
  | bootTimedOut hlog hfull hblocked =>
      refine (hlog.beforeLive.append ?_).stopsAtFailures
        (.inr ⟨_, _, _, _, rfl⟩)
      exact ⟨by simp, by simp [Callback.isLive, Callback.isResult]⟩
  | living hlog htail => exact hlog.stopsAtFailures htail hruled

end Ruled

/-! ## The main statement -/

theorem stopsAtFailures_run
    {monitor : Monitor σ} {exitOnFailure : Bool}
    (hfollows : monitor.reporter.Follows (stopsAtFailure exitOnFailure))
    {world : World} {stop : Option Nat} {fuel : Nat} {origin final : State σ}
    {exit : Option RunExit}
    (hrun : monitor.run world stop fuel origin = (.ok exit, final)) :
    StopsAtFailures exitOnFailure exit (pingsIn (final.since origin)) :=
  (run_log hrun).2.stopsAtFailures (ruled_of_relays hfollows (run_relays hrun))

/-- The runs of two monitors of which one writes a log and the other serves a
status board, with one exit flag and in one world up to timestamps: whatever the
monitors did before, they take the same course, and neither stops at anything
but a failure. -/
theorem run_logAndRest
    {base : Monitor σ} {setup : RestSetup} {address : String}
    (hlisten : setup.listen = .ok address)
    {logged : LogReporter} {served : RestReporter}
    {origin : State LogReporter} {mate : State RestReporter}
    (hbuilt :
      (base.logging setup.exitOnFailure).build? logged = .ok origin)
    (hmate : (base.serving setup).build? served = .ok mate)
    {deeds others : List Monitor.Deed}
    (hdeeds :
      deeds.map Monitor.Deed.undated = others.map Monitor.Deed.undated)
    {world second : World} (hworld : world.undated = second.undated)
    (stop : Option Nat) (fuel : Nat)
    (hstarted :
      ((base.logging setup.exitOnFailure).after origin deeds).started = true) :
    RunAlike setup.exitOnFailure stop fuel
      (base.logging setup.exitOnFailure) world
      ((base.logging setup.exitOnFailure).after origin deeds)
      (base.serving setup) second ((base.serving setup).after mate others) := by
  have hlog : (base.logging setup.exitOnFailure).reporter.Follows
      (stopsAtFailure setup.exitOnFailure) :=
    LogReporter.follows setup.exitOnFailure
  have hrest : (base.serving setup).reporter.Follows
      (stopsAtFailure setup.exitOnFailure) :=
    RestReporter.follows hlisten
  have hsketch := sketch_eq_after hlog hrest rfl hbuilt hmate hdeeds
  obtain ⟨exit, final, other, last, hrun, htwin, hcourse⟩ :=
    sameButDates_run hlog hrest rfl hsketch hworld stop fuel hstarted
  exact ⟨exit, final, other, last, hrun, htwin, hcourse,
    stopsAtFailures_run hlog hrun, stopsAtFailures_run hrest htwin⟩

/-! ## An example -/

namespace Sample

/-- The service fails with its third call. -/
def found : Position → Nat → Status
  | .dependency _, _ => .up "db" "ready"
  | .primary _, number =>
      if number = 2 then .down "http" "gone" else .up "http" "ok"

/-- A world in which the clock that dates the statuses starts at `time`. -/
def datedFrom (time : Nat) : World where
  call position number :=
    { ending :=
        .status { found position number with timestamp := time + number } }

def setup : RestSetup where
  bind := "localhost:0"
  listen := .ok "127.0.0.1:4711"

def logging : Monitor LogReporter :=
  monitor.logging true

def serving : Monitor RestReporter :=
  monitor.serving setup

def opening (time : Nat) : List Monitor.Deed :=
  [⟨.prepare, datedFrom time, 0⟩, ⟨.start, datedFrom time, 0⟩]

end Sample

/-- With the flag set, the third call of the service ends the run. -/
theorem run_logAndRest_sample :
    RunAlike true none 40 Sample.logging (Sample.datedFrom 5)
        (Sample.logging.after (.initial Sample.logging {}) (Sample.opening 5))
        Sample.serving (Sample.datedFrom 9)
        (Sample.serving.after (.initial Sample.serving {})
          (Sample.opening 9)) ∧
      (Sample.serving.run (Sample.datedFrom 9) none 40
          (Sample.serving.after (.initial Sample.serving {})
            (Sample.opening 9))).1 =
        .ok (some (.probeFailed
          { probe := "http", success := false, message := "gone",
            timestamp := 11, phase := some .live })) := by
  have hlisten : Sample.setup.listen = .ok "127.0.0.1:4711" := rfl
  have hbuilt :
      Sample.logging.build? {} = .ok (.initial Sample.logging {}) := rfl
  have hmate :
      Sample.serving.build? {} = .ok (.initial Sample.serving {}) := rfl
  have hdeeds :
      (Sample.opening 5).map Monitor.Deed.undated =
        (Sample.opening 9).map Monitor.Deed.undated := rfl
  have hworld :
      (Sample.datedFrom 5).undated = (Sample.datedFrom 9).undated := rfl
  exact ⟨run_logAndRest hlisten hbuilt hmate hdeeds hworld none 40 rfl, rfl⟩

end HealthMonitor
