import HealthMonitor.Proofs.Lives

/-!
# A life from end to end

`drive` takes a monitor through its whole life.  Each stage has to succeed
before the next one does anything: the timing, the preparation of every probe,
the start, the run.  Once the reporter has accepted the start, it hears of one
unregistration as the last thing, whatever the run came to.  The main statement
is `drive_record`.
-/

namespace HealthMonitor

variable {σ : Type}

namespace Monitor

/-- What a monitor tells its reporter to start with. -/
def opening (monitor : Monitor σ) : Callback :=
  .start monitor.name monitor.description

/-- What the reporter says to the opening. -/
def reply (monitor : Monitor σ) (reporter : σ) : Verdict :=
  (monitor.reporter.react reporter monitor.opening).1

/-- The entries of a preparation of some probes. -/
def preparations (positions : List Position) : List Entry :=
  positions.map .prepared

/-- A monitor that was just built, prepared and started. -/
def readied (monitor : Monitor σ) (world : World) (reporter : σ) : State σ :=
  (monitor.start (monitor.prepare world (.initial monitor reporter)).2).2

/-- Whether the monitor stays registered after a run until the process is asked
to end. -/
def awaitsEnd (monitor : Monitor σ) (exit : RunExit) : Bool :=
  monitor.reporter.haIntegrated && exit.isFailure

/-- What a drive writes once the reporter has accepted the start, and what it
returns. -/
structure DriveAccepted
    (monitor : Monitor σ) (world : World) (signal : ShutdownSignal)
    (sigterm : Option Nat) (fuel : Nat) (reporter : σ)
    (result : Except MonitorError (Option RunExit)) (entries : List Entry) :
    Prop where
  ok : ∃ exit, result = .ok exit
  /-- However the run ends, the drive returns that, unless it waits for a signal
  that never comes. -/
  returns : ∀ exit final,
    monitor.run world (signal.stop? 0) fuel (monitor.readied world reporter) =
        (.ok (some exit), final) →
      (monitor.awaitsEnd exit = true → sigterm ≠ none) →
      result = .ok (some exit)
  /-- There is no second start, and nothing is prepared any more. -/
  ofRun : ∀ entry ∈ entries, entry.isOfRun = true
  farewell : ∀ exit, result = .ok (some exit) →
    ∃ front instant verdict,
      entries = front ++ [.told instant .unregister verdict] ∧
        .unregister ∉ callbacksIn front ∧
        (monitor.awaitsEnd exit = true →
          ∃ time, sigterm = some time ∧ time ≤ instant)
  unfinished : result = .ok none → .unregister ∉ callbacksIn entries

/-- What a drive returns and writes, stage by stage. -/
structure DriveRecord
    (monitor : Monitor σ) (world : World) (signal : ShutdownSignal)
    (sigterm : Option Nat) (fuel : Nat) (reporter : σ)
    (result : Except MonitorError (Option RunExit)) (entries : List Entry) :
    Prop where
  /-- Dependencies come first, and then the primaries. -/
  order : monitor.positions.map monitor.probe? =
    (monitor.dependencies ++ monitor.primaries).map some
  invalid : ∀ error, monitor.timing.validate = .error error →
    result = .error (.settings error) ∧ entries = []
  unprepared : monitor.timing.Valid → ∀ before position rest error,
    monitor.positions = before ++ position :: rest →
      (∀ earlier ∈ before, world.init earlier = none) →
      world.init position = some error →
      result = .error (.probeInit (monitor.probeName position) error) ∧
        entries = preparations (before ++ [position])
  refused : monitor.timing.Valid →
    (∀ position ∈ monitor.positions, world.init position = none) →
      monitor.reply reporter = .stop →
      result = .error (.reporterRefused monitor.name) ∧
        entries = preparations monitor.positions ++
          [.told 0 monitor.opening .stop]
  accepted : monitor.timing.Valid →
    (∀ position ∈ monitor.positions, world.init position = none) →
      monitor.reply reporter = .proceed →
      ∃ rest,
        entries = preparations monitor.positions ++
          .told 0 monitor.opening .proceed :: rest ∧
        monitor.DriveAccepted world signal sigterm fuel reporter result rest
  /-- No ping comes before every probe was prepared. -/
  pinged : ∀ before ping after, entries = before ++ .pinged ping :: after →
    ∀ position ∈ monitor.positions,
      world.init position = none ∧ .prepared position ∈ before

/-! ## Preparing -/

section Preparing

variable {monitor : Monitor σ} {world : World}

theorem map_getElem?_range {α : Type} (items : List α) :
    (List.range items.length).map (items[·]?) = items.map some := by
  apply List.ext_getElem?
  intro index
  by_cases hrange : index < items.length
  · simp [hrange]
  · simp [hrange]

theorem map_probe?_positions (monitor : Monitor σ) :
    monitor.positions.map monitor.probe? =
      (monitor.dependencies ++ monitor.primaries).map some := by
  rw [positions, primaryPositions, List.map_append, List.map_map,
    List.map_map, List.map_append, ← map_getElem?_range, ← map_getElem?_range]
  rfl

theorem prepareFrom_all
    {positions : List Position}
    (hinit : ∀ position ∈ positions, world.init position = none)
    (state : State σ) :
    monitor.prepareFrom world positions state =
      (.ok (), { state with
        transcript := (preparations positions).reverse ++ state.transcript }) := by
  induction positions generalizing state with
  | nil => rfl
  | cons position positions ih =>
      obtain ⟨hposition, hrest⟩ := List.forall_mem_cons.mp hinit
      simp only [prepareFrom, hposition]
      rw [ih hrest]
      simp [preparations, State.note]

theorem prepareFrom_failed
    {before rest : List Position} {position : Position} {error : ProbeError}
    (hbefore : ∀ earlier ∈ before, world.init earlier = none)
    (herror : world.init position = some error) (state : State σ) :
    monitor.prepareFrom world (before ++ position :: rest) state =
      (.error (.probeInit (monitor.probeName position) error), { state with
        transcript := (preparations (before ++ [position])).reverse ++
          state.transcript }) := by
  induction before generalizing state with
  | nil => simp [prepareFrom, herror, preparations, State.note]
  | cons first before ih =>
      obtain ⟨hfirst, hbefore⟩ := List.forall_mem_cons.mp hbefore
      simp only [List.cons_append, prepareFrom, hfirst]
      rw [ih hbefore]
      simp [preparations, State.note]

/-- Either all probes can be prepared or there is a first that cannot. -/
theorem all_init_or_first_failed (world : World) (positions : List Position) :
    (∀ position ∈ positions, world.init position = none) ∨
      ∃ before position rest error,
        positions = before ++ position :: rest ∧
          (∀ earlier ∈ before, world.init earlier = none) ∧
          world.init position = some error := by
  induction positions with
  | nil => exact .inl nofun
  | cons position positions ih =>
      cases hinit : world.init position with
      | some error => exact .inr ⟨[], position, positions, error, rfl, nofun, hinit⟩
      | none =>
          rcases ih with hall | ⟨before, other, rest, error, rfl, hbefore, herror⟩
          · exact .inl (List.forall_mem_cons.mpr ⟨hinit, hall⟩)
          · exact .inr ⟨position :: before, other, rest, error, rfl,
              List.forall_mem_cons.mpr ⟨hinit, hbefore⟩, herror⟩

theorem pinged_notMem_preparations (positions : List Position) (ping : Ping) :
    .pinged ping ∉ preparations positions := by
  intro hmem
  obtain ⟨position, -, hentry⟩ := List.mem_map.mp hmem
  exact nomatch hentry

/-- What follows the preparation of some probes comes after each of them. -/
theorem prepared_before
    {positions : List Position} {rest before after : List Entry} {ping : Ping}
    (hsplit :
      preparations positions ++ rest = before ++ .pinged ping :: after) :
    ∀ position ∈ positions, .prepared position ∈ before := by
  intro position hmem
  rcases append_split hsplit with ⟨more, -, hprepared⟩ | ⟨front, rfl, -⟩
  · have hping : .pinged ping ∈ preparations positions := by
      rw [hprepared]
      simp
    exact absurd hping (pinged_notMem_preparations positions ping)
  · exact List.mem_append_left _ (List.mem_map_of_mem hmem)

end Preparing

/-! ## Stage by stage -/

section Stages

variable {monitor : Monitor σ} {world : World} {signal : ShutdownSignal}
  {sigterm : Option Nat} {fuel : Nat} {reporter : σ}

theorem drive_invalid
    {error : SettingsError} (hinvalid : monitor.timing.validate = .error error) :
    monitor.drive world signal sigterm fuel reporter =
      (.error (.settings error), .initial monitor reporter) := by
  simp [drive, hinvalid]

theorem drive_unprepared
    (hvalid : monitor.timing.Valid) {before rest : List Position}
    {position : Position} {error : ProbeError}
    (hsplit : monitor.positions = before ++ position :: rest)
    (hbefore : ∀ earlier ∈ before, world.init earlier = none)
    (herror : world.init position = some error) :
    monitor.drive world signal sigterm fuel reporter =
      (.error (.probeInit (monitor.probeName position) error),
        { State.initial monitor reporter with
          transcript := (preparations (before ++ [position])).reverse }) := by
  simp only [drive, Timing.validate_eq_ok_iff.mpr hvalid, prepare, hsplit,
    prepareFrom_failed hbefore herror]
  rw [State.initial, List.append_nil]

theorem prepare_all
    (hinit : ∀ position ∈ monitor.positions, world.init position = none) :
    monitor.prepare world (.initial monitor reporter) =
      (.ok (), { State.initial monitor reporter with
        transcript := (preparations monitor.positions).reverse }) := by
  rw [prepare, prepareFrom_all hinit, State.initial, List.append_nil]

theorem started_readied
    (reporter : σ)
    (hinit : ∀ position ∈ monitor.positions, world.init position = none) :
    monitor.start (monitor.prepare world (.initial monitor reporter)).2 =
      (!(monitor.reply reporter).stops, monitor.readied world reporter) := by
  rw [readied, prepare_all hinit]
  rfl

theorem transcript_readied
    (reporter : σ)
    (hinit : ∀ position ∈ monitor.positions, world.init position = none) :
    (monitor.readied world reporter).transcript.reverse =
      preparations monitor.positions ++
        [.told 0 monitor.opening (monitor.reply reporter)] := by
  rw [readied, prepare_all hinit]
  simp only [start, State.ask, State.note, List.reverse_cons,
    List.reverse_reverse]
  rfl

theorem readied_standing
    (reporter : σ)
    (hinit : ∀ position ∈ monitor.positions, world.init position = none) :
    (monitor.readied world reporter).started =
        !(monitor.reply reporter).stops ∧
      (monitor.readied world reporter).closed = false ∧
      (monitor.readied world reporter).now.instant = 0 := by
  rw [readied, prepare_all hinit]
  exact ⟨rfl, rfl, rfl⟩

theorem drive_refused
    (hvalid : monitor.timing.Valid)
    (hinit : ∀ position ∈ monitor.positions, world.init position = none)
    (hreply : monitor.reply reporter = .stop) :
    monitor.drive world signal sigterm fuel reporter =
      (.error (.reporterRefused monitor.name),
        monitor.readied world reporter) := by
  have hstart := started_readied reporter hinit
  rw [prepare_all hinit, hreply] at hstart
  simp only [drive, Timing.validate_eq_ok_iff.mpr hvalid, prepare_all hinit,
    hstart]
  rfl

/-- With the start accepted, what is left of a drive is the run and the
closing. -/
theorem drive_ran
    (hvalid : monitor.timing.Valid)
    (hinit : ∀ position ∈ monitor.positions, world.init position = none)
    (hreply : monitor.reply reporter = .proceed) {exit : Option RunExit}
    {ran : State σ}
    (hrun :
      monitor.run world (signal.stop? 0) fuel (monitor.readied world reporter) =
        (.ok exit, ran)) :
    monitor.drive world signal sigterm fuel reporter =
      match exit with
      | none => (.ok none, ran)
      | some exit =>
          match monitor.closingTime? sigterm exit ran.now with
          | none => (.ok none, ran)
          | some moment =>
              (.ok (some exit), (ran.moveTo moment).close monitor) := by
  have hstart := started_readied reporter hinit
  rw [prepare_all hinit, hreply] at hstart
  obtain ⟨-, -, hnow⟩ := readied_standing reporter hinit
  simp only [drive, Timing.validate_eq_ok_iff.mpr hvalid, prepare_all hinit,
    hstart, Verdict.stops, Bool.not_false, hnow, hrun]
  cases exit with
  | none => rfl
  | some exit => rfl

/-! ## After the start -/

theorem closingTime?_eq (exit : RunExit) (now : Moment) :
    monitor.closingTime? sigterm exit now =
      if monitor.awaitsEnd exit then sigterm.map now.seen else some now := rfl

theorem awaitsEnd_shutdown : monitor.awaitsEnd .shutdown = false :=
  Bool.and_false _

/-- An outside event is not seen before it happens. -/
theorem le_instant_seen (now : Moment) (time : Nat) :
    time ≤ (now.seen time).instant := by
  unfold Moment.seen
  split
  next hpast => exact hpast
  next => exact Nat.le_refl time

/-- A run that is shut down says farewell as the last thing. -/
theorem farewell_of_comesTo
    {entries : List Entry} (hcomes : ComesTo .shutdown entries) :
    ∃ front instant verdict,
      entries = front ++ [.told instant .unregister verdict] ∧
        .unregister ∉ callbacksIn front := by
  obtain ⟨front, last, rfl, hfront, hend⟩ := hcomes
  cases hend with
  | told htold =>
      cases htold
      exact ⟨front, _, _, rfl, hfront.unregister_notMem⟩
  | @cutShort ping instant verdict houtcome =>
      refine ⟨front ++ [.pinged ping], instant, verdict, by simp, ?_⟩
      simpa using hfront.unregister_notMem

theorem driveAccepted_unfinished
    {exit : Option RunExit} {ran : State σ}
    (hrun :
      monitor.run world (signal.stop? 0) fuel (monitor.readied world reporter) =
        (.ok exit, ran))
    (hwaits : ∀ found, exit = some found →
      monitor.awaitsEnd found = true ∧ sigterm = none) :
    monitor.DriveAccepted world signal sigterm fuel reporter (.ok none)
      (ran.since (monitor.readied world reporter)) where
  ok := ⟨none, rfl⟩
  returns := by
    intro found final hfound hsigterm
    have hexit : exit = some found := by
      rw [hrun] at hfound
      exact Except.ok.inj (Prod.mk.inj hfound).1
    obtain ⟨hawaits, hnone⟩ := hwaits found hexit
    exact absurd hnone (hsigterm hawaits)
  ofRun := (run_relays hrun).ofRun
  farewell := nofun
  unfinished := by
    intro _
    apply (run_log hrun).2.unregister_notMem
    rintro rfl
    have hawaits := (hwaits .shutdown rfl).1
    rw [awaitsEnd_shutdown] at hawaits
    exact nomatch hawaits

theorem driveAccepted_closed
    (hopen : (monitor.readied world reporter).closed = false)
    {exit : RunExit} {ran : State σ}
    (hrun :
      monitor.run world (signal.stop? 0) fuel (monitor.readied world reporter) =
        (.ok (some exit), ran))
    {moment : Moment}
    (hclosing : monitor.closingTime? sigterm exit ran.now = some moment) :
    monitor.DriveAccepted world signal sigterm fuel reporter (.ok (some exit))
      (ran.since (monitor.readied world reporter) ++
        (ran.moveTo moment).farewell monitor) where
  ok := ⟨some exit, rfl⟩
  returns := by
    intro found final hfound _
    rw [hrun] at hfound
    exact (Prod.mk.inj hfound).1
  ofRun := by
    refine List.forall_mem_append.mpr ⟨(run_relays hrun).ofRun, ?_⟩
    unfold State.farewell
    split
    next => exact List.forall_mem_nil _
    next => exact List.forall_mem_singleton.mpr rfl
  farewell := by
    intro found hfound
    obtain rfl := Option.some.inj (Except.ok.inj hfound)
    have hclosed := run_closed hrun
    rw [hopen, Bool.false_or] at hclosed
    by_cases hexit : exit = .shutdown
    · subst hexit
      have hdone : (ran.moveTo moment).closed = true :=
        hclosed.trans (decide_eq_true rfl)
      obtain ⟨front, instant, verdict, hentries, hfront⟩ :=
        farewell_of_comesTo ((run_log hrun).2.comesTo hopen)
      refine ⟨front, instant, verdict, ?_, hfront, ?_⟩
      · rw [State.farewell, if_pos hdone, List.append_nil, hentries]
      · rw [awaitsEnd_shutdown]
        exact fun hawaits => absurd hawaits Bool.false_ne_true
    · have hexit : some exit ≠ some .shutdown := by simpa using hexit
      have hstill : (ran.moveTo moment).closed = false :=
        hclosed.trans (decide_eq_false hexit)
      obtain ⟨verdict, hfarewell⟩ := State.farewell_of_open monitor hstill
      refine ⟨_, moment.instant, verdict, congrArg _ hfarewell, ?_, ?_⟩
      · exact (run_log hrun).2.unregister_notMem hexit
      · intro hawaits
        rw [closingTime?_eq, if_pos hawaits, Option.map_eq_some_iff] at hclosing
        obtain ⟨time, hsigterm, rfl⟩ := hclosing
        exact ⟨time, hsigterm, le_instant_seen ran.now time⟩
  unfinished := nofun

theorem drive_accepted
    (signal : ShutdownSignal) (sigterm : Option Nat) (fuel : Nat)
    (hvalid : monitor.timing.Valid)
    (hinit : ∀ position ∈ monitor.positions, world.init position = none)
    (hreply : monitor.reply reporter = .proceed) :
    ∃ rest,
      (monitor.drive world signal sigterm fuel reporter).2.transcript.reverse =
          preparations monitor.positions ++
            .told 0 monitor.opening .proceed :: rest ∧
        monitor.DriveAccepted world signal sigterm fuel reporter
          (monitor.drive world signal sigterm fuel reporter).1 rest := by
  obtain ⟨hstarted, hopen, -⟩ :=
    readied_standing reporter hinit
  have hwritten := transcript_readied reporter hinit
  rw [hreply] at hstarted hwritten
  rcases hrun : monitor.run world (signal.stop? 0) fuel
      (monitor.readied world reporter) with ⟨answer, ran⟩
  obtain ⟨exit, rfl⟩ : ∃ exit, answer = .ok exit := by
    have hstarted : (monitor.readied world reporter).started = true := hstarted
    rw [run, if_pos hstarted] at hrun
    exact ⟨_, (Prod.mk.inj hrun).1.symm⟩
  have htranscript : ran.transcript.reverse =
      preparations monitor.positions ++ .told 0 monitor.opening .proceed ::
        ran.since (monitor.readied world reporter) := by
    rw [(run_relays hrun).transcript]
    simp [hwritten]
  rw [drive_ran hvalid hinit hreply hrun]
  cases exit with
  | none => exact ⟨_, htranscript, driveAccepted_unfinished hrun (by simp)⟩
  | some exit =>
      simp only
      cases hclosing : monitor.closingTime? sigterm exit ran.now with
      | none =>
          refine ⟨_, htranscript, driveAccepted_unfinished hrun ?_⟩
          rintro found hfound
          obtain rfl := Option.some.inj hfound
          rw [closingTime?_eq] at hclosing
          split at hclosing
          next hawaits =>
            exact ⟨hawaits, Option.map_eq_none_iff.mp hclosing⟩
          next => exact absurd hclosing (Option.some_ne_none ran.now)
      | some moment =>
          refine ⟨_, ?_, driveAccepted_closed hopen hrun hclosing⟩
          have hstays := stays_close monitor (ran.moveTo moment)
          rw [hstays.transcript, List.reverse_append, List.reverse_reverse,
            State.moveTo, htranscript]
          simp

end Stages

end Monitor

/-- What a drive returns and what it writes, whatever the monitor, its probes,
its reporter and the signals do. -/
theorem drive_record
    (monitor : Monitor σ) (world : World) (signal : ShutdownSignal)
    (sigterm : Option Nat) (fuel : Nat) (reporter : σ) :
    monitor.DriveRecord world signal sigterm fuel reporter
      (monitor.drive world signal sigterm fuel reporter).1
      (monitor.drive world signal sigterm fuel reporter).2.transcript.reverse
    := by
  constructor
  case order => exact monitor.map_probe?_positions
  case invalid =>
    intro error hinvalid
    rw [Monitor.drive_invalid hinvalid]
    exact ⟨rfl, rfl⟩
  case unprepared =>
    intro hvalid before position rest error hsplit hbefore herror
    rw [Monitor.drive_unprepared hvalid hsplit hbefore herror]
    exact ⟨rfl, List.reverse_reverse _⟩
  case refused =>
    intro hvalid hinit hreply
    rw [Monitor.drive_refused hvalid hinit hreply]
    exact ⟨rfl, hreply ▸ Monitor.transcript_readied reporter hinit⟩
  case accepted =>
    intro hvalid hinit hreply
    exact Monitor.drive_accepted signal sigterm fuel hvalid hinit hreply
  case pinged =>
    intro before ping after hsplit position hmem
    cases hvalidated : monitor.timing.validate with
    | error error =>
        rw [Monitor.drive_invalid hvalidated] at hsplit
        simp [State.initial] at hsplit
    | ok _ =>
        have hvalid := Timing.validate_eq_ok_iff.mp hvalidated
        rcases Monitor.all_init_or_first_failed world monitor.positions with
          hinit | ⟨front, failed, rest, error, hpositions, hfront, herror⟩
        · refine ⟨hinit position hmem, ?_⟩
          cases hreply : monitor.reply reporter with
          | stop =>
              rw [Monitor.drive_refused hvalid hinit hreply,
                Monitor.transcript_readied reporter hinit] at hsplit
              exact Monitor.prepared_before hsplit position hmem
          | proceed =>
              obtain ⟨rest, hwritten, -⟩ :=
                Monitor.drive_accepted signal sigterm fuel hvalid hinit hreply
              rw [hwritten] at hsplit
              exact Monitor.prepared_before hsplit position hmem
        · rw [Monitor.drive_unprepared hvalid hpositions hfront herror,
            List.reverse_reverse] at hsplit
          have hping : .pinged ping ∈
              Monitor.preparations (front ++ [failed]) := by
            rw [hsplit]
            simp
          exact absurd hping (Monitor.pinged_notMem_preparations _ ping)

end HealthMonitor
