import HealthMonitor.Proofs.LogAndRest
import HealthMonitor.StatusPage

/-!
# What the status board shows

A board shows the end of the list of all statuses that were recorded on it, and
the status server records the live results of its monitor and nothing else.  So
the two pages that are served show the end of the list of live results.  The
main statement is `board_record`.
-/

namespace HealthMonitor

variable {σ : Type}

/-! ## Uses of a board -/

/-- What is done with a board through one of its handles. -/
inductive BoardUse where
  /-- Makes one more handle on the same board. -/
  | clone (handle : Nat)
  | record (handle : Nat) (status : Status)
  | last (handle : Nat)
  | events (handle : Nat)
  | get (handle : Nat) (target : String)

inductive BoardAnswer where
  | done
  | last (status : Option Status)
  | events (statuses : List Status)
  | page (reply : PageReply)

/-- One use of a board, through whatever handle: all lead to the same board. -/
def Board.use (board : Board) : BoardUse → BoardAnswer × Board
  | .clone _ => (.done, board)
  | .record _ status => (.done, board.record status)
  | .last _ => (.last board.last, board)
  | .events _ => (.events board.events, board)
  | .get _ target => (.page (board.serve "GET" target), board)

def Board.afterUses (board : Board) (uses : List BoardUse) : Board :=
  uses.foldl (fun board use => (board.use use).2) board

def recordedIn (uses : List BoardUse) : List Status :=
  uses.filterMap fun
    | .record _ status => some status
    | _ => none

/-- The last items of a list, as many as there is room for. -/
def lastUpTo (capacity : Nat) (recorded : List Status) : List Status :=
  recorded.drop (recorded.length - capacity)

/-- The view of a status names each of its fields, and leaves out those that the
status does not have. -/
structure Shows (view : Json) (status : Status) : Prop where
  live : view.child? "live" = some (.bool status.success)
  timestamp :
    view.child? "timestamp" = some (.number (.whole status.timestamp))
  phase : view.child? "phase" = status.phase.map fun phase => .string phase.text
  message : view.child? "message" = some (.string status.message)
  probe : view.child? "probe" = some (.string status.probe)
  exception :
    view.child? "exception" =
      status.thrown.map fun cause => .object [("message", .string cause)]
  /-- The status can be read back from its view. -/
  readBack : Status.ofPageView? view = some status

/-- What a board of some capacity shows when `recorded` was recorded on it. -/
structure BoardShows
    (capacity : Nat) (recorded : List Status) (board : Board) : Prop where
  last : ∀ handle, (board.use (.last handle)).1 = .last recorded.getLast?
  events : ∀ handle,
    (board.use (.events handle)).1 = .events (lastUpTo capacity recorded)
  size : (lastUpTo capacity recorded).length = min capacity recorded.length
  /-- Before the first record, and only then, the page says that nothing is
  live. -/
  unrecorded_iff : ∀ handle target, Board.pathOf target = "/status" →
    ((board.use (.get handle target)).1 =
        .page (.json 500 (.object [("live", .bool false)])) ↔
      recorded = [])
  statusPage : ∀ handle target, Board.pathOf target = "/status" →
    ∀ status, recorded.getLast? = some status →
      ∃ view, (board.use (.get handle target)).1 = .page (.json 200 view) ∧
        Shows view status
  eventsPage : ∀ handle target, Board.pathOf target = "/events" →
    (board.use (.get handle target)).1 =
      .page (.json 200
        (.array ((lastUpTo capacity recorded).map Status.toJson)))
  /-- Both pages end with the same status. -/
  agree : 0 < capacity →
    (lastUpTo capacity recorded).getLast? = recorded.getLast?

/-- The status that a callback reports as a result. -/
def Callback.result? : Callback → Option Status
  | .result _ status => some status
  | _ => none

/-- The results that were reported, the oldest first. -/
def resultsIn (entries : List Entry) : List Status :=
  (callbacksIn entries).filterMap Callback.result?

/-- The board of a status server once it heard what some entries tell. -/
def boardAfter
    (setup : RestSetup) (server : RestReporter) (entries : List Entry) :
    Board :=
  ((RestReporter.reporter setup).hear server (callbacksIn entries)).board

/-- What the board of a status server shows over a run, after the results
`earlier` of the life of the monitor before it. -/
structure RunBoard
    (setup : RestSetup) (capacity : Nat) (earlier : List Status)
    (origin final : State RestReporter) (exit : Option RunExit)
    (entries : List Entry) : Prop where
  shows : ∀ before after, entries = before ++ after →
    BoardShows capacity (earlier ++ resultsIn before)
      (boardAfter setup origin.reporter before)
  heard : final.reporter.board = boardAfter setup origin.reporter entries
  recorded :
    final.reporter.board = origin.reporter.board.recordAll (resultsIn entries)
  unchanged : ∀ before entry after, entries = before ++ entry :: after →
    (entry.callback?.bind Callback.result?) = none →
      boardAfter setup origin.reporter (before ++ [entry]) =
        boardAfter setup origin.reporter before
  beforeLive : ∀ before after, entries = before ++ after →
    .phase .live ∉ callbacksIn before →
      boardAfter setup origin.reporter before = origin.reporter.board
  failed : ∀ status, exit = some (.probeFailed status) →
    final.reporter.board.last = some status

theorem shows_pageView (status : Status) : Shows status.pageView status := by
  obtain ⟨probe, success, message, thrown, timestamp, phase⟩ := status
  constructor
  case live => rfl
  case timestamp => rfl
  case phase => cases phase <;> cases thrown <;> rfl
  case message => cases phase <;> rfl
  case probe => cases phase <;> rfl
  case exception => cases phase <;> cases thrown <;> rfl
  case readBack =>
    have hsign : ¬((timestamp : Int) < 0) :=
      Int.not_lt.mpr (Int.natCast_nonneg timestamp)
    cases phase with
    | none => cases thrown <;> exact if_neg (t := none) hsign
    | some phase =>
        cases phase <;> cases thrown <;> exact if_neg (t := none) hsign

/-! ## A board is the end of what was recorded -/

section Boards

variable {capacity : Nat} {recorded : List Status} {board : Board}

theorem lastUpTo_concat
    (hcapacity : 0 < capacity) (recorded : List Status) (status : Status) :
    lastUpTo capacity (recorded ++ [status]) =
      (if (lastUpTo capacity recorded).length = capacity then
          (lastUpTo capacity recorded).drop 1
        else lastUpTo capacity recorded) ++ [status] := by
  rw [lastUpTo, List.length_append, List.length_singleton,
    List.drop_append_of_le_length (by omega)]
  split
  next hfull =>
    rw [lastUpTo, List.length_drop] at hfull
    have hnext :
        recorded.length + 1 - capacity = recorded.length - capacity + 1 := by
      omega
    rw [lastUpTo, List.drop_drop, hnext]
  next hroom =>
    rw [lastUpTo, List.length_drop] at hroom
    have hnext :
        recorded.length + 1 - capacity = recorded.length - capacity := by
      omega
    rw [lastUpTo, hnext]

/-- The fields of a board on which `recorded` was recorded. -/
structure Board.Holds
    (capacity : Nat) (recorded : List Status) (board : Board) : Prop where
  last : board.last = recorded.getLast?
  events : board.events = lastUpTo capacity recorded
  room : board.capacity = capacity

theorem Board.holds_nil (capacity : Nat) :
    Board.Holds capacity [] { capacity } :=
  ⟨rfl, List.drop_nil.symm, rfl⟩

theorem Board.Holds.record
    (hholds : board.Holds capacity recorded) (status : Status) :
    (board.record status).Holds capacity (recorded ++ [status]) where
  room := (capacity_record board status).trans hholds.room
  last := by rw [last_record, List.getLast?_concat]
  events := by
    unfold Board.record
    rw [hholds.room, hholds.events]
    by_cases hnone : capacity = 0
    · rw [if_pos hnone, hnone]
      simp [lastUpTo]
    · rw [if_neg hnone, lastUpTo_concat (Nat.pos_of_ne_zero hnone)]

theorem Board.Holds.recordAll
    (hholds : board.Holds capacity recorded) (statuses : List Status) :
    (board.recordAll statuses).Holds capacity (recorded ++ statuses) := by
  induction statuses generalizing board recorded with
  | nil => rwa [List.append_nil]
  | cons status statuses ih =>
      rw [List.append_cons]
      exact ih (hholds.record status)

theorem Board.recordAll_append
    (board : Board) (statuses more : List Status) :
    board.recordAll (statuses ++ more) =
      (board.recordAll statuses).recordAll more :=
  List.foldl_append

theorem Board.afterUses_eq (board : Board) (uses : List BoardUse) :
    board.afterUses uses = board.recordAll (recordedIn uses) := by
  induction uses generalizing board with
  | nil => rfl
  | cons use uses ih =>
      cases use with
      | clone handle => exact ih board
      | record handle status => exact ih (board.record status)
      | last handle => exact ih board
      | events handle => exact ih board
      | get handle target => exact ih board

theorem getLast?_lastUpTo
    (hcapacity : 0 < capacity) (recorded : List Status) :
    (lastUpTo capacity recorded).getLast? = recorded.getLast? := by
  rw [lastUpTo, List.getLast?_drop]
  split
  next hnone =>
    have hempty : recorded = [] := List.length_eq_zero_iff.mp (by omega)
    rw [hempty]
    rfl
  next => rfl

theorem Board.serve_status
    {target : String} (htarget : pathOf target = "/status") (board : Board) :
    board.serve "GET" target = board.statusReply := by
  simp [serve, htarget]

theorem Board.serve_events
    {target : String} (htarget : pathOf target = "/events") (board : Board) :
    board.serve "GET" target = board.eventsReply := by
  simp [serve, htarget]

theorem Board.Holds.shows
    (hholds : board.Holds capacity recorded) :
    BoardShows capacity recorded board := by
  constructor
  case last => exact fun _ => congrArg BoardAnswer.last hholds.last
  case events => exact fun _ => congrArg BoardAnswer.events hholds.events
  case size =>
    rw [lastUpTo, List.length_drop]
    omega
  case unrecorded_iff =>
    intro handle target htarget
    simp only [Board.use, Board.serve_status htarget, Board.statusReply,
      hholds.last]
    cases hlast : recorded.getLast? with
    | none => simpa using hlast
    | some status =>
        refine iff_of_false (fun hpage => ?_) ?_
        · exact nomatch congrArg PageReply.code (BoardAnswer.page.inj hpage)
        · rintro rfl
          exact nomatch hlast
  case statusPage =>
    intro handle target htarget status hstatus
    refine ⟨status.pageView, ?_, shows_pageView status⟩
    simp only [Board.use, Board.serve_status htarget, Board.statusReply,
      hholds.last, hstatus]
  case eventsPage =>
    intro handle target htarget
    simp only [Board.use, Board.serve_events htarget, Board.eventsReply,
      hholds.events]
  case agree => exact fun hcapacity => getLast?_lastUpTo hcapacity recorded

end Boards

/-! ## What a status server records -/

section Servers

variable {setup : RestSetup}

theorem RestReporter.board_react (server : RestReporter) (callback : Callback) :
    ((reporter setup).react server callback).2.board =
      server.board.recordAll callback.result?.toList := by
  cases callback with
  | start name description =>
      simp only [reporter, start]
      cases setup.listen <;> rfl
  | unregister =>
      simp only [reporter, stop]
      cases server.server <;> rfl
  | phase stage => rfl
  | booted status => rfl
  | result stage status => rfl
  | heartbeat status => rfl
  | failure status => rfl
  | timedOut stage probe last now => rfl
  | cycle => rfl

theorem RestReporter.board_hear
    (server : RestReporter) (callbacks : List Callback) :
    ((reporter setup).hear server callbacks).board =
      server.board.recordAll (callbacks.filterMap Callback.result?) := by
  induction callbacks generalizing server with
  | nil => rfl
  | cons callback callbacks ih =>
      have hresults :
          (callback :: callbacks).filterMap Callback.result? =
            callback.result?.toList ++
              callbacks.filterMap Callback.result? := by
        rw [List.filterMap_cons]
        cases callback.result? <;> rfl
      rw [hresults, Board.recordAll_append, ← board_react]
      exact ih _

theorem boardAfter_eq (server : RestReporter) (entries : List Entry) :
    boardAfter setup server entries =
      server.board.recordAll (resultsIn entries) :=
  RestReporter.board_hear server (callbacksIn entries)

theorem resultsIn_singleton (entry : Entry) :
    resultsIn [entry] = (entry.callback?.bind Callback.result?).toList := by
  cases entry with
  | told instant callback verdict => cases callback <;> rfl
  | pinged ping => rfl
  | prepared position => rfl
  | beganBootstrap position => rfl
  | endedBootstrap position => rfl

theorem resultsIn_append (entries more : List Entry) :
    resultsIn (entries ++ more) = resultsIn entries ++ resultsIn more := by
  rw [resultsIn, callbacksIn_append, List.filterMap_append]
  rfl

end Servers

/-! ## What a reporter heard in a life -/

/-- All that the reporter knows is what it was told. -/
def Monitor.Hears (monitor : Monitor σ) (reporter : σ) (state : State σ) :
    Prop :=
  state.reporter =
    monitor.reporter.hear reporter (callbacksIn state.transcript.reverse)

namespace Monitor

section Hearing

variable {monitor : Monitor σ} {reporter : σ} {state next : State σ}

theorem Hears.relays
    (hhears : monitor.Hears reporter state) {entries : List Entry}
    (hrelays : Relays monitor state next entries) :
    monitor.Hears reporter next := by
  rw [Hears, hrelays.transcript, List.reverse_append, List.reverse_reverse,
    callbacksIn_append, Reporter.hear_append, ← hhears]
  exact hrelays.reporter

theorem Hears.start
    (hhears : monitor.Hears reporter state) :
    monitor.Hears reporter (monitor.start state).2 := by
  have htold : (monitor.start state).2.transcript.reverse =
      state.transcript.reverse ++
        [.told state.now.instant (.start monitor.name monitor.description)
          (state.verdict monitor
            (.start monitor.name monitor.description))] :=
    List.reverse_cons ..
  rw [Hears, htold, callbacksIn_append, Reporter.hear_append, ← hhears]
  rfl

theorem Hears.prepare
    (hhears : monitor.Hears reporter state) (world : World) (fuel : Nat) :
    monitor.Hears reporter
      (monitor.perform world fuel state .prepare).2 := by
  rw [Hears, perform_prepare_snd,
    prepareFrom_keeps State.reporter fun _ _ => rfl,
    prepareFrom_keeps (fun state => callbacksIn state.transcript.reverse)]
  · exact hhears
  · intro state position
    rw [State.note, List.reverse_cons, callbacksIn_append]
    exact List.append_nil _

theorem Hears.perform
    (hhears : monitor.Hears reporter state) (deed : Deed) :
    monitor.Hears reporter (monitor.performDeed state deed).2 := by
  obtain ⟨operation, world, fuel⟩ := deed
  cases operation with
  | prepare => exact hhears.prepare world fuel
  | start => exact hhears.start
  | run signal =>
      simp only [performDeed, Monitor.perform]
      split
      next exit final hrun => exact hhears.relays (run_relays hrun)
      next error final hrun => rwa [run_refused hrun]
  | close =>
      have hclosing : Relayed monitor state (state.close monitor) :=
        Relayed.refl.close
      obtain ⟨entries, hrelays⟩ := hclosing
      exact hhears.relays hrelays
  | sleep wait => exact hhears

theorem hears_after
    {origin : State σ} (hbuilt : monitor.build? reporter = .ok origin)
    (deeds : List Deed) :
    monitor.Hears reporter (monitor.after origin deeds) := by
  induction deeds using List.reverseRecOn with
  | nil =>
      rw [build?_eq_ok hbuilt]
      rfl
  | append_singleton deeds deed ih =>
      rw [after_concat]
      exact ih.perform deed

end Hearing

end Monitor

/-! ## Results of a run -/

section Results

variable {monitor : Monitor σ} {world : World} {origin : State σ}
  {entries : List Entry}

theorem resultsIn_eq_nil
    (hnone : ∀ callback ∈ callbacksIn entries, callback.isResult = false) :
    resultsIn entries = [] := by
  rw [resultsIn, List.filterMap_eq_nil_iff]
  intro callback hmem
  have hresult := hnone callback hmem
  cases callback with
  | result stage status => exact nomatch hresult
  | _ => rfl

/-- There are no results before live. -/
theorem RunLog.resultsIn_eq_nil
    {exit : Option RunExit} (hlog : RunLog monitor world origin exit entries)
    {before after : List Entry} (hsplit : entries = before ++ after)
    (hlive : .phase .live ∉ callbacksIn before) :
    resultsIn before = [] := by
  rcases hlog.beforeLive_or_living with
    hbefore | ⟨boot, passes, current, log, tail, rfl, hlive', htail⟩
  · apply HealthMonitor.resultsIn_eq_nil
    intro callback hmem
    exact (hbefore.callbacks callback (by simp [hsplit, hmem])).2.2
  · obtain ⟨earlier, pass, hbooted⟩ := hlive'.booted
    obtain ⟨instant, verdict, rfl⟩ := hlive'.written
    apply HealthMonitor.resultsIn_eq_nil
    intro callback hmem
    rw [List.append_assoc, List.append_eq_append_iff] at hsplit
    rcases hsplit with ⟨rest, rfl, hrest⟩ | ⟨rest, rfl, hrest⟩
    · cases rest with
      | nil =>
          have hearly := hbooted.beforeLive.callbacks callback
          exact (hearly (by simpa using hmem)).2.2
      | cons first rest =>
          obtain ⟨rfl, -⟩ := List.cons.inj hrest
          simp at hlive
    · exact (hbooted.beforeLive.callbacks callback (by simp [hmem])).2.2

/-- The failure that ends a run was its last result. -/
theorem RunLog.getLast?_resultsIn
    {status : Status}
    (hlog : RunLog monitor world origin (some (.probeFailed status)) entries) :
    (resultsIn entries).getLast? = some status := by
  cases hlog with
  | waiting hlog hroom hstop => simpa [IsBreak] using hstop.isBreak
  | booting hlog hroom hstop => simpa [IsBreak] using hstop.isBreak
  | living hlog htail =>
      cases htail with
      | stopped hroom hstop => simpa [IsBreak] using hstop.isBreak
      | failed hposition hlive houtcome hsuccess =>
          rw [resultsIn_append]
          exact List.getLast?_concat

end Results

/-! ## The main statement -/

theorem runBoard_run
    {monitor : Monitor RestReporter} {setup : RestSetup}
    (hreporter : monitor.reporter = RestReporter.reporter setup)
    {capacity : Nat} {earlier : List Status} {origin final : State RestReporter}
    (hholds : origin.reporter.board.Holds capacity earlier)
    {world : World} {stop : Option Nat} {fuel : Nat} {exit : Option RunExit}
    (hrun : monitor.run world stop fuel origin = (.ok exit, final)) :
    RunBoard setup capacity earlier origin final exit (final.since origin) := by
  have hlog := (run_log hrun).2
  have hheard : final.reporter.board =
      boardAfter setup origin.reporter (final.since origin) := by
    rw [(run_relays hrun).reporter, hreporter]
    rfl
  have hshown (entries : List Entry) :
      (boardAfter setup origin.reporter entries).Holds capacity
        (earlier ++ resultsIn entries) := by
    rw [boardAfter_eq]
    exact hholds.recordAll _
  constructor
  case shows => exact fun before after _ => (hshown before).shows
  case heard => exact hheard
  case recorded => rw [hheard, boardAfter_eq]
  case unchanged =>
    intro before entry after _ hresult
    rw [boardAfter_eq, boardAfter_eq, resultsIn_append, resultsIn_singleton,
      hresult]
    exact congrArg _ (List.append_nil _)
  case beforeLive =>
    intro before after hsplit hlive
    rw [boardAfter_eq, hlog.resultsIn_eq_nil hsplit hlive]
    rfl
  case failed =>
    rintro status rfl
    rw [hheard, (hshown _).last, List.getLast?_append,
      hlog.getLast?_resultsIn]
    rfl

/-- A board shows the end of what was recorded on it, to whoever looks at it and
whenever.  Over a run under a status server, whatever the life before it, the
server's board shows the end of the list of all results that were reported, and
nothing but a result changes it. -/
theorem board_record (capacity : Nat) :
    (∀ uses : List BoardUse,
      BoardShows capacity (recordedIn uses)
        (Board.afterUses { capacity } uses)) ∧
    ∀ {monitor : Monitor RestReporter} {setup : RestSetup}
      {server : RestReporter} {origin : State RestReporter},
      monitor.reporter = RestReporter.reporter setup →
      server.board = { capacity } →
      monitor.build? server = .ok origin →
      ∀ (deeds : List Monitor.Deed) {world : World} {stop : Option Nat}
        {fuel : Nat} {exit : Option RunExit} {final : State RestReporter},
        monitor.run world stop fuel (monitor.after origin deeds) =
          (.ok exit, final) →
        RunBoard setup capacity
          (resultsIn (monitor.after origin deeds).transcript.reverse)
          (monitor.after origin deeds) final exit
          (final.since (monitor.after origin deeds)) := by
  have hempty := Board.holds_nil capacity
  constructor
  · intro uses
    rw [Board.afterUses_eq]
    exact (hempty.recordAll _).shows
  · intro monitor setup server origin hreporter hboard hbuilt deeds world stop
      fuel exit final hrun
    have hheard := Monitor.hears_after hbuilt deeds
    have hholds : (monitor.after origin deeds).reporter.board.Holds capacity
        (resultsIn (monitor.after origin deeds).transcript.reverse) := by
      rw [hheard, hreporter, RestReporter.board_hear, hboard]
      exact hempty.recordAll _
    exact runBoard_run hreporter hholds hrun

/-! ## An example -/

namespace Sample

/-- A server that keeps two events, ready to run. -/
def shelved : State RestReporter :=
  serving.after (.initial serving { board := { capacity := 2 } }) (opening 9)

/-- The same server once the failed third call has ended its run. -/
def shown : State RestReporter :=
  (serving.run (datedFrom 9) none 40 shelved).2

def gone : Status where
  probe := "http"
  success := false
  message := "gone"
  timestamp := 11
  phase := some .live

end Sample

theorem board_record_sample :
    RunBoard Sample.setup 2 (resultsIn Sample.shelved.transcript.reverse)
        Sample.shelved Sample.shown (some (.probeFailed Sample.gone))
        (Sample.shown.since Sample.shelved) ∧
      Sample.shown.reporter.board.last = some Sample.gone := by
  have hbuilt :
      Sample.serving.build? { board := { capacity := 2 } } =
        .ok (.initial Sample.serving { board := { capacity := 2 } }) := rfl
  have hrun :
      Sample.serving.run (Sample.datedFrom 9) none 40 Sample.shelved =
        (.ok (some (.probeFailed Sample.gone)), Sample.shown) := rfl
  have hboard : RunBoard Sample.setup 2
      (resultsIn Sample.shelved.transcript.reverse) Sample.shelved Sample.shown
      (some (.probeFailed Sample.gone))
      (Sample.shown.since Sample.shelved) :=
    (board_record 2).2 rfl rfl hbuilt (Sample.opening 9) hrun
  exact ⟨hboard, hboard.failed Sample.gone rfl⟩

end HealthMonitor
