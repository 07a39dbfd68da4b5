import HealthMonitor.Proofs.Deadline
import HealthMonitor.Proofs.LiveResults

/-!
# How runs end

A run goes on until something ends it: a verdict to stop it, a time limit, a
shutdown or an abort.  What ends it comes last in its entries, but for the
farewell after a ping that a shutdown cuts short.  So the exit can be read off
the last callback, and an abort off the last ping.
-/

namespace HealthMonitor

variable {σ : Type}

/-- An entry after which a run does not go on. -/
inductive Entry.Ends : Entry → Prop
  | stopped {instant : Nat} {callback : Callback}
      (hasked : callback.isAsked = true) :
      Ends (.told instant callback .stop)
  | limited {instant now : Nat} {phase : Phase} {probe : String}
      {last : Option Status} {verdict : Verdict} (hphase : phase ≠ .live) :
      Ends (.told instant (.timedOut phase probe last now) verdict)
  | unregistered {instant : Nat} {verdict : Verdict} :
      Ends (.told instant .unregister verdict)
  | unanswered {ping : Ping} (hunanswered : ¬ping.Answered) :
      Ends (.pinged ping)

def GoesOn (entries : List Entry) : Prop :=
  ∀ entry ∈ entries, ¬entry.Ends

def Entry.telling? : Entry → Option (Callback × Verdict)
  | told _ callback verdict => some (callback, verdict)
  | _ => none

/-- The last callback and the verdict on it. -/
def lastTold (entries : List Entry) : Option (Callback × Verdict) :=
  (entries.filterMap Entry.telling?).getLast?

/-- The callback with which a run comes to its exit, and the verdict on it.  An
abort is told to nobody. -/
inductive RunExit.ToldBy : RunExit → Callback → Verdict → Prop
  | completed : ToldBy .cycleCompleted .cycle .stop
  | failed {status : Status} :
      ToldBy (.probeFailed status) (.failure status) .stop
  | hung {probe : String} {last : Option Status} {now : Nat} :
      ToldBy (.probeTimedOut .live probe last) (.timedOut .live probe last now)
        .stop
  | limited {phase : Phase} {probe : String} {elapsed now : Nat}
      {last : Option Status} {verdict : Verdict} (hphase : phase ≠ .live) :
      ToldBy (.bootstrapTimedOut phase probe elapsed last)
        (.timedOut phase probe last now) verdict
  | shutDown {verdict : Verdict} : ToldBy .shutdown .unregister verdict

/-- The last entries of a run, which ended it. -/
inductive RunEnd : RunExit → List Entry → Prop
  | told {exit : RunExit} {instant : Nat} {callback : Callback}
      {verdict : Verdict} (htold : exit.ToldBy callback verdict) :
      RunEnd exit [.told instant callback verdict]
  | cutShort {ping : Ping} {instant : Nat} {verdict : Verdict}
      (houtcome : ping.outcome = none) :
      RunEnd .shutdown [.pinged ping, .told instant .unregister verdict]
  | aborted {ping : Ping} {abort : Abort}
      (houtcome : ping.outcome = some (.aborted abort)) :
      RunEnd (.aborted abort) [.pinged ping]

def ComesTo (exit : RunExit) (entries : List Entry) : Prop :=
  ∃ front last, entries = front ++ last ∧ GoesOn front ∧ RunEnd exit last

/-- How the exit of a run shows in its entries. -/
structure ExitRecord (exit : RunExit) (entries : List Entry) : Prop where
  completed_iff :
    exit = .cycleCompleted ↔ lastTold entries = some (.cycle, .stop)
  failed_iff : ∀ status,
    exit = .probeFailed status ↔
      lastTold entries = some (.failure status, .stop)
  hung_iff : ∀ phase probe last,
    exit = .probeTimedOut phase probe last ↔
      phase = .live ∧
        ∃ now, lastTold entries = some (.timedOut .live probe last now, .stop)
  limited_iff : ∀ phase probe last,
    (∃ elapsed, exit = .bootstrapTimedOut phase probe elapsed last) ↔
      phase ≠ .live ∧
        ∃ now verdict,
          lastTold entries = some (.timedOut phase probe last now, verdict)
  elapsed : ∀ phase probe elapsed last,
    exit = .bootstrapTimedOut phase probe elapsed last →
      ∃ entered verdict heard,
        .told entered (.phase phase) verdict ∈ entries ∧
          entries.getLast? =
            some (.told (entered + elapsed)
              (.timedOut phase probe last (entered + elapsed)) heard)
  shutDown_iff :
    exit = .shutdown ↔
      ∃ verdict, lastTold entries = some (.unregister, verdict)
  aborted_iff : ∀ abort,
    exit = .aborted abort ↔
      ∃ ping, (pingsIn entries).getLast? = some ping ∧
        ping.outcome = some (.aborted abort)
  aborted_last : ∀ ping ∈ pingsIn entries, ∀ abort,
    ping.outcome = some (.aborted abort) →
      ∃ front, entries = front ++ [.pinged ping] ∧
        ∀ instant callback verdict,
          .told instant callback verdict ∈ front → instant ≤ ping.started
  proceeded : ∀ before instant callback verdict after,
    entries = before ++ .told instant callback verdict :: after →
      callback.isAsked = true → after ≠ [] → verdict = .proceed
  last : ∀ before entry after, entries = before ++ entry :: after →
    entry.Ends →
      after = [] ∨
        exit = .shutdown ∧ ∃ ping instant verdict,
          entry = .pinged ping ∧ ping.outcome = none ∧
            after = [.told instant .unregister verdict]

/-! ## What goes on -/

theorem not_ends_told
    {instant : Nat} {callback : Callback} {verdict : Verdict}
    (hasked : callback.isAsked = false) (hcallback : callback ≠ .unregister) :
    ¬(Entry.told instant callback verdict).Ends := by
  intro hends
  cases hends with
  | stopped htrue => exact nomatch htrue.symm.trans hasked
  | limited hphase => exact nomatch hasked
  | unregistered => exact hcallback rfl

theorem not_ends_proceeded
    {instant : Nat} {callback : Callback}
    (hcallback : callback ≠ .unregister)
    (hlimit : ∀ phase probe last now,
      callback = .timedOut phase probe last now → phase = .live) :
    ¬(Entry.told instant callback .proceed).Ends := by
  intro hends
  cases hends with
  | limited hphase => exact hphase (hlimit _ _ _ _ rfl)
  | unregistered => exact hcallback rfl

theorem not_ends_pinged
    {ping : Ping} (hanswered : ping.Answered) : ¬(Entry.pinged ping).Ends := by
  intro hends
  cases hends with
  | unanswered hunanswered => exact hunanswered hanswered

theorem goesOn_nil : GoesOn [] :=
  List.forall_mem_nil _

theorem GoesOn.append
    {entries more : List Entry} (hentries : GoesOn entries)
    (hmore : GoesOn more) :
    GoesOn (entries ++ more) :=
  List.forall_mem_append.mpr ⟨hentries, hmore⟩

theorem GoesOn.cons
    {entry : Entry} {entries : List Entry} (hentry : ¬entry.Ends)
    (hentries : GoesOn entries) :
    GoesOn (entry :: entries) :=
  List.forall_mem_cons.mpr ⟨hentry, hentries⟩

theorem goesOn_flatMap
    {α : Type} {items : List α} {write : α → List Entry}
    (hitems : ∀ item ∈ items, GoesOn (write item)) :
    GoesOn (items.flatMap write) := by
  intro entry hmem
  obtain ⟨item, hitem, hentry⟩ := List.mem_flatMap.mp hmem
  exact hitems item hitem entry hentry

/-- Answered pings and callbacks on which nobody has a say end nothing. -/
theorem goesOn_of_unasked
    {entries : List Entry} (hpings : ∀ ping ∈ pingsIn entries, ping.Answered)
    (hcallbacks : ∀ callback ∈ callbacksIn entries,
      callback.isAsked = false ∧ callback ≠ .unregister) :
    GoesOn entries := by
  intro entry hmem
  cases entry with
  | told instant callback verdict =>
      obtain ⟨hasked, hcallback⟩ :=
        hcallbacks callback (List.mem_filterMap.mpr ⟨_, hmem, rfl⟩)
      exact not_ends_told hasked hcallback
  | pinged ping =>
      exact not_ends_pinged (hpings ping (List.mem_filterMap.mpr ⟨_, hmem, rfl⟩))
  | prepared position => exact nofun
  | beganBootstrap position => exact nofun
  | endedBootstrap position => exact nofun

section Logs

variable {monitor : Monitor σ} {world : World} {origin : State σ}
  {entries : List Entry}

theorem sweeps_answered
    {place : Nat → Position} {live : Bool} {count : Nat}
    {passes : List (List Ping)} {current : List Ping}
    (hcomplete : ∀ pass ∈ passes, Sweep place live pass ∧ pass.length = count)
    (hsweep : Sweep place live current) :
    ∀ ping ∈ passes.flatten ++ current, ping.Answered := by
  rw [List.forall_mem_append]
  refine ⟨?_, hsweep.answered⟩
  intro ping hmem
  obtain ⟨pass, hpass, hping⟩ := List.mem_flatten.mp hmem
  exact (hcomplete pass hpass).1.answered ping hping

theorem WaitLog.goesOn
    {passes : List (List Ping)} {current : List Ping}
    (hlog : WaitLog monitor world origin passes current entries) :
    GoesOn entries := by
  apply goesOn_of_unasked
  · rw [hlog.pingsIn_eq]
    exact sweeps_answered hlog.complete hlog.sweep
  · simp [hlog.callbacksIn_eq, Callback.isAsked]

theorem GateLog.goesOn
    (hgate : GateLog monitor world origin entries) : GoesOn entries := by
  cases hgate with
  | skipped hempty => exact goesOn_nil
  | opened hlog hfull hopen => exact hlog.goesOn

theorem goesOn_bootstrapEntries
    (monitor : Monitor σ) (entry : Position → Entry)
    (hentry : ∀ position, ¬(entry position).Ends) :
    GoesOn (monitor.bootstrapEntries entry) := by
  intro other hmem
  obtain ⟨position, -, rfl⟩ := List.mem_map.mp hmem
  exact hentry position

theorem BootLog.goesOn
    {wait : List Entry} {passes : List (List Ping)} {current : List Ping}
    (hlog : BootLog monitor world origin wait passes current entries) :
    GoesOn entries := by
  obtain ⟨instant, verdict, rfl⟩ := hlog.written
  have hpings : GoesOn ((passes.flatten ++ current).map .pinged) := by
    apply goesOn_of_unasked
    · rw [pingsIn_map_pinged]
      exact sweeps_answered hlog.complete hlog.sweep
    · rw [callbacksIn_map_pinged]
      exact List.forall_mem_nil _
  exact hlog.gate.goesOn.append
    (.cons (not_ends_told rfl (by simp))
      ((goesOn_bootstrapEntries monitor .beganBootstrap fun _ => nofun).append
        hpings))

theorem BootedLog.goesOn
    {boot : List Entry} {pass : List Ping}
    (hbooted : BootedLog monitor world origin boot pass entries) :
    GoesOn entries := by
  obtain ⟨wait, passes, hlog⟩ := hbooted.bootstrap
  obtain ⟨booted, rfl, hstatuses⟩ := hbooted.written
  have hreports : GoesOn booted := by
    apply goesOn_of_unasked
    · simp [pingsIn_eq_nil (told_of_booted hstatuses)]
    · simp [callbacksIn_booted hstatuses, Callback.isAsked]
  exact hlog.goesOn.append
    ((goesOn_bootstrapEntries monitor .endedBootstrap fun _ => nofun).append
      hreports)

theorem IsBeat.goesOn
    {beat : List Entry} (hbeat : IsBeat beat) : GoesOn beat := by
  rcases hbeat with rfl | ⟨instant, status, verdict, rfl⟩
  · exact goesOn_nil
  · exact .cons (not_ends_told rfl (by simp)) goesOn_nil

theorem Block.Settled.goesOn
    {block : Block} (hsettled : block.Settled monitor)
    (hanswered : block.ping.Answered) :
    GoesOn block.entries := by
  apply GoesOn.cons (not_ends_pinged hanswered)
  cases hsettled with
  | up houtcome hsuccess hbeat =>
      exact .cons (not_ends_told rfl (by simp)) hbeat.goesOn
  | down houtcome hsuccess hbeat =>
      exact .cons (not_ends_told rfl (by simp))
        (.cons (not_ends_proceeded (by simp) (by simp)) hbeat.goesOn)
  | hung houtcome hbeat =>
      exact .cons (not_ends_proceeded (by simp) (by simp +contextual))
        hbeat.goesOn

theorem goesOn_blocks
    {blocks : List Block} (hsweep : Sweep .primary true (pingsOf blocks))
    (hsettled : ∀ block ∈ blocks, block.Settled monitor) :
    GoesOn (blocks.flatMap Block.entries) := by
  apply goesOn_flatMap
  intro block hmem
  exact (hsettled block hmem).goesOn
    (hsweep.answered _ (List.mem_map_of_mem hmem))

theorem LivePass.Complete.goesOn
    {before : Bool} {pass : LivePass} (hpass : pass.Complete monitor before) :
    GoesOn pass.entries := by
  apply (goesOn_blocks hpass.sweep hpass.settled).append
  rcases hpass.closing_cases with hnone | ⟨instant, hcycle⟩
  · rw [hnone]
    exact goesOn_nil
  · rw [hcycle]
    exact .cons (not_ends_proceeded (by simp) (by simp)) goesOn_nil

theorem LiveLog.goesOn
    {boot : List Entry} {passes : List LivePass} {current : List Block}
    (hlog : LiveLog monitor world origin boot passes current entries) :
    GoesOn entries := by
  obtain ⟨before, pass, hbooted⟩ := hlog.booted
  obtain ⟨instant, verdict, rfl⟩ := hlog.written
  have hpasses : GoesOn (passes.flatMap LivePass.entries) := by
    apply goesOn_flatMap
    intro pass hmem
    obtain ⟨clean, hcomplete⟩ := hlog.complete_of_mem hmem
    exact hcomplete.goesOn
  exact hbooted.goesOn.append
    (.cons (not_ends_told rfl (by simp))
      (hpasses.append (goesOn_blocks hlog.sweep hlog.settled)))

/-! ## What ends a run -/

theorem IsFarewell.runEnd
    (hopen : origin.closed = false) {tail : List Entry}
    (htail : IsFarewell origin tail) :
    ∃ instant verdict, tail = [.told instant .unregister verdict] := by
  rwa [IsFarewell, if_neg (by simp [hopen])] at htail

theorem Interrupted.runEnd
    (hopen : origin.closed = false) {position : Position} {live : Bool}
    {exit : RunExit} {tail : List Entry}
    (hstop : Interrupted origin position live (some exit) tail) :
    RunEnd exit tail := by
  cases hstop with
  | shutDown htail =>
      obtain ⟨instant, verdict, rfl⟩ := htail.runEnd hopen
      exact .told .shutDown
  | cutShort hposition hlive houtcome htail =>
      obtain ⟨instant, verdict, rfl⟩ := htail.runEnd hopen
      exact .cutShort houtcome
  | aborted hposition hlive houtcome => exact .aborted houtcome

theorem LiveTail.comesTo
    (hopen : origin.closed = false) {passes : List LivePass}
    {current : List Block} {log tail : List Entry} {exit : RunExit}
    (hlog : GoesOn log)
    (htail : LiveTail monitor origin passes current (some exit) tail) :
    ComesTo exit (log ++ tail) := by
  cases htail with
  | stopped hroom hstop => exact ⟨log, tail, rfl, hlog, hstop.runEnd hopen⟩
  | @failed ping status instant verdict hposition hlive houtcome hsuccess =>
      have hping : ping.Answered := .inl ⟨status, houtcome⟩
      refine ⟨log ++ [.pinged ping,
          .told instant (.result .live (status.inPhase .live)) verdict],
        [.told instant (.failure (status.inPhase .live)) .stop], by simp, ?_,
        .told .failed⟩
      exact hlog.append (.cons (not_ends_pinged hping)
        (.cons (not_ends_told rfl (by simp)) goesOn_nil))
  | @hung ping last instant hposition hlive houtcome =>
      have hping : ping.Answered := .inr houtcome
      refine ⟨log ++ [.pinged ping], [.told instant
          (.timedOut .live (monitor.probeName ping.position) last instant)
            .stop], by simp, ?_, .told .hung⟩
      exact hlog.append (.cons (not_ends_pinged hping) goesOn_nil)
  | completed hfull hclean hbefore =>
      exact ⟨log, _, rfl, hlog, .told .completed⟩

theorem RunLog.comesTo
    (hopen : origin.closed = false) {exit : RunExit}
    (hlog : RunLog monitor world origin (some exit) entries) :
    ComesTo exit entries := by
  cases hlog with
  | waiting hlog hroom hstop =>
      exact ⟨_, _, rfl, hlog.goesOn, hstop.runEnd hopen⟩
  | waitTimedOut hlog hfull hblocked =>
      exact ⟨_, _, rfl, hlog.goesOn, .told (.limited (by simp))⟩
  | booting hlog hroom hstop =>
      exact ⟨_, _, rfl, hlog.goesOn, hstop.runEnd hopen⟩
  | bootTimedOut hlog hfull hblocked =>
      exact ⟨_, _, rfl, hlog.goesOn, .told (.limited (by simp))⟩
  | living hlog htail => exact htail.comesTo hopen hlog.goesOn

end Logs

/-! ## Reading the exit -/

@[simp] theorem lastTold_concat_told
    (entries : List Entry) (instant : Nat) (callback : Callback)
    (verdict : Verdict) :
    lastTold (entries ++ [.told instant callback verdict]) =
      some (callback, verdict) := by
  simp [lastTold, Entry.telling?]

@[simp] theorem lastTold_concat_pinged (entries : List Entry) (ping : Ping) :
    lastTold (entries ++ [.pinged ping]) = lastTold entries := by
  simp [lastTold, Entry.telling?]

theorem mem_of_lastTold
    {entries : List Entry} {callback : Callback} {verdict : Verdict}
    (hlast : lastTold entries = some (callback, verdict)) :
    ∃ instant, .told instant callback verdict ∈ entries := by
  obtain ⟨entry, hmem, htold⟩ :=
    List.mem_filterMap.mp (List.mem_of_getLast? hlast)
  cases entry with
  | told instant other heard =>
      obtain ⟨rfl, rfl⟩ := Prod.mk.inj (Option.some.inj htold)
      exact ⟨instant, hmem⟩
  | pinged ping => exact nomatch htold
  | prepared position => exact nomatch htold
  | beganBootstrap position => exact nomatch htold
  | endedBootstrap position => exact nomatch htold

theorem RunExit.ToldBy.ends
    {exit : RunExit} {callback : Callback} {verdict : Verdict}
    (htold : exit.ToldBy callback verdict) (instant : Nat) :
    (Entry.told instant callback verdict).Ends := by
  cases htold with
  | completed => exact .stopped rfl
  | failed => exact .stopped rfl
  | hung => exact .stopped rfl
  | limited hphase => exact .limited hphase
  | shutDown => exact .unregistered

namespace ComesTo

variable {exit other : RunExit} {entries : List Entry} {callback : Callback}
  {verdict : Verdict}

theorem exists_told
    (hcomes : ComesTo exit entries) (hexit : ∀ abort, exit ≠ .aborted abort) :
    ∃ callback verdict,
      lastTold entries = some (callback, verdict) ∧
        exit.ToldBy callback verdict := by
  obtain ⟨front, last, rfl, -, hend⟩ := hcomes
  cases hend with
  | told htold => exact ⟨_, _, lastTold_concat_told _ _ _ _, htold⟩
  | @cutShort ping instant verdict houtcome =>
      refine ⟨.unregister, verdict, ?_, .shutDown⟩
      rw [List.append_cons, lastTold_concat_told]
  | aborted houtcome => exact absurd rfl (hexit _)

/-- A last callback that could have ended the run did end it. -/
theorem toldBy
    (hcomes : ComesTo exit entries) (hother : other.ToldBy callback verdict)
    (hlast : lastTold entries = some (callback, verdict)) :
    exit.ToldBy callback verdict := by
  by_cases haborted : ∃ abort, exit = .aborted abort
  · obtain ⟨abort, rfl⟩ := haborted
    obtain ⟨front, last, rfl, hfront, hend⟩ := hcomes
    cases hend with
    | told htold => exact nomatch htold
    | aborted houtcome =>
        -- The last callback is in front of the ping, where nothing ends the run.
        rw [lastTold_concat_pinged] at hlast
        obtain ⟨instant, hmem⟩ := mem_of_lastTold hlast
        exact absurd (hother.ends instant) (hfront _ hmem)
  · obtain ⟨found, heard, hfound, htold⟩ :=
      hcomes.exists_told fun abort heq => haborted ⟨abort, heq⟩
    obtain ⟨rfl, rfl⟩ := Prod.mk.inj (Option.some.inj (hfound.symm.trans hlast))
    exact htold

theorem outcome_ne_aborted
    {front : List Entry} (hfront : GoesOn front) {ping : Ping}
    (hmem : ping ∈ pingsIn front) (abort : Abort) :
    ping.outcome ≠ some (.aborted abort) := by
  intro houtcome
  obtain ⟨entry, hentry, hping⟩ := List.mem_filterMap.mp hmem
  obtain rfl := Entry.eq_pinged hping
  exact hfront _ hentry (.unanswered (Ping.not_answered_of_aborted houtcome))

/-- A ping that aborts is the last entry of its run. -/
theorem of_aborted
    (hcomes : ComesTo exit entries) {ping : Ping}
    (hmem : ping ∈ pingsIn entries) {abort : Abort}
    (houtcome : ping.outcome = some (.aborted abort)) :
    exit = .aborted abort ∧
      ∃ front, entries = front ++ [.pinged ping] ∧ GoesOn front := by
  obtain ⟨front, last, rfl, hfront, hend⟩ := hcomes
  rw [pingsIn_append, List.mem_append] at hmem
  rcases hmem with hearlier | hlast
  · exact absurd houtcome (outcome_ne_aborted hfront hearlier abort)
  · cases hend with
    | told htold => simp at hlast
    | cutShort hnone =>
        simp only [pingsIn_pinged_cons, pingsIn_told_cons, pingsIn_nil,
          List.mem_singleton] at hlast
        subst hlast
        exact nomatch hnone.symm.trans houtcome
    | aborted hfound =>
        simp only [pingsIn_pinged_cons, pingsIn_nil, List.mem_singleton]
          at hlast
        subst hlast
        obtain rfl :=
          PingOutcome.aborted.inj (Option.some.inj (hfound.symm.trans houtcome))
        exact ⟨rfl, front, rfl, hfront⟩

theorem last_of_ends
    (hcomes : ComesTo exit entries) {before after : List Entry} {entry : Entry}
    (hsplit : entries = before ++ entry :: after) (hends : entry.Ends) :
    after = [] ∨
      exit = .shutdown ∧ ∃ ping instant verdict,
        entry = .pinged ping ∧ ping.outcome = none ∧
          after = [.told instant .unregister verdict] := by
  obtain ⟨front, last, rfl, hfront, hend⟩ := hcomes
  cases hend with
  | told htold =>
      rcases concat_split hsplit with ⟨hnone, -⟩ | ⟨rest, -, rfl⟩
      · exact .inl hnone
      · exact absurd hends (hfront entry (by simp))
  | @cutShort ping instant verdict houtcome =>
      -- Here two entries end the run: the ping and the farewell after it.
      rw [List.append_cons] at hsplit
      rcases concat_split hsplit with ⟨hnone, -⟩ | ⟨rest, rfl, hrest⟩
      · exact .inl hnone
      · rcases concat_split hrest with ⟨rfl, -, rfl⟩ | ⟨more, -, rfl⟩
        · exact .inr ⟨rfl, ping, instant, verdict, rfl, houtcome, rfl⟩
        · exact absurd hends (hfront entry (by simp))
  | aborted houtcome =>
      rcases concat_split hsplit with ⟨hnone, -⟩ | ⟨rest, -, rfl⟩
      · exact .inl hnone
      · exact absurd hends (hfront entry (by simp))

theorem completed_iff
    (hcomes : ComesTo exit entries) :
    exit = .cycleCompleted ↔ lastTold entries = some (.cycle, .stop) := by
  constructor
  · rintro rfl
    obtain ⟨callback, verdict, hlast, htold⟩ :=
      hcomes.exists_told (by simp)
    cases htold
    exact hlast
  · intro hlast
    cases hcomes.toldBy .completed hlast
    rfl

theorem failed_iff
    (hcomes : ComesTo exit entries) (status : Status) :
    exit = .probeFailed status ↔
      lastTold entries = some (.failure status, .stop) := by
  constructor
  · rintro rfl
    obtain ⟨callback, verdict, hlast, htold⟩ :=
      hcomes.exists_told (by simp)
    cases htold
    exact hlast
  · intro hlast
    cases hcomes.toldBy .failed hlast
    rfl

theorem hung_iff
    (hcomes : ComesTo exit entries) (phase : Phase) (probe : String)
    (last : Option Status) :
    exit = .probeTimedOut phase probe last ↔
      phase = .live ∧
        ∃ now,
          lastTold entries = some (.timedOut .live probe last now, .stop) := by
  constructor
  · rintro rfl
    obtain ⟨callback, verdict, hlast, htold⟩ :=
      hcomes.exists_told (by simp)
    cases htold
    exact ⟨rfl, _, hlast⟩
  · rintro ⟨rfl, now, hlast⟩
    cases hcomes.toldBy .hung hlast with
    | hung => rfl
    | limited hphase => exact absurd rfl hphase

theorem limited_iff
    (hcomes : ComesTo exit entries) (phase : Phase) (probe : String)
    (last : Option Status) :
    (∃ elapsed, exit = .bootstrapTimedOut phase probe elapsed last) ↔
      phase ≠ .live ∧
        ∃ now verdict,
          lastTold entries =
            some (.timedOut phase probe last now, verdict) := by
  constructor
  · rintro ⟨elapsed, rfl⟩
    obtain ⟨callback, verdict, hlast, htold⟩ :=
      hcomes.exists_told (by simp)
    cases htold with
    | limited hphase => exact ⟨hphase, _, verdict, hlast⟩
  · rintro ⟨hphase, now, verdict, hlast⟩
    have hlimited :
        (RunExit.bootstrapTimedOut phase probe 0 last).ToldBy
          (.timedOut phase probe last now) verdict :=
      .limited hphase
    cases hcomes.toldBy hlimited hlast with
    | hung => exact absurd rfl hphase
    | limited hother => exact ⟨_, rfl⟩

theorem shutDown_iff
    (hcomes : ComesTo exit entries) :
    exit = .shutdown ↔
      ∃ verdict, lastTold entries = some (.unregister, verdict) := by
  constructor
  · rintro rfl
    obtain ⟨callback, verdict, hlast, htold⟩ :=
      hcomes.exists_told (by simp)
    cases htold
    exact ⟨verdict, hlast⟩
  · rintro ⟨verdict, hlast⟩
    cases hcomes.toldBy .shutDown hlast
    rfl

theorem aborted_iff
    (hcomes : ComesTo exit entries) (abort : Abort) :
    exit = .aborted abort ↔
      ∃ ping, (pingsIn entries).getLast? = some ping ∧
        ping.outcome = some (.aborted abort) := by
  constructor
  · rintro rfl
    obtain ⟨front, last, rfl, -, hend⟩ := hcomes
    cases hend with
    | told htold => exact nomatch htold
    | @aborted ping _ houtcome => exact ⟨ping, by simp, houtcome⟩
  · rintro ⟨ping, hlast, houtcome⟩
    exact (hcomes.of_aborted (List.mem_of_getLast? hlast) houtcome).1

end ComesTo

section Runs

variable {monitor : Monitor σ} {world : World} {origin : State σ}
  {entries : List Entry}

theorem RunLog.elapsed_eq
    {exit : Option RunExit} (hlog : RunLog monitor world origin exit entries)
    (hreachable : monitor.Reachable origin) {fuel : Nat}
    (htimed : RunTimed monitor origin fuel exit entries) {phase : Phase}
    {probe : String} {elapsed : Nat} {last : Option Status}
    (hexit : exit = some (.bootstrapTimedOut phase probe elapsed last)) :
    ∃ entered verdict heard,
      .told entered (.phase phase) verdict ∈ entries ∧
        entries.getLast? =
          some (.told (entered + elapsed)
            (.timedOut phase probe last (entered + elapsed)) heard) := by
  obtain ⟨hphase, hmem⟩ := hlog.exits_in_phase hexit
  obtain ⟨before, entered, verdict, passes, cut, after, hwritten, hplan⟩ :=
    hlog.hasPhase hreachable hphase hmem
  obtain ⟨-, limit, hlimit, -⟩ := htimed.limit _ hexit _ _ _ _ rfl
  have hpaced := htimed.timeline.paced hreachable hwritten hplan.pings hphase
    (hplan.phase_eq hphase)
  obtain ⟨-, -, -, -, -, -, found, status, heard, hfound, rfl⟩ :=
    hplan.endsAtLimit hwritten hpaced hlimit htimed hexit
  obtain ⟨-, rfl, -, rfl⟩ :=
    RunExit.bootstrapTimedOut.inj (Option.some.inj (hexit.symm.trans hfound))
  refine ⟨entered, verdict, heard, ?_, ?_⟩
  · rw [hwritten]
    simp [Monitor.phaseEntries]
  · rw [hwritten, ← List.append_assoc, List.getLast?_concat]

/-- Without primaries no ping aborts once there was a completed cycle. -/
theorem RunLog.primaries_of_cycle
    {abort : Abort} {timeout : Nat}
    (hlog : RunLog monitor world origin (some (.aborted abort)) entries)
    (hfaithful : ∀ ping ∈ pingsIn entries,
      ping.Faithful monitor world timeout)
    (hcycle : .cycle ∈ callbacksIn entries) :
    monitor.primaries ≠ [] := by
  rcases hlog.beforeLive_or_living with
    hbefore | ⟨boot, passes, current, log, tail, rfl, -, htail⟩
  · exact absurd hcycle hbefore.cycle_notMem
  · cases htail with
    | stopped hroom hstop =>
        cases hstop with
        | @aborted ping _ hposition hlive houtcome =>
            have hlt := (hfaithful ping (by simp)).lt_primaries hposition
            exact List.ne_nil_of_length_pos (Nat.zero_lt_of_lt hlt)

/-- The exit of a run is told by its last callback, or in the case of an abort
by its last ping, and nothing but the farewell of a shutdown comes after what
ended the run. -/
theorem run_exitRecord
    {stop : Option Nat} {fuel : Nat} {final : State σ} {exit : RunExit}
    (hfresh : monitor.Fresh origin)
    (hrun : monitor.run world stop fuel origin = (.ok (some exit), final)) :
    ExitRecord exit (final.since origin) := by
  obtain ⟨hcontinues, hlog⟩ := run_log hrun
  have htimed := run_timed hrun
  have hcomes := hlog.comesTo hfresh.closed
  constructor
  case completed_iff => exact hcomes.completed_iff
  case failed_iff => exact hcomes.failed_iff
  case hung_iff => exact hcomes.hung_iff
  case limited_iff => exact hcomes.limited_iff
  case elapsed =>
    intro phase probe elapsed last hexit
    exact hlog.elapsed_eq hfresh.reachable htimed (congrArg some hexit)
  case shutDown_iff => exact hcomes.shutDown_iff
  case aborted_iff => exact hcomes.aborted_iff
  case aborted_last =>
    intro ping hmem abort houtcome
    obtain ⟨rfl, front, hwritten, hfront⟩ := hcomes.of_aborted hmem houtcome
    refine ⟨front, hwritten, ?_⟩
    intro instant callback verdict htold
    have htimeline := htimed.timeline
    rw [hwritten] at htimeline
    apply htimeline.told_le_started htold
    · rintro rfl
      exact hfront _ htold .unregistered
    · rintro rfl
      apply hlog.primaries_of_cycle hcontinues.faithful
      rw [hwritten, callbacksIn_append]
      exact List.mem_append_left _ (List.mem_filterMap.mpr ⟨_, htold, rfl⟩)
  case proceeded =>
    intro before instant callback verdict after hsplit hasked hmore
    cases verdict with
    | proceed => rfl
    | stop =>
        rcases hcomes.last_of_ends hsplit (.stopped hasked) with
          hnone | ⟨-, ping, heard, other, hping, -⟩
        · exact absurd hnone hmore
        · exact nomatch hping
  case last =>
    intro before entry after hsplit hends
    exact hcomes.last_of_ends hsplit hends

end Runs

theorem run_exitRecord_sample :
    ExitRecord .shutdown (Sample.final.since Sample.started) :=
  run_exitRecord Sample.fresh Sample.run_eq

end HealthMonitor
