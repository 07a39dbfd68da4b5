import HealthMonitor.Proofs.CompletedCycles
import HealthMonitor.Proofs.DependencyGate
import HealthMonitor.Proofs.Heartbeats
import HealthMonitor.Proofs.RunExits
import Mathlib.Data.List.Nodup

/-!
# Reports of timeouts

The report of a timeout names a probe and tells the last status that came in
from its position, whichever phase that was in.  In live the position is that of
the ping that hung; at the end of an earlier phase it is the first one that held
up the last pass.  The main statement is `run_timeoutRecord`.
-/

namespace HealthMonitor

variable {σ : Type}

/-! ## The last status of a position -/

/-- The status that a ping of `position` brought in, if it did, marked with the
phase of the ping. -/
def Ping.statusAt? (position : Position) (ping : Ping) : Option Status :=
  if ping.position = position then
    ping.status?.map (·.inPhase ping.phase)
  else none

/-- What is remembered of a position after some pings: the status of the last of
its pings that came in, and nothing as long as none of them did. -/
structure IsLastOf
    (position : Position) (pings : List Ping) (last : Option Status) :
    Prop where
  latest : last = lastOf? (Ping.statusAt? position) pings
  absent : last = none ↔
    ∀ ping ∈ pings, ping.position = position → ping.status? = none

section LastStatus

variable {monitor : Monitor σ} {world : World} {origin state : State σ}
  {position : Position} {ping : Ping} {place : Nat → Position} {live : Bool}
  {entries : List Entry} {pings pass : List Ping}

theorem Ping.statusAt?_self (ping : Ping) :
    ping.statusAt? ping.position = ping.status?.map (·.inPhase ping.phase) :=
  if_pos rfl

theorem Ping.statusAt?_eq_none_iff :
    ping.statusAt? position = none ↔
      (ping.position = position → ping.status? = none) := by
  unfold statusAt?
  by_cases hposition : ping.position = position
  · simp [hposition]
  · simp [hposition]

theorem isLastOf_lastOf? (position : Position) (pings : List Ping) :
    IsLastOf position pings (lastOf? (Ping.statusAt? position) pings) where
  latest := rfl
  absent := by simp only [lastOf?_eq_none_iff, Ping.statusAt?_eq_none_iff]

theorem Slot.last_absorbAll (pings : List Ping) (slot : Slot) :
    (slot.absorbAll monitor world position pings).last =
      (lastOf? (Ping.statusAt? position) pings).or slot.last := by
  induction pings generalizing slot with
  | nil => rfl
  | cons ping pings ih =>
      rw [← List.singleton_append, absorbAll_append, ih, lastOf?_append,
        lastOf?_singleton, Option.or_assoc]
      by_cases hposition : ping.position = position
      · rw [absorbAll_singleton_self hposition, Ping.statusAt?,
          if_pos hposition]
        rfl
      · rw [absorbAll_of_forall_ne (by simpa using hposition), Ping.statusAt?,
          if_neg hposition]
        rfl

theorem Continues.lastStatus_eq
    (hcontinues : Continues monitor world origin state entries)
    (hfresh : monitor.Fresh origin) {probe : Probe}
    (hprobe : monitor.probe? position = some probe) :
    state.lastStatus position =
      lastOf? (Ping.statusAt? position) (pingsIn entries) := by
  rw [State.lastStatus, hcontinues.slot?, hfresh.slot?, hprobe]
  simp [Slot.last_absorbAll]

/-- In a sweep no two pings are of one position. -/
theorem Sweep.position_ne
    (hsweep : Sweep place live pass) (hplace : Function.Injective place)
    {front back : List Ping} (hsplit : pass = front ++ ping :: back) :
    ∀ other ∈ front ++ back, other.position ≠ ping.position := by
  have hnodup : (pass.map (·.position)).Nodup := by
    rw [hsweep.positions]
    exact List.nodup_range.map hplace
  rw [hsplit, List.map_append, List.map_cons, List.nodup_middle,
    List.nodup_cons, ← List.map_append] at hnodup
  intro other hmem heq
  exact hnodup.1 (List.mem_map.mpr ⟨other, hmem, heq⟩)

theorem Sweep.lastOf?_eq
    (hsweep : Sweep place live pass) (hplace : Function.Injective place)
    (hmem : ping ∈ pass) :
    lastOf? (Ping.statusAt? ping.position) pass =
      ping.status?.map (·.inPhase ping.phase) := by
  obtain ⟨front, back, hsplit⟩ := List.append_of_mem hmem
  have hother := hsweep.position_ne hplace hsplit
  have hnone : ∀ others : List Ping, others ⊆ front ++ back →
      lastOf? (Ping.statusAt? ping.position) others = none := by
    intro others hsubset
    rw [lastOf?_eq_none_iff]
    exact fun other hmem => if_neg (hother other (hsubset hmem))
  rw [hsplit, List.append_cons, lastOf?_append, lastOf?_append,
    lastOf?_singleton, Ping.statusAt?_self,
    hnone back (List.subset_append_right _ _),
    hnone front (List.subset_append_left _ _)]
  simp

end LastStatus

/-! ## What a report says -/

/-- Whether a ping of a phase before live lets its pass through: a primary has
to be up and a dependency to be satisfied, given the pings of the passes before. -/
def Monitor.IsCleared
    (monitor : Monitor σ) (world : World) (phase : Phase)
    (earlier : List Ping) (ping : Ping) : Prop :=
  match phase with
  | .dependencyWait => monitor.Satisfies world earlier ping
  | _ => ping.succeeded = true

/-- What is reported of a live ping that hung, the last of `pings`. -/
structure HungReport
    (monitor : Monitor σ) (pings : List Ping) (probe : String)
    (last : Option Status) (ping : Ping) : Prop where
  latest : pings.getLast? = some ping
  live : ping.live = true
  hung : ping.outcome = some .timedOut
  named : probe = monitor.probeName ping.position
  tells : IsLastOf ping.position pings last
  present : last ≠ none
  /-- As long as no live ping of the position came in, its status is from the
  clean pass before live. -/
  opening : ∃ earlier opening later,
    pings = earlier ++ opening ++ later ∧ Sweep .primary false opening ∧
      opening.length = monitor.primaries.length ∧ AllSucceeded opening ∧
      (∀ other ∈ later, other.live = true) ∧
      ((∀ other ∈ later, other.position = ping.position →
          other.status? = none) →
        ∃ opener ∈ opening, opener.position = ping.position ∧
          last = opener.status?.map (·.inPhase .bootstrap))

/-- What is reported when a phase before live has used up its time with `pass`:
the first ping of it that was not cleared. -/
structure LimitReport
    (monitor : Monitor σ) (world : World) (phase : Phase)
    (earlier pass : List Ping) (probe : String) (last : Option Status)
    (ping : Ping) : Prop where
  sweep : Sweep phase.place false pass
  full : pass.length = monitor.countIn phase
  first : ∃ front back, pass = front ++ ping :: back ∧
    ∀ other ∈ front, monitor.IsCleared world phase earlier other
  blocking : ¬monitor.IsCleared world phase earlier ping
  named : probe = monitor.probeName ping.position
  tells : IsLastOf ping.position (earlier ++ pass) last
  /-- A ping that hung leaves the status that the passes before it brought in. -/
  hung : ping.outcome = some .timedOut → IsLastOf ping.position earlier last

/-- What an entry tells of a timeout, if it tells of one, is right after
`before`. -/
def Entry.TellsTimeout
    (monitor : Monitor σ) (world : World) (before : List Entry) :
    Entry → Prop
  | told _ (.timedOut phase probe last _) _ =>
      if phase = .live then
        ∃ ping, HungReport monitor (pingsIn before) probe last ping
      else
        ∃ earlier pass ping,
          pingsIn before = earlier ++ pass ∧
            LimitReport monitor world phase earlier pass probe last ping
  | _ => True

def TellsTimeouts
    (monitor : Monitor σ) (world : World) (entries : List Entry) : Prop :=
  ∀ before entry after, entries = before ++ entry :: after →
    entry.TellsTimeout monitor world before

def Entry.isTimeout : Entry → Bool
  | told _ (.timedOut ..) _ => true
  | _ => false

section Telling

variable {monitor : Monitor σ} {world : World} {origin state learned : State σ}
  {other : State σ} {blocker : Option Position} {entries more : List Entry}

theorem Entry.tellsTimeout_of_isTimeout
    {entry : Entry} (hquiet : entry.isTimeout = false) (before : List Entry) :
    entry.TellsTimeout monitor world before := by
  cases entry with
  | told instant callback verdict =>
      cases callback with
      | timedOut phase probe last now => exact nomatch hquiet
      | _ => trivial
  | _ => trivial

theorem TellsTimeouts.append_quiet
    (htells : TellsTimeouts monitor world entries)
    (hquiet : ∀ entry ∈ more, entry.isTimeout = false) :
    TellsTimeouts monitor world (entries ++ more) := by
  apply forall_split_append htells
  intro before entry after hsplit
  exact Entry.tellsTimeout_of_isTimeout (hquiet entry (by simp [hsplit])) _

theorem Callback.IsNews.isTimeout_eq
    {callback : Callback} (hnews : callback.isNews = true) (instant : Nat)
    (verdict : Verdict) :
    (Entry.told instant callback verdict).isTimeout = false := by
  cases callback with
  | timedOut phase probe last now => exact nomatch hnews
  | _ => rfl

theorem Advances.isTimeout_eq
    (hadvances : Advances monitor none state other more) :
    ∀ entry ∈ more, entry.isTimeout = false := by
  intro entry hmem
  have hnews := hadvances.news entry hmem
  cases entry with
  | told instant callback verdict =>
      obtain ⟨-, hcallback | ⟨position, hnone, -⟩⟩ := hnews
      · exact Callback.IsNews.isTimeout_eq hcallback instant verdict
      · exact nomatch hnone
  | _ => rfl

/-- On the way to the next wait the only timeout that is told is that of the
phase, for the position that holds the run up. -/
theorem TellsTimeouts.advances
    (htells : TellsTimeouts monitor world entries)
    (hadvances : Advances monitor blocker learned other more)
    (hphase : learned.phase ≠ .live)
    (hreport : ∀ position, blocker = some position →
      ∃ earlier pass ping, pingsIn entries = earlier ++ pass ∧
        LimitReport monitor world learned.phase earlier pass
          (monitor.probeName position) (learned.lastStatus position) ping) :
    TellsTimeouts monitor world (entries ++ more) := by
  apply forall_split_append htells
  intro before entry after hsplit
  have hnews := hadvances.news entry (by simp [hsplit])
  have hpings : pingsIn (entries ++ before) = pingsIn entries := by
    have hquiet := hadvances.pingsIn_eq
    rw [hsplit, pingsIn_append, List.append_eq_nil_iff] at hquiet
    rw [pingsIn_append, hquiet.1, List.append_nil]
  cases entry with
  | told instant callback verdict =>
      obtain ⟨-, hcallback | ⟨position, hblocker, rfl⟩⟩ := hnews
      · exact Entry.tellsTimeout_of_isTimeout
          (Callback.IsNews.isTimeout_eq hcallback instant verdict) _
      · simp only [State.limitReport, Entry.TellsTimeout, if_neg hphase, hpings]
        exact hreport position hblocker
  | pinged ping => trivial
  | prepared position => trivial
  | beganBootstrap position => trivial
  | endedBootstrap position => trivial

theorem Phase.place_injective (phase : Phase) :
    Function.Injective phase.place := by
  cases phase with
  | dependencyWait => exact fun _ _ heq => Position.dependency.inj heq
  | bootstrap => exact fun _ _ heq => Position.primary.inj heq
  | live => exact fun _ _ heq => Position.primary.inj heq

theorem findIdx?_split
    {α : Type} {found : α → Bool} {items : List α} {index : Nat}
    (hindex : items.findIdx? found = some index) :
    ∃ front item back,
      items = front ++ item :: back ∧ front.length = index ∧
        found item = true ∧ ∀ other ∈ front, found other = false := by
  induction items generalizing index with
  | nil => exact nomatch hindex
  | cons first items ih =>
      rw [List.findIdx?_cons] at hindex
      by_cases hfirst : found first = true
      · rw [if_pos hfirst] at hindex
        exact ⟨[], first, items, rfl, Option.some.inj hindex, hfirst, nofun⟩
      · rw [if_neg hfirst] at hindex
        obtain ⟨before, hbefore, rfl⟩ := Option.map_eq_some_iff.mp hindex
        obtain ⟨front, item, back, rfl, rfl, hitem, hfront⟩ := ih hbefore
        refine ⟨first :: front, item, back, rfl, rfl, hitem, ?_⟩
        rw [List.forall_mem_cons]
        exact ⟨Bool.eq_false_iff.mpr hfirst, hfront⟩

/-- The first place of a full pass that is not cleared is reported as it is
remembered. -/
theorem limitReport_of_blocker
    (hfresh : monitor.Fresh origin)
    (hcontinues : Continues monitor world origin learned entries)
    {phase : Phase} {earlier pass : List Ping}
    (hpings : pingsIn entries = earlier ++ pass)
    (hsweep : Sweep phase.place false pass)
    (hfull : pass.length = monitor.countIn phase) {cleared : Ping → Bool}
    (hcleared : ∀ ping ∈ pass,
      cleared ping = true ↔ monitor.IsCleared world phase earlier ping)
    {index : Nat}
    (hblocker : pass.findIdx? (fun ping => !cleared ping) = some index) :
    ∃ ping,
      LimitReport monitor world phase earlier pass
        (monitor.probeName (phase.place index))
        (learned.lastStatus (phase.place index)) ping := by
  obtain ⟨front, ping, back, hsplit, rfl, hblocking, hfront⟩ :=
    findIdx?_split hblocker
  have hmem : ping ∈ pass := by simp [hsplit]
  have hposition : ping.position = phase.place front.length :=
    hsweep.position_getElem? (by simp [hsplit])
  obtain ⟨probe, hprobe, -⟩ := hcontinues.faithful ping (by simp [hpings, hmem])
  have hlast := hcontinues.lastStatus_eq hfresh hprobe
  rw [← hposition, hlast, hpings]
  refine ⟨ping, hsweep, hfull, ⟨front, back, hsplit, ?_⟩, ?_, rfl,
    isLastOf_lastOf? _ _, ?_⟩
  · intro other hother
    apply (hcleared other (by simp [hsplit, hother])).mp
    simpa using hfront other hother
  · rw [← hcleared ping hmem]
    simpa using hblocking
  · intro hhung
    have hnone := hsweep.lastOf?_eq phase.place_injective hmem
    rw [Ping.status?_of_timedOut hhung] at hnone
    rw [lastOf?_append, hnone]
    exact isLastOf_lastOf? _ _

theorem WaitLog.limitReport
    {passes : List (List Ping)} {pass : List Ping}
    (hlog : WaitLog monitor world origin passes pass entries)
    (hfresh : monitor.Fresh origin)
    (hcontinues : Continues monitor world origin learned entries)
    (hfull : pass.length = monitor.dependencies.length) {index : Nat}
    (hblocker :
      gateBlocker monitor world origin passes.flatten pass = some index) :
    ∃ ping,
      LimitReport monitor world .dependencyWait passes.flatten pass
        (monitor.probeName (.dependency index))
        (learned.lastStatus (.dependency index)) ping := by
  have hsweep : Sweep Phase.dependencyWait.place false pass := hlog.sweep
  apply limitReport_of_blocker hfresh hcontinues hlog.pingsIn_eq hsweep hfull _
    hblocker
  intro ping hmem
  obtain ⟨index, -, hposition⟩ := hlog.sweep.exists_place hmem
  exact opensGate_iff_satisfies hfresh _ hposition

theorem BootLog.limitReport
    {wait : List Entry} {passes : List (List Ping)} {pass : List Ping}
    (hlog : BootLog monitor world origin wait passes pass entries)
    (hfresh : monitor.Fresh origin)
    (hcontinues : Continues monitor world origin learned entries)
    (hfull : pass.length = monitor.primaries.length) {index : Nat}
    (hblocker : downBlocker pass = some index) :
    ∃ ping,
      LimitReport monitor world .bootstrap (pingsIn wait ++ passes.flatten)
        pass (monitor.probeName (.primary index))
        (learned.lastStatus (.primary index)) ping := by
  have hsweep : Sweep Phase.bootstrap.place false pass := hlog.sweep
  apply limitReport_of_blocker hfresh hcontinues _ hsweep hfull
    (fun _ _ => Iff.rfl) hblocker
  rw [hlog.pingsIn_eq, List.append_assoc]

theorem LiveLog.hungReport
    {boot : List Entry} {passes : List LivePass} {current : List Block}
    (hlog : LiveLog monitor world origin boot passes current entries)
    (hfresh : monitor.Fresh origin) {ping : Ping}
    (hcontinues :
      Continues monitor world origin learned (entries ++ [.pinged ping]))
    (hposition : ping.position = .primary current.length)
    (hlive : ping.live = true) (hhung : ping.outcome = some .timedOut)
    (hrange : current.length < monitor.primaries.length) :
    HungReport monitor (pingsIn (entries ++ [.pinged ping]))
      (monitor.probeName ping.position)
      (learned.lastStatus (.primary current.length)) ping := by
  obtain ⟨_, opening, hbooted⟩ := hlog.booted
  have hopening := hbooted.openingPass
  obtain ⟨earlier, hearlier⟩ := hopening.suffix
  obtain ⟨instant, verdict, hwritten⟩ := hlog.written
  have hpings :
      pingsIn (entries ++ [.pinged ping]) =
        earlier ++ opening ++
          (pingsIn (liveEntries passes current) ++ [ping]) := by
    rw [pingsIn_append, hwritten, pingsIn_append, pingsIn_told_cons, ← hearlier,
      List.append_assoc]
    rfl
  obtain ⟨probe, hprobe, -⟩ := hcontinues.faithful ping (by simp)
  rw [← hposition, hcontinues.lastStatus_eq hfresh hprobe]
  -- The primary of this place came in with the clean pass before live.
  have hindex : current.length < opening.length := by
    rw [hopening.full]
    exact hrange
  have hmem := List.getElem_mem hindex
  have hopener : opening[current.length].position = ping.position := by
    rw [hposition]
    exact hopening.sweep.position_getElem? (List.getElem?_eq_getElem hindex)
  have hphase : opening[current.length].phase = .bootstrap := by
    simp [Ping.phase, hopener, hposition, hopening.sweep.live _ hmem]
  obtain ⟨status, houtcome, -⟩ :=
    Ping.exists_status_of_succeeded (hopening.clean _ hmem)
  have hfirst :
      lastOf? (Ping.statusAt? ping.position) opening =
        some (status.inPhase .bootstrap) := by
    have hlast :=
      hopening.sweep.lastOf?_eq (fun _ _ => Position.primary.inj) hmem
    rw [hopener, hphase, Ping.status?_of_completed houtcome] at hlast
    exact hlast
  have hearly :
      lastOf? (Ping.statusAt? ping.position) (earlier ++ opening) =
        some (status.inPhase .bootstrap) := by
    rw [lastOf?_append, hfirst]
    rfl
  refine ⟨by simp, hlive, hhung, rfl, isLastOf_lastOf? _ _, ?_, earlier,
    opening, _, hpings, hopening.sweep, hopening.full, hopening.clean, ?_, ?_⟩
  · rw [hpings, lastOf?_append _ (earlier ++ opening), hearly]
    cases lastOf? (Ping.statusAt? ping.position)
        (pingsIn (liveEntries passes current) ++ [ping]) with
    | none => exact Option.some_ne_none _
    | some found => exact Option.some_ne_none _
  · exact forall_mem_concat (fun other hother =>
      (hlog.live_pings other hother).1) hlive
  · intro hnone
    have hlater : lastOf? (Ping.statusAt? ping.position)
        (pingsIn (liveEntries passes current) ++ [ping]) = none :=
      (isLastOf_lastOf? _ _).absent.mpr hnone
    refine ⟨_, hmem, hopener, ?_⟩
    rw [hpings, lastOf?_append _ (earlier ++ opening), hlater, hearly,
      Ping.status?_of_completed houtcome]
    rfl

end Telling

/-! ## Along a run -/

section Steps

variable {monitor : Monitor σ} {world : World} {origin state : State σ}
  {entries : List Entry} {pass : Pass} {probe : Probe} {run : Run σ}

theorem faithful_answeredPing
    (hcontinues : Continues monitor world origin state entries)
    (hprobe : monitor.probe? pass.position = some probe) :
    (Run.answeredPing world state pass probe).Faithful monitor world
      origin.watchdog.timeout := by
  obtain ⟨found, hfound, htraces⟩ :
      (Run.answeredPing world state pass probe).IsTraced monitor world
        state.watchdog.timeout :=
    isTraced_answeredPing hprobe
  rw [hcontinues.timeout] at htraces
  exact ⟨found, hfound, htraces.answer⟩

/-- The entries of a step that ends with `other`. -/
def StepTells
    (monitor : Monitor σ) (world : World) (entries : List Entry)
    (state other : State σ) : Prop :=
  ∃ more, other.transcript = more.reverse ++ state.transcript ∧
    TellsTimeouts monitor world (entries ++ more)

theorem Advances.stepTells
    {middle other : State σ} {news : List Entry}
    (hadvances : Advances monitor none middle other news)
    (htranscript : middle.transcript = state.transcript)
    (htells : TellsTimeouts monitor world entries) :
    StepTells monitor world entries state other :=
  ⟨news, htranscript ▸ hadvances.transcript,
    htells.append_quiet hadvances.isTimeout_eq⟩

/-- The same after one more ping was written. -/
theorem Advances.stepTells_pinged
    {middle other : State σ} {news : List Entry} {ping : Ping}
    (hadvances : Advances monitor none middle other news)
    (htranscript : middle.transcript = .pinged ping :: state.transcript)
    (htells : TellsTimeouts monitor world entries) :
    StepTells monitor world entries state other := by
  refine ⟨.pinged ping :: news, ?_, htells.append_quiet ?_⟩
  · rw [hadvances.transcript, htranscript]
    simp
  · exact List.forall_mem_cons.mpr ⟨rfl, hadvances.isTimeout_eq⟩

/-- The same where the ping is the last that `learned` took in, and may end a
phase by its time limit. -/
theorem Advances.stepTells_learned
    {before learned other : State σ} {news : List Entry} {ping : Ping}
    {blocker : Option Position}
    (hadvances : Advances monitor blocker learned other news)
    (hcontinues : Continues monitor world origin before entries)
    (hlearned :
      Continues monitor world origin learned (entries ++ [.pinged ping]))
    (htells : TellsTimeouts monitor world entries)
    (hphase : learned.phase ≠ .live)
    (hreport : ∀ position, blocker = some position →
      ∃ earlier pass blocking,
        pingsIn (entries ++ [.pinged ping]) = earlier ++ pass ∧
          LimitReport monitor world learned.phase earlier pass
            (monitor.probeName position) (learned.lastStatus position)
            blocking) :
    StepTells monitor world entries before other := by
  have hpinged : TellsTimeouts monitor world (entries ++ [.pinged ping]) :=
    htells.append_quiet (by simp [Entry.isTimeout])
  refine ⟨.pinged ping :: news, ?_, ?_⟩
  · rw [hadvances.transcript, hlearned.transcript, hcontinues.transcript]
    simp
  · rw [List.append_cons]
    exact hpinged.advances hadvances hphase hreport

theorem tells_answerDependencies
    {before : State σ} {passes : List (List Ping)} {current : List Ping}
    (hfresh : monitor.Fresh origin)
    (hcontinues : Continues monitor world origin before entries)
    (hlog : WaitLog monitor world origin passes current entries)
    (hphase : before.phase = .dependencyWait)
    {ping : Ping} (hrecorded : Recorded before ping state)
    (hfaithful : ping.Faithful monitor world origin.watchdog.timeout)
    (hposition : ping.position = .dependency current.length)
    (hlive : ping.live = false) {outcome : PingOutcome}
    (houtcome : ping.outcome = some outcome)
    (hprobe : monitor.probe? (.dependency current.length) = some probe)
    (hanswered : ping.Answered)
    (htells : TellsTimeouts monitor world entries) :
    StepTells monitor world entries before
      (Run.answerDependencies monitor state current.length
        (gateBlocker monitor world origin passes.flatten current) probe
        (world.call ping.position ping.number).safeMode outcome).state := by
  have hphaseState := hrecorded.phase.trans hphase
  have hrange := (List.getElem?_eq_some_iff.mp hprobe).1
  obtain ⟨learned, hlearned, hsame, -, -, hgoes⟩ :=
    answerDependencies_goesOn hcontinues hlog hphaseState hrecorded hfaithful
      hposition houtcome hprobe hanswered
  have hnext := hlog.append hposition hlive hanswered hrange
  have hphaseLearned := hsame.trans hphaseState
  obtain ⟨news, hadvances⟩ := advances_goOnDependencies monitor learned
    (current.length + 1)
    (gateBlocker monitor world origin passes.flatten (current ++ [ping]))
  rw [hgoes]
  apply hadvances.stepTells_learned hcontinues hlearned htells
    (by simp [hphaseLearned])
  intro position hheld
  obtain ⟨hend, index, hblocker, rfl⟩ := Pass.of_holdUp?_dependencies hheld
  have hbound := hnext.bound
  have hfull : (current ++ [ping]).length = monitor.dependencies.length := by
    rw [List.length_append, List.length_singleton] at hbound ⊢
    omega
  rw [hphaseLearned]
  obtain ⟨blocking, hreport⟩ :=
    hnext.limitReport hfresh hlearned hfull hblocker
  exact ⟨_, _, blocking, hnext.pingsIn_eq, hreport⟩

theorem tells_answerBootstrap
    {before : State σ} {wait : List Entry} {passes : List (List Ping)}
    {current : List Ping} (hfresh : monitor.Fresh origin)
    (hcontinues : Continues monitor world origin before entries)
    (hlog : BootLog monitor world origin wait passes current entries)
    (hphase : before.phase = .bootstrap)
    {ping : Ping} (hrecorded : Recorded before ping state)
    (hfaithful : ping.Faithful monitor world origin.watchdog.timeout)
    (hposition : ping.position = .primary current.length)
    (hlive : ping.live = false) {outcome : PingOutcome}
    (houtcome : ping.outcome = some outcome)
    (hrange : current.length < monitor.primaries.length)
    (hanswered : ping.Answered)
    (htells : TellsTimeouts monitor world entries) :
    StepTells monitor world entries before
      (Run.answerBootstrap monitor state current.length (downBlocker current)
        (statusesIn .bootstrap current) outcome).state := by
  have hphaseState := hrecorded.phase.trans hphase
  obtain ⟨learned, hlearned, hsame, -, -, hgoes⟩ :=
    answerBootstrap_goesOn hcontinues hphaseState hrecorded hfaithful hposition
      hlive houtcome hanswered
  have hnext := hlog.append hposition hlive hanswered hrange
  have hphaseLearned := hsame.trans hphaseState
  obtain ⟨news, hadvances⟩ := advances_goOnBootstrap monitor learned
    (current.length + 1) (downBlocker (current ++ [ping]))
    (statusesIn .bootstrap (current ++ [ping]))
  rw [hgoes]
  apply hadvances.stepTells_learned hcontinues hlearned htells
    (by simp [hphaseLearned])
  intro position hheld
  obtain ⟨hend, index, hblocker, rfl⟩ := Pass.of_holdUp?_bootstrap hheld
  have hbound := hnext.bound
  have hfull : (current ++ [ping]).length = monitor.primaries.length := by
    rw [List.length_append, List.length_singleton] at hbound ⊢
    omega
  rw [hphaseLearned]
  obtain ⟨blocking, hreport⟩ :=
    hnext.limitReport hfresh hlearned hfull hblocker
  refine ⟨_, _, blocking, ?_, hreport⟩
  rw [hnext.pingsIn_eq, List.append_assoc]

theorem tells_answerLive
    {before : State σ} {boot : List Entry} {passes : List LivePass}
    {current : List Block} (hfresh : monitor.Fresh origin)
    (hcontinues : Continues monitor world origin before entries)
    (hlog : LiveLog monitor world origin boot passes current entries)
    (hphase : before.phase = .live)
    {ping : Ping} (hrecorded : Recorded before ping state)
    (hfaithful : ping.Faithful monitor world origin.watchdog.timeout)
    (hposition : ping.position = .primary current.length)
    (hlive : ping.live = true)
    (hnow : ping.answered = state.now.instant) {outcome : PingOutcome}
    (houtcome : ping.outcome = some outcome)
    (hprobe : monitor.probe? (.primary current.length) = some probe)
    (htells : TellsTimeouts monitor world entries) (clean : Bool) :
    StepTells monitor world entries before
      (Run.answerLive monitor state current.length clean probe
        outcome).state := by
  have hpinged : TellsTimeouts monitor world (entries ++ [.pinged ping]) :=
    htells.append_quiet (by simp [Entry.isTimeout])
  rcases answerLive_cases (hrecorded.phase.trans hphase) clean hprobe _ hposition
      hnow houtcome with
    ⟨abort, -, hended⟩ | ⟨told, verdict, reports, hreports, hheard, hends⟩
  · rw [hended]
    exact ⟨[.pinged ping], hrecorded.transcript, hpinged⟩
  · have hreported :
        TellsTimeouts monitor world
          (entries ++ [.pinged ping] ++ reports) := by
      cases hreports with
      | up _ _ => exact hpinged.append_quiet (by simp [Entry.isTimeout])
      | down _ _ => exact hpinged.append_quiet (by simp [Entry.isTimeout])
      | hung hhung =>
          have hrange := (List.getElem?_eq_some_iff.mp hprobe).1
          have hreport := hlog.hungReport hfresh
            (hcontinues.recorded hrecorded hfaithful
              (Ping.status?_of_timedOut hhung))
            hposition hlive hhung hrange
          exact forall_split_concat hpinged ⟨ping, hreport⟩
    rcases hends with ⟨-, exit, hended⟩ | ⟨-, still, hgone⟩
    · rw [hended]
      refine ⟨.pinged ping :: reports, ?_, by simpa using hreported⟩
      rw [hheard.transcript, hrecorded.transcript]
      simp
    · obtain ⟨beat, hbeat, -, hwritten, -, -⟩ := heartbeat_cases monitor told
      obtain ⟨rest, hmore⟩ :=
        advances_goOnLive monitor (Run.heartbeat monitor told)
          (current.length + 1) still
      rw [hgone]
      refine ⟨.pinged ping :: (reports ++ (beat ++ rest)), ?_, ?_⟩
      · rw [hmore.transcript, hwritten, hheard.transcript,
          hrecorded.transcript]
        simp
      · rw [List.append_cons, ← List.append_assoc]
        apply hreported.append_quiet
        rw [List.forall_mem_append]
        refine ⟨?_, hmore.isTimeout_eq⟩
        cases hbeat with
        | sent _ _ => simp [Entry.isTimeout]
        | held _ => exact List.forall_mem_nil _

theorem tells_answer
    {before : State σ} (hfresh : monitor.Fresh origin)
    (hcontinues : Continues monitor world origin before entries)
    (hstanding : Standing monitor world origin before pass entries)
    {ping : Ping} (hrecorded : Recorded before ping state)
    (hfaithful : ping.Faithful monitor world origin.watchdog.timeout)
    (hposition : ping.position = pass.position)
    (hlive : ping.live = pass.isLive)
    (hnow : ping.answered = state.now.instant) {outcome : PingOutcome}
    (houtcome : ping.outcome = some outcome)
    (hprobe : monitor.probe? pass.position = some probe)
    (htells : TellsTimeouts monitor world entries) :
    StepTells monitor world entries before
      (Run.answer monitor state pass probe
        (world.call ping.position ping.number).safeMode outcome).state := by
  have haborted : ∀ abort, outcome = .aborted abort →
      StepTells monitor world entries before
        (Run.answer monitor state pass probe
          (world.call ping.position ping.number).safeMode outcome).state := by
    rintro abort rfl
    have hsame : (Run.answer monitor state pass probe
        (world.call ping.position ping.number).safeMode
        (.aborted abort)).state = state := by
      cases pass <;> rfl
    rw [hsame]
    exact (Advances.refl : Advances monitor none _ _ []).stepTells_pinged
      hrecorded.transcript htells
  have hanswered : ping.Answered ∨ ∃ abort, outcome = .aborted abort := by
    cases outcome with
    | completed status => exact .inl (.inl ⟨status, houtcome⟩)
    | timedOut => exact .inl (.inr houtcome)
    | aborted abort => exact .inr ⟨abort, rfl⟩
  rcases hanswered with hanswered | ⟨abort, habort⟩
  · cases hstanding with
    | waiting hlog hroom hphase hclean =>
        exact tells_answerDependencies hfresh hcontinues hlog hphase hrecorded
          hfaithful hposition hlive houtcome hprobe hanswered htells
    | booting hlog hroom hphase hclean =>
        exact tells_answerBootstrap hfresh hcontinues hlog hphase hrecorded
          hfaithful hposition hlive houtcome hroom hanswered htells
    | living hlog hroom hphase hclean =>
        exact tells_answerLive hfresh hcontinues hlog hphase hrecorded
          hfaithful hposition hlive hnow houtcome hprobe htells _
  · exact haborted abort habort

theorem tells_stepPing
    (stop : Option Nat) (hfresh : monitor.Fresh origin)
    (hcontinues : Continues monitor world origin state entries)
    (hstanding : Standing monitor world origin state pass entries)
    (hprobe : monitor.probe? pass.position = some probe)
    (htells : TellsTimeouts monitor world entries) :
    StepTells monitor world entries state
      (Run.stepPing monitor world stop state pass probe).state := by
  rw [Run.stepPing_eq]
  split
  next moment hstopped =>
    by_cases hsame : moment = state.now
    · rw [if_pos hsame]
      obtain ⟨news, hclosed⟩ := advances_close monitor (state.moveTo moment)
      exact hclosed.stepTells rfl htells
    · rw [if_neg hsame]
      obtain ⟨news, hclosed⟩ :=
        advances_close monitor (Run.afterBreak world state pass moment)
      have htranscript :
          (Run.afterBreak world state pass moment).transcript =
            .pinged (Run.brokenPing world state pass moment) ::
              state.transcript := by
        simp [Run.afterBreak, Run.recordPing, State.note, State.moveTo]
      exact hclosed.stepTells_pinged htranscript htells
  next =>
    exact tells_answer hfresh hcontinues hstanding
      (recorded_afterAnswer world state pass probe)
      (faithful_answeredPing hcontinues hprobe) rfl rfl rfl rfl hprobe htells

theorem tells_step
    (stop : Option Nat) (hfresh : monitor.Fresh origin)
    (haccounts : Accounts monitor world origin run entries)
    (htells : TellsTimeouts monitor world entries) :
    StepTells monitor world entries run.state
      (Run.step monitor world stop run).state := by
  cases haccounts with
  | ping hcontinues hclosed hstanding hprobe =>
      obtain ⟨probe, hprobe⟩ := hprobe
      simp only [Run.step, hprobe]
      exact tells_stepPing stop hfresh hcontinues hstanding hprobe htells
  | pause hcontinues hclosed hstanding hfirst =>
      simp only [Run.step, Run.stepPause]
      split
      next =>
        obtain ⟨news, hclosed⟩ := advances_close monitor _
        exact hclosed.stepTells rfl htells
      next =>
        obtain ⟨news, hresumed⟩ := advances_resume monitor _
        exact hresumed.stepTells rfl htells
  | ended hcontinues hlog => exact ⟨[], rfl, by simpa using htells⟩

theorem tells_play
    (stop : Option Nat) (fuel : Nat) (hfresh : monitor.Fresh origin)
    (haccounts : Accounts monitor world origin run entries)
    (htells : TellsTimeouts monitor world entries) :
    ∃ written,
      Accounts monitor world origin (Run.play monitor world stop fuel run)
          written ∧
        TellsTimeouts monitor world written := by
  induction fuel generalizing run entries with
  | zero => exact ⟨entries, haccounts, htells⟩
  | succ fuel ih =>
      obtain ⟨more, htranscript, hmore⟩ :=
        tells_step stop hfresh haccounts htells
      rw [haccounts.continues.transcript, ← List.append_assoc,
        ← List.reverse_append] at htranscript
      rw [Run.play_succ]
      exact ih
        (.of_transcript (accounted_step stop ⟨entries, haccounts⟩) htranscript)
        hmore

theorem tells_begin (world : World) (origin : State σ) :
    ∃ entries,
      Accounts monitor world origin (Run.begin monitor origin) entries ∧
        TellsTimeouts monitor world entries := by
  obtain ⟨entries, hbegun⟩ := advances_begin monitor origin
  have hnothing : TellsTimeouts monitor world [] := by
    intro before entry after hsplit
    simp at hsplit
  exact ⟨entries, .of_transcript accounted_begin hbegun.transcript,
    hnothing.append_quiet hbegun.isTimeout_eq⟩

end Steps

/-! ## The main statement -/

/-- What a run reports of timeouts. -/
structure TimeoutRecord
    (monitor : Monitor σ) (world : World) (exit : Option RunExit)
    (entries : List Entry) : Prop where
  hung : ∀ before instant probe last now verdict after,
    entries = before ++ .told instant (.timedOut .live probe last now) verdict ::
        after →
      ∃ ping, HungReport monitor (pingsIn before) probe last ping
  limited : ∀ before instant phase probe last now verdict after,
    entries = before ++ .told instant (.timedOut phase probe last now) verdict ::
        after →
      phase ≠ .live →
        ∃ earlier pass ping,
          pingsIn before = earlier ++ pass ∧
            LimitReport monitor world phase earlier pass probe last ping
  /-- An exit by a timeout is that of the last report. -/
  exits : ∀ phase probe last,
    (exit = some (.probeTimedOut phase probe last) ∨
        ∃ elapsed,
          exit = some (.bootstrapTimedOut phase probe elapsed last)) →
      ∃ before instant now verdict,
        entries =
          before ++ [.told instant (.timedOut phase probe last now) verdict]

theorem ComesTo.timeout
    {exit : RunExit} {entries : List Entry} (hcomes : ComesTo exit entries)
    {phase : Phase} {probe : String} {last : Option Status}
    (hexit : exit = .probeTimedOut phase probe last ∨
      ∃ elapsed, exit = .bootstrapTimedOut phase probe elapsed last) :
    ∃ before instant now verdict,
      entries =
        before ++ [.told instant (.timedOut phase probe last now) verdict] := by
  obtain ⟨before, ending, rfl, -, hend⟩ := hcomes
  rcases hexit with rfl | ⟨elapsed, rfl⟩
  · cases hend with
    | told htold =>
        cases htold with
        | hung => exact ⟨before, _, _, _, rfl⟩
  · cases hend with
    | told htold =>
        cases htold with
        | limited _ => exact ⟨before, _, _, _, rfl⟩

theorem run_timeoutRecord
    {monitor : Monitor σ} {world : World} {stop : Option Nat} {fuel : Nat}
    {origin final : State σ} {exit : Option RunExit}
    (hfresh : monitor.Fresh origin)
    (hrun : monitor.run world stop fuel origin = (.ok exit, final)) :
    TimeoutRecord monitor world exit (final.since origin) := by
  obtain ⟨-, hlog⟩ := run_log hrun
  have htells : TellsTimeouts monitor world (final.since origin) := by
    obtain ⟨control, hplay, -⟩ := played_of_run hrun
    obtain ⟨first, hbegun, hfirst⟩ := tells_begin world origin
    obtain ⟨written, hplayed, hwritten⟩ :=
      tells_play stop fuel hfresh hbegun hfirst
    rw [hplay] at hplayed
    rw [State.since_eq hplayed.continues.transcript]
    exact hwritten
  constructor
  case hung =>
    intro before instant probe last now verdict after hsplit
    exact htells _ _ _ hsplit
  case limited =>
    intro before instant phase probe last now verdict after hsplit hphase
    have htold := htells _ _ _ hsplit
    simpa only [Entry.TellsTimeout, if_neg hphase] using htold
  case exits =>
    intro phase probe last hexit
    cases exit with
    | none =>
        rcases hexit with hnone | ⟨_, hnone⟩
        · exact nomatch hnone
        · exact nomatch hnone
    | some exit =>
        simp only [Option.some.injEq] at hexit
        exact (hlog.comesTo hfresh.closed).timeout hexit

/-! ## Two probes of one name -/

namespace Sample

/-- Two probes of one name, and little time to come up. -/
def twins : Monitor Unit where
  name := "service"
  primaries := [{ name := "http" }, { name := "http" }]
  timing := { probeTimeout := 1000, bootstrapLimit := some 3000 }
  reporter := .default

/-- The first comes in once and then hangs, while the second is never up. -/
def strain : World where
  call
    | .primary 0, 0 => { ending := .status (.up "http" "ok") }
    | .primary 0, _ => { takes := none, ending := .status (.up "http" "late") }
    | _, _ => { ending := .status (.down "http" "refused") }

def twinsStart : State Unit :=
  (twins.perform strain 0 (.initial twins ()) .start).2

theorem twins_fresh : twins.Fresh twinsStart :=
  .performed (.built rfl) strain 0 rfl

def twinsEnd : State Unit :=
  (twins.run strain none 20 twinsStart).2

theorem twins_run_eq :
    twins.run strain none 20 twinsStart =
      (.ok (some (.bootstrapTimedOut .bootstrap "http" 3000
        (some ((Status.up "http" "ok").inPhase .bootstrap)))), twinsEnd) := rfl

end Sample

/-- The first of the twins hangs in the last pass, and what is told of it is the
success of the pass before. -/
theorem run_timeoutRecord_sample :
    TimeoutRecord Sample.twins Sample.strain
        (some (.bootstrapTimedOut .bootstrap "http" 3000
          (some ((Status.up "http" "ok").inPhase .bootstrap))))
        (Sample.twinsEnd.since Sample.twinsStart) ∧
      (pingsIn (Sample.twinsEnd.since Sample.twinsStart)).map (·.succeeded) =
        [true, false, false, false] :=
  ⟨run_timeoutRecord Sample.twins_fresh Sample.twins_run_eq, rfl⟩

end HealthMonitor
