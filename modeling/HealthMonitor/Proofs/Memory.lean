import HealthMonitor.Proofs.Entries

/-!
# What a monitor remembers of its pings

Whatever a run does, the transcript only grows, and each slot holds what it
held at the start together with what the pings of its position taught since.
`Continues` says so of a state and the entries written since an earlier one.
The lemmas after it show what telling, noting, waiting and pinging keep.
-/

namespace HealthMonitor

variable {σ : Type}

/-- What a watchdog answers to a call, whenever it is made. -/
def Call.answer (timeout : Nat) (probe : Probe) (call : Call) : PingOutcome :=
  match call.takes with
  | some wait =>
      if wait < timeout then call.ending.outcome probe else .timedOut
  | none => .timedOut

theorem Watchdog.outcome_race
    (timeout : Nat) (now : Moment) (probe : Probe) (call : Call) :
    (race timeout now probe call).outcome = call.answer timeout probe := by
  unfold race Call.answer
  cases call.takes with
  | none => rfl
  | some wait =>
      simp only
      split
      next => rfl
      next => rfl

theorem Watchdog.fst_ping
    (watchdog : Watchdog) (now : Moment) (probe : Probe) (call : Call) :
    (watchdog.ping now probe call).1 =
      race watchdog.timeout now probe call := by
  unfold ping
  simp only
  split
  next => split <;> rfl
  next => rfl

theorem Watchdog.timeout_snd_ping
    (watchdog : Watchdog) (now : Moment) (probe : Probe) (call : Call) :
    (watchdog.ping now probe call).2.timeout = watchdog.timeout := by
  unfold ping
  simp only
  split
  next => split <;> rfl
  next => rfl

/-- A written ping belongs to a probe of the monitor, and its answer, if it has
one, is the watchdog's to the call of that number. -/
def Ping.Faithful
    (monitor : Monitor σ) (world : World) (timeout : Nat) (ping : Ping) :
    Prop :=
  ∃ probe, monitor.probe? ping.position = some probe ∧
    ∀ outcome, ping.outcome = some outcome →
      outcome =
        (world.call ping.position ping.number).answer timeout probe

theorem Ping.Faithful.lt_primaries
    {monitor : Monitor σ} {world : World} {ping : Ping} {timeout index : Nat}
    (hfaithful : ping.Faithful monitor world timeout)
    (hposition : ping.position = .primary index) :
    index < monitor.primaries.length := by
  obtain ⟨probe, hprobe, -⟩ := hfaithful
  rw [hposition] at hprobe
  exact (List.getElem?_eq_some_iff.mp hprobe).1

/-- Whether a ping succeeded and saw its target out of safe mode. -/
def Ping.leftSafeMode (world : World) (ping : Ping) : Bool :=
  ping.succeeded && !(world.call ping.position ping.number).safeMode

/-- Whether a position is watched for safe mode: only dependencies are. -/
def Monitor.watchesSafeMode (monitor : Monitor σ) : Position → Bool
  | .dependency index => monitor.dependencies[index]?.any (·.hasSafeMode)
  | .primary _ => false

/-- What a slot holds after one more ping of its position. -/
def Slot.absorb
    (monitor : Monitor σ) (world : World) (slot : Slot) (ping : Ping) :
    Slot where
  calls := slot.calls + 1
  last := (ping.status?.map (·.inPhase ping.phase)).or slot.last
  leftSafeMode := slot.leftSafeMode ||
    (monitor.watchesSafeMode ping.position && ping.leftSafeMode world)

/-- What a slot holds after those of some pings that were of its position. -/
def Slot.absorbAll
    (monitor : Monitor σ) (world : World) (position : Position)
    (pings : List Ping) (slot : Slot) : Slot :=
  (pings.filter (·.position = position)).foldl (·.absorb monitor world) slot

section Absorbing

variable {monitor : Monitor σ} {world : World} {position : Position}

theorem Slot.absorbAll_append
    (pings more : List Ping) (slot : Slot) :
    slot.absorbAll monitor world position (pings ++ more) =
      (slot.absorbAll monitor world position pings).absorbAll
        monitor world position more := by
  simp [absorbAll]

theorem Slot.absorbAll_singleton_self
    {ping : Ping} (hposition : ping.position = position) (slot : Slot) :
    slot.absorbAll monitor world position [ping] =
      slot.absorb monitor world ping := by
  simp [absorbAll, hposition]

theorem Slot.absorbAll_of_forall_ne
    {pings : List Ping} (hne : ∀ ping ∈ pings, ping.position ≠ position)
    (slot : Slot) :
    slot.absorbAll monitor world position pings = slot := by
  have hfilter : pings.filter (·.position = position) = [] := by
    simpa [List.filter_eq_nil_iff] using hne
  simp [absorbAll, hfilter]

/-- A slot knows of safe mode left exactly what it knew before or learned from
one of the pings of its position. -/
theorem Slot.leftSafeMode_absorbAll (pings : List Ping) (slot : Slot) :
    (slot.absorbAll monitor world position pings).leftSafeMode = true ↔
      slot.leftSafeMode = true ∨
        monitor.watchesSafeMode position = true ∧
          ∃ ping ∈ pings, ping.position = position ∧
            ping.leftSafeMode world = true := by
  induction pings generalizing slot with
  | nil => simp [absorbAll]
  | cons ping pings ih =>
      rw [← List.singleton_append, absorbAll_append, ih]
      by_cases hposition : ping.position = position
      · rw [absorbAll_singleton_self hposition]
        simp only [absorb, hposition, Bool.or_eq_true, Bool.and_eq_true,
          List.mem_append, List.mem_singleton, or_and_right, exists_or,
          exists_eq_left, true_and, and_or_left, or_assoc]
      · rw [absorbAll_of_forall_ne (by simpa using hposition)]
        simp [hposition]

theorem Slot.calls_absorbAll (pings : List Ping) (slot : Slot) :
    (slot.absorbAll monitor world position pings).calls =
      slot.calls + pings.countP (·.position = position) := by
  induction pings generalizing slot with
  | nil => rfl
  | cons ping pings ih =>
      rw [← List.singleton_append, absorbAll_append, ih]
      by_cases hposition : ping.position = position
      · rw [absorbAll_singleton_self hposition]
        simp only [absorb, List.singleton_append, List.countP_cons, hposition,
          decide_true, if_true]
        omega
      · rw [absorbAll_of_forall_ne (by simpa using hposition)]
        simp [hposition]

theorem Slot.recordDependency_eq_absorb
    {ping : Ping} {index : Nat} {probe : Probe} {status : Status}
    (hposition : ping.position = .dependency index)
    (hprobe : monitor.probe? (.dependency index) = some probe)
    (houtcome : ping.outcome = some (.completed status)) (slot : Slot) :
    Run.recordDependency probe (status.inPhase .dependencyWait)
        (world.call ping.position ping.number).safeMode
        { slot with calls := slot.calls + 1 } =
      slot.absorb monitor world ping := by
  have hwatched :
      monitor.watchesSafeMode (.dependency index) = probe.hasSafeMode := by
    have hprobe : monitor.dependencies[index]? = some probe := hprobe
    simp [Monitor.watchesSafeMode, hprobe]
  simp [Run.recordDependency, absorb, Ping.leftSafeMode, Ping.phase, hposition,
    hwatched, Ping.succeeded_of_completed houtcome,
    Ping.status?_of_completed houtcome, Bool.and_left_comm, Bool.and_assoc]

theorem Slot.recordPrimary_eq_absorb
    {ping : Ping} {index : Nat} {status : Status}
    (hposition : ping.position = .primary index)
    (houtcome : ping.outcome = some (.completed status)) (slot : Slot) :
    { { slot with calls := slot.calls + 1 } with
        last := some (status.inPhase ping.phase) } =
      slot.absorb monitor world ping := by
  simp [absorb, Monitor.watchesSafeMode, hposition,
    Ping.status?_of_completed houtcome]

end Absorbing

/-! ## Looking at a slot -/

theorem State.slot?_modifySlot
    (state : State σ) (position other : Position) (change : Slot → Slot) :
    (state.modifySlot position change).slot? other =
      if position = other then (state.slot? other).map change
      else state.slot? other := by
  cases position with
  | dependency index =>
      cases other with
      | dependency otherIndex =>
          by_cases heq : index = otherIndex
          · simp [modifySlot, slot?, heq]
          · simp [modifySlot, slot?, heq]
      | primary otherIndex => simp [modifySlot, slot?]
  | primary index =>
      cases other with
      | dependency otherIndex => simp [modifySlot, slot?]
      | primary otherIndex =>
          by_cases heq : index = otherIndex
          · simp [modifySlot, slot?, heq]
          · simp [modifySlot, slot?, heq]

theorem State.slot?_congr
    {state other : State σ}
    (hdependencies : other.dependencies = state.dependencies)
    (hprimaries : other.primaries = state.primaries) (position : Position) :
    other.slot? position = state.slot? position := by
  cases position with
  | dependency index => simp [slot?, hdependencies]
  | primary index => simp [slot?, hprimaries]

/-! ## What is kept -/

namespace State

section Kept

variable (state : State σ) (monitor : Monitor σ) (callback : Callback)
  (entry : Entry) (moment : Moment) (position : Position) (change : Slot → Slot)

def verdict : Verdict :=
  (monitor.reporter.react state.reporter callback).1

theorem ask_eq :
    state.ask monitor callback =
      (state.verdict monitor callback, state.tell monitor callback) := rfl

@[simp] theorem phase_note : (state.note entry).phase = state.phase := rfl

@[simp] theorem closed_note : (state.note entry).closed = state.closed := rfl

@[simp] theorem cleanBefore_note :
    (state.note entry).cleanBefore = state.cleanBefore := rfl

@[simp] theorem transcript_modifySlot :
    (state.modifySlot position change).transcript = state.transcript := by
  cases position <;> rfl

@[simp] theorem watchdog_modifySlot :
    (state.modifySlot position change).watchdog = state.watchdog := by
  cases position <;> rfl

@[simp] theorem phase_modifySlot :
    (state.modifySlot position change).phase = state.phase := by
  cases position <;> rfl

@[simp] theorem closed_modifySlot :
    (state.modifySlot position change).closed = state.closed := by
  cases position <;> rfl

@[simp] theorem cleanBefore_modifySlot :
    (state.modifySlot position change).cleanBefore = state.cleanBefore := by
  cases position <;> rfl

end Kept

theorem foldl_keeps
    {α β γ : Type} (get : α → γ) {change : α → β → α}
    (hkeeps : ∀ state item, get (change state item) = get state)
    (items : List β) (state : α) :
    get (items.foldl change state) = get state := by
  induction items generalizing state with
  | nil => rfl
  | cons item items ih => rw [List.foldl_cons, ih, hkeeps]

/-- Hearing a verdict changes nothing that the schedule goes by. -/
theorem ask_keeps
    {state asked : State σ} {monitor : Monitor σ} {callback : Callback}
    {verdict : Verdict}
    (hask : state.ask monitor callback = (verdict, asked)) :
    asked.phase = state.phase ∧ asked.closed = state.closed ∧
      asked.cleanBefore = state.cleanBefore := by
  rw [ask_eq] at hask
  obtain ⟨-, rfl⟩ := Prod.mk.inj hask
  exact ⟨rfl, rfl, rfl⟩

end State

/-- `state` is `before` after a ping was written down and time went on. -/
structure Recorded
    (before : State σ) (ping : Ping) (state : State σ) : Prop where
  transcript : state.transcript = .pinged ping :: before.transcript
  slot? : ∀ position,
    state.slot? position =
      if ping.position = position then
        (before.slot? position).map fun slot =>
          { slot with calls := slot.calls + 1 }
      else before.slot? position
  number : ∀ slot, before.slot? ping.position = some slot →
    ping.number = slot.calls
  timeout : state.watchdog.timeout = before.watchdog.timeout
  phase : state.phase = before.phase
  closed : state.closed = before.closed
  cleanBefore : state.cleanBefore = before.cleanBefore

theorem recorded_recordPing
    {before : State σ} {ping : Ping}
    (hnumber : ∀ slot, before.slot? ping.position = some slot →
      ping.number = slot.calls) :
    Recorded before ping (Run.recordPing before ping) := by
  constructor
  · simp [Run.recordPing, State.note]
  · intro position
    unfold Run.recordPing
    rw [State.slot?_modifySlot]
    rfl
  · exact hnumber
  · simp [Run.recordPing, State.note]
  · simp [Run.recordPing]
  · simp [Run.recordPing]
  · simp [Run.recordPing]

theorem Recorded.later
    {before state : State σ} {ping : Ping}
    (hrecorded : Recorded before ping state) (now : Moment)
    {watchdog : Watchdog}
    (htimeout : watchdog.timeout = before.watchdog.timeout) :
    Recorded before ping { state with now, watchdog } := by
  constructor
  · exact hrecorded.transcript
  · intro position
    rw [← hrecorded.slot?]
    exact State.slot?_congr rfl rfl position
  · exact hrecorded.number
  · exact htimeout
  · exact hrecorded.phase
  · exact hrecorded.closed
  · exact hrecorded.cleanBefore

/-- The calls of each position are counted on from a state. -/
def CountedFrom (origin : State σ) (pings : List Ping) : Prop :=
  ∀ earlier ping later, pings = earlier ++ ping :: later →
    ∀ slot, origin.slot? ping.position = some slot →
      ping.number =
        slot.calls + earlier.countP (·.position = ping.position)

/-- Since `origin`, exactly `entries` were written, and the slots hold what
their pings taught. -/
structure Continues
    (monitor : Monitor σ) (world : World) (origin state : State σ)
    (entries : List Entry) : Prop where
  transcript : state.transcript = entries.reverse ++ origin.transcript
  slot? : ∀ position,
    state.slot? position =
      (origin.slot? position).map
        (·.absorbAll monitor world position (pingsIn entries))
  timeout : state.watchdog.timeout = origin.watchdog.timeout
  faithful : ∀ ping ∈ pingsIn entries,
    ping.Faithful monitor world origin.watchdog.timeout
  counted : CountedFrom origin (pingsIn entries)

namespace Continues

variable {monitor : Monitor σ} {world : World} {origin state other : State σ}
  {entries : List Entry}

theorem refl : Continues monitor world origin origin [] := by
  constructor
  · simp
  · intro position
    simp [Slot.absorbAll]
  · rfl
  · simp
  · simp [CountedFrom]

theorem congr
    (hcontinues : Continues monitor world origin state entries)
    (htranscript : other.transcript = state.transcript)
    (hslot : ∀ position, other.slot? position = state.slot? position)
    (htimeout : other.watchdog.timeout = state.watchdog.timeout) :
    Continues monitor world origin other entries := by
  constructor
  · rw [htranscript, hcontinues.transcript]
  · intro position
    rw [hslot, hcontinues.slot?]
  · rw [htimeout, hcontinues.timeout]
  · exact hcontinues.faithful
  · exact hcontinues.counted

theorem moveTo
    (hcontinues : Continues monitor world origin state entries)
    (moment : Moment) :
    Continues monitor world origin (state.moveTo moment) entries :=
  hcontinues.congr rfl (State.slot?_congr rfl rfl) rfl

/-- An entry that is no ping leaves the slots alone. -/
theorem note
    (hcontinues : Continues monitor world origin state entries)
    {entry : Entry} (hentry : entry.ping? = none) :
    Continues monitor world origin (state.note entry) (entries ++ [entry]) := by
  have hpings : pingsIn (entries ++ [entry]) = pingsIn entries := by
    simp [pingsIn, hentry]
  constructor
  · simp [State.note, hcontinues.transcript]
  · intro position
    rw [hpings, ← hcontinues.slot?]
    exact State.slot?_congr rfl rfl position
  · exact hcontinues.timeout
  · rw [hpings]
    exact hcontinues.faithful
  · rw [hpings]
    exact hcontinues.counted

theorem tell
    (hcontinues : Continues monitor world origin state entries)
    (callback : Callback) :
    Continues monitor world origin (state.tell monitor callback)
      (entries ++
        [.told state.now.instant callback
          (state.verdict monitor callback)]) := by
  have hreporter :
      Continues monitor world origin
        { state with
          reporter := (monitor.reporter.react state.reporter callback).2 }
        entries :=
    hcontinues.congr rfl (State.slot?_congr rfl rfl) rfl
  exact hreporter.note rfl

theorem ask
    (hcontinues : Continues monitor world origin state entries)
    {callback : Callback} {verdict : Verdict}
    (hask : state.ask monitor callback = (verdict, other)) :
    Continues monitor world origin other
      (entries ++ [.told state.now.instant callback verdict]) := by
  rw [State.ask_eq] at hask
  obtain ⟨rfl, rfl⟩ := Prod.mk.inj hask
  exact hcontinues.tell callback

theorem enter
    (hcontinues : Continues monitor world origin state entries)
    (phase : Phase) :
    ∃ verdict,
      Continues monitor world origin (Run.enter monitor state phase)
        (entries ++ [.told state.now.instant (.phase phase) verdict]) := by
  have hentered :
      Continues monitor world origin
        { state with phase, phaseEntered := state.now.instant } entries :=
    hcontinues.congr rfl (State.slot?_congr rfl rfl) rfl
  exact ⟨_, hentered.tell (.phase phase)⟩

theorem foldl_note
    (hcontinues : Continues monitor world origin state entries)
    (entry : Position → Entry)
    (hentry : ∀ position, (entry position).ping? = none)
    (positions : List Position) :
    Continues monitor world origin
      (positions.foldl (fun state position => state.note (entry position)) state)
      (entries ++ positions.map entry) := by
  induction positions generalizing state entries with
  | nil => simpa using hcontinues
  | cons position positions ih =>
      rw [List.foldl_cons, List.map_cons, List.append_cons]
      exact ih (hcontinues.note (hentry position))

theorem foldl_tell
    (hcontinues : Continues monitor world origin state entries)
    (statuses : List Status) :
    ∃ booted,
      Continues monitor world origin
        (statuses.foldl
          (fun state status => state.tell monitor (.booted status)) state)
        (entries ++ booted) ∧
      booted.map Entry.callback? = statuses.map (some ∘ .booted) := by
  induction statuses generalizing state entries with
  | nil => exact ⟨[], by simpa using hcontinues, rfl⟩
  | cons status statuses ih =>
      obtain ⟨booted, htold, hbooted⟩ := ih (hcontinues.tell (.booted status))
      refine ⟨.told state.now.instant (.booted status)
        (state.verdict monitor (.booted status)) :: booted, ?_, ?_⟩
      · rw [List.foldl_cons, List.append_cons]
        exact htold
      · simp [hbooted, Entry.callback?]

/-- One more ping, of which the slot of its position learns. -/
theorem pinged
    (hcontinues : Continues monitor world origin state entries)
    {ping : Ping}
    (hfaithful : ping.Faithful monitor world origin.watchdog.timeout)
    (hnumber : ∀ slot, state.slot? ping.position = some slot →
      ping.number = slot.calls)
    (htranscript : other.transcript = .pinged ping :: state.transcript)
    (hslot : ∀ position,
      other.slot? position =
        if ping.position = position then
          (state.slot? position).map (·.absorb monitor world ping)
        else state.slot? position)
    (htimeout : other.watchdog.timeout = state.watchdog.timeout) :
    Continues monitor world origin other (entries ++ [.pinged ping]) := by
  constructor
  · simp [htranscript, hcontinues.transcript]
  · intro position
    rw [hslot, hcontinues.slot?, pingsIn_append]
    simp only [pingsIn_pinged_cons, pingsIn_nil]
    by_cases hposition : ping.position = position
    · rw [if_pos hposition, Option.map_map]
      congr 1
      funext slot
      simp [Slot.absorbAll_append, Slot.absorbAll_singleton_self hposition]
    · have hne : ∀ other ∈ [ping], other.position ≠ position := by
        simpa using hposition
      rw [if_neg hposition]
      congr 1
      funext slot
      rw [Slot.absorbAll_append, Slot.absorbAll_of_forall_ne hne]
  · rw [htimeout, hcontinues.timeout]
  · rw [pingsIn_append]
    exact forall_mem_concat hcontinues.faithful hfaithful
  · rw [pingsIn_append]
    apply forall_split_concat hcontinues.counted
    intro slot hslot
    rw [hnumber _ (by rw [hcontinues.slot?, hslot]; rfl),
      Slot.calls_absorbAll]

/-- A ping without a status only counts. -/
theorem recorded
    (hcontinues : Continues monitor world origin state entries)
    {ping : Ping} (hrecorded : Recorded state ping other)
    (hfaithful : ping.Faithful monitor world origin.watchdog.timeout)
    (hstatus : ping.status? = none) :
    Continues monitor world origin other (entries ++ [.pinged ping]) := by
  apply hcontinues.pinged hfaithful hrecorded.number hrecorded.transcript _
    hrecorded.timeout
  intro position
  rw [hrecorded.slot?]
  simp [Slot.absorb, Ping.leftSafeMode, Ping.succeeded, hstatus]

/-- A ping with a status counts, and the slot takes in the status. -/
theorem learned
    (hcontinues : Continues monitor world origin state entries)
    {ping : Ping} (hrecorded : Recorded state ping other)
    (hfaithful : ping.Faithful monitor world origin.watchdog.timeout)
    {position : Position} (hposition : ping.position = position)
    (change : Slot → Slot)
    (hchange : ∀ slot : Slot,
      change { slot with calls := slot.calls + 1 } =
        slot.absorb monitor world ping) :
    Continues monitor world origin (other.modifySlot position change)
      (entries ++ [.pinged ping]) := by
  subst hposition
  apply hcontinues.pinged hfaithful hrecorded.number
  · rw [State.transcript_modifySlot, hrecorded.transcript]
  · intro position
    rw [State.slot?_modifySlot, hrecorded.slot?]
    by_cases heq : ping.position = position
    · simp only [if_pos heq, Option.map_map]
      congr 1
      funext slot
      exact hchange slot
    · simp only [if_neg heq]
  · rw [State.watchdog_modifySlot, hrecorded.timeout]

end Continues

end HealthMonitor
