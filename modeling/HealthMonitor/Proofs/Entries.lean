import HealthMonitor.Lifecycle

/-!
# Reading a transcript

The transcript of a state has its newest entry first.  What happened since an
earlier state is read in the order of time, and gives a list of pings and a
list of callbacks.  A sweep is a list of pings over the first probes of a list,
one for each, all of which let the run go on.
-/

namespace HealthMonitor

variable {σ : Type}

/-! ## Lists that grow at their end -/

theorem forall_mem_concat
    {α : Type} {P : α → Prop} {items : List α} {last : α}
    (hold : ∀ item ∈ items, P item) (hlast : P last) :
    ∀ item ∈ items ++ [last], P item :=
  List.forall_mem_append.mpr ⟨hold, List.forall_mem_singleton.mpr hlast⟩

/-- Wherever a list that grew is split, the split is at its new end or it is one
of the list before. -/
theorem concat_split
    {α : Type} {items before after : List α} {item last : α}
    (hsplit : items ++ [last] = before ++ item :: after) :
    (after = [] ∧ before = items ∧ item = last) ∨
      ∃ rest, after = rest ++ [last] ∧ items = before ++ item :: rest := by
  rcases List.eq_nil_or_concat after with rfl | ⟨rest, final, rfl⟩
  · obtain ⟨hitems, hlast⟩ := List.append_singleton_inj.mp hsplit
    exact .inl ⟨rfl, hitems.symm, hlast.symm⟩
  · rw [List.concat_eq_append, ← List.cons_append, ← List.append_assoc]
      at hsplit
    obtain ⟨hitems, hlast⟩ := List.append_singleton_inj.mp hsplit
    exact .inr ⟨rest, by simp [hlast], hitems⟩

/-- What holds of each item with those before it goes on to hold when the list
grows. -/
theorem forall_split_concat
    {α : Type} {P : List α → α → Prop} {items : List α} {last : α}
    (hold : ∀ before item after,
      items = before ++ item :: after → P before item)
    (hlast : P items last) :
    ∀ before item after,
      items ++ [last] = before ++ item :: after → P before item := by
  intro before item after hsplit
  rcases concat_split hsplit with ⟨-, rfl, rfl⟩ | ⟨rest, -, hitems⟩
  · exact hlast
  · exact hold before item rest hitems

theorem forall_split_append
    {α : Type} {P : List α → α → Prop} {items more : List α}
    (hold : ∀ before item after,
      items = before ++ item :: after → P before item)
    (hmore : ∀ before item after,
      more = before ++ item :: after → P (items ++ before) item) :
    ∀ before item after,
      items ++ more = before ++ item :: after → P before item := by
  induction more generalizing items with
  | nil => simpa using hold
  | cons last more ih =>
      have hlast : P items last := by simpa using hmore [] last more rfl
      rw [List.append_cons]
      apply ih (forall_split_concat hold hlast)
      intro before item after hsplit
      have hitem := hmore (last :: before) item after (by simp [hsplit])
      simpa using hitem

/-- Where an item stands in a list made of groups, it stands in one of them. -/
theorem flatMap_split
    {α β : Type} {group : α → List β} {items : List α} {before after : List β}
    {item : β} (hsplit : items.flatMap group = before ++ item :: after) :
    ∃ front found back left right,
      items = front ++ found :: back ∧ group found = left ++ item :: right ∧
        before = front.flatMap group ++ left ∧
        after = right ++ back.flatMap group := by
  induction items generalizing before with
  | nil => simp at hsplit
  | cons first items ih =>
      rw [List.flatMap_cons, List.append_eq_append_iff] at hsplit
      rcases hsplit with ⟨later, rfl, hlater⟩ | ⟨rest, hfirst, hrest⟩
      · obtain ⟨front, found, back, left, right, rfl, hfound, rfl, rfl⟩ :=
          ih hlater
        exact ⟨first :: front, found, back, left, right, by simp, hfound,
          by simp, rfl⟩
      · cases rest with
        | nil =>
            have hlater : items.flatMap group = [] ++ item :: after := by
              simpa using hrest.symm
            obtain ⟨front, found, back, left, right, rfl, hfound, hleft, rfl⟩ :=
              ih hlater
            refine ⟨first :: front, found, back, left, right, by simp, hfound,
              ?_, rfl⟩
            rw [List.flatMap_cons, List.append_assoc, ← hleft, hfirst]
            simp
        | cons head rest =>
            obtain ⟨rfl, rfl⟩ := List.cons.inj hrest
            exact ⟨[], first, items, before, rest, rfl, hfirst, by simp, rfl⟩

/-- Two ways to split one list are the same, or each item stands beside the
other. -/
theorem split_cases
    {α : Type} {front back left right : List α} {item found : α}
    (hsplit : front ++ item :: back = left ++ found :: right) :
    (left = front ∧ found = item ∧ right = back) ∨ found ∈ back ∨
      (found ∈ front ∧ item ∈ right) := by
  rcases List.append_eq_append_iff.mp hsplit with
    ⟨between, rfl, hitem⟩ | ⟨between, rfl, hfound⟩
  · cases between with
    | nil =>
        obtain ⟨rfl, rfl⟩ := List.cons.inj hitem
        exact .inl ⟨by simp, rfl, rfl⟩
    | cons first between =>
        obtain ⟨rfl, rfl⟩ := List.cons.inj hitem
        exact .inr (.inl (by simp))
  · cases between with
    | nil =>
        obtain ⟨rfl, rfl⟩ := List.cons.inj hfound
        exact .inl ⟨by simp, rfl, rfl⟩
    | cons first between =>
        obtain ⟨rfl, rfl⟩ := List.cons.inj hfound
        exact .inr (.inr ⟨by simp, by simp⟩)

theorem cons_split_cases
    {α : Type} {back left right : List α} {item found : α}
    (hsplit : item :: back = left ++ found :: right) :
    (left = [] ∧ found = item ∧ right = back) ∨ found ∈ back := by
  rw [← List.nil_append (item :: back)] at hsplit
  rcases split_cases hsplit with hhead | hback | ⟨hfront, -⟩
  · exact .inl hhead
  · exact .inr hback
  · exact nomatch hfront

/-- Where a list that grew is split, the split is in what was there before or in
what came on. -/
theorem append_split
    {α : Type} {items more before after : List α} {item : α}
    (hsplit : items ++ more = before ++ item :: after) :
    (∃ rest, after = rest ++ more ∧ items = before ++ item :: rest) ∨
      ∃ front, before = items ++ front ∧ more = front ++ item :: after := by
  rcases List.append_eq_append_iff.mp hsplit with
    ⟨front, hbefore, hmore⟩ | ⟨rest, hitems, hafter⟩
  · exact .inr ⟨front, hbefore, hmore⟩
  · cases rest with
    | nil => exact .inr ⟨[], by simpa using hitems.symm, hafter.symm⟩
    | cons first rest =>
        obtain ⟨rfl, rfl⟩ := List.cons.inj hafter
        exact .inl ⟨rest, rfl, hitems⟩

/-- What the last of some items tells, of those that `read` can read. -/
def lastOf? {α β : Type} (read : α → Option β) (items : List α) : Option β :=
  (items.filterMap read).getLast?

section LastOf

variable {α β : Type} {read : α → Option β} {items : List α} {found : β}

theorem lastOf?_append (read : α → Option β) (items more : List α) :
    lastOf? read (items ++ more) =
      (lastOf? read more).or (lastOf? read items) := by
  rw [lastOf?, List.filterMap_append, List.getLast?_append]
  rfl

theorem lastOf?_singleton (read : α → Option β) (item : α) :
    lastOf? read [item] = read item := by
  cases hread : read item with
  | none => simp [lastOf?, hread]
  | some found => simp [lastOf?, hread]

theorem lastOf?_eq_none_iff :
    lastOf? read items = none ↔ ∀ item ∈ items, read item = none := by
  rw [lastOf?, List.getLast?_eq_none_iff, List.filterMap_eq_nil_iff]

theorem exists_of_lastOf? (hlast : lastOf? read items = some found) :
    ∃ item ∈ items, read item = some found :=
  List.mem_filterMap.mp (List.mem_of_getLast? hlast)

end LastOf

/-! ## Pings -/

namespace Ping

/-- The status that came in, if one did in time. -/
def status? (ping : Ping) : Option Status :=
  match ping.outcome with
  | some (.completed status) => some status
  | _ => none

def succeeded (ping : Ping) : Bool :=
  ping.status?.any (·.success)

/-- The ping came in or timed out; it was neither aborted nor cut short. -/
def Answered (ping : Ping) : Prop :=
  (∃ status, ping.outcome = some (.completed status)) ∨
    ping.outcome = some .timedOut

/-- The phase that a ping belongs to. -/
def phase (ping : Ping) : Phase :=
  match ping.position, ping.live with
  | .dependency _, _ => .dependencyWait
  | .primary _, false => .bootstrap
  | .primary _, true => .live

theorem status?_of_completed
    {ping : Ping} {status : Status}
    (houtcome : ping.outcome = some (.completed status)) :
    ping.status? = some status := by
  simp [status?, houtcome]

theorem status?_of_timedOut
    {ping : Ping} (houtcome : ping.outcome = some .timedOut) :
    ping.status? = none := by
  simp [status?, houtcome]

theorem outcome_of_status?
    {ping : Ping} {status : Status} (hstatus : ping.status? = some status) :
    ping.outcome = some (.completed status) := by
  unfold status? at hstatus
  split at hstatus
  next found houtcome =>
    simp only [Option.some.injEq] at hstatus
    subst found
    exact houtcome
  next => simp at hstatus

theorem succeeded_of_completed
    {ping : Ping} {status : Status}
    (houtcome : ping.outcome = some (.completed status)) :
    ping.succeeded = status.success := by
  simp [succeeded, status?_of_completed houtcome]

theorem succeeded_of_timedOut
    {ping : Ping} (houtcome : ping.outcome = some .timedOut) :
    ping.succeeded = false := by
  simp [succeeded, status?_of_timedOut houtcome]

theorem not_answered_of_none
    {ping : Ping} (houtcome : ping.outcome = none) : ¬ping.Answered := by
  simp [Answered, houtcome]

theorem not_answered_of_aborted
    {ping : Ping} {abort : Abort}
    (houtcome : ping.outcome = some (.aborted abort)) : ¬ping.Answered := by
  simp [Answered, houtcome]

theorem exists_status_of_succeeded
    {ping : Ping} (hsucceeded : ping.succeeded = true) :
    ∃ status, ping.outcome = some (.completed status) ∧
      status.success = true := by
  unfold succeeded at hsucceeded
  cases hstatus : ping.status? with
  | none =>
      simp [hstatus] at hsucceeded
  | some status =>
      exact ⟨status, outcome_of_status? hstatus,
        by simpa [hstatus] using hsucceeded⟩

end Ping

/-! ## Entries -/

namespace Entry

def ping? : Entry → Option Ping
  | pinged ping => some ping
  | _ => none

def callback? : Entry → Option Callback
  | told _ callback _ => some callback
  | _ => none

theorem eq_pinged
    {entry : Entry} {ping : Ping} (hping : entry.ping? = some ping) :
    entry = .pinged ping := by
  cases entry with
  | pinged found => exact congrArg pinged (Option.some.inj hping)
  | told instant callback verdict => exact nomatch hping
  | prepared position => exact nomatch hping
  | beganBootstrap position => exact nomatch hping
  | endedBootstrap position => exact nomatch hping

/-- Neither a beginning nor an end of a bootstrap, nor a preparation. -/
def isSilent : Entry → Bool
  | told .. | pinged _ => true
  | _ => false

end Entry

/-- Entries that tell no probe anything. -/
def Silent (entries : List Entry) : Prop :=
  ∀ entry ∈ entries, entry.isSilent = true

def pingsIn (entries : List Entry) : List Ping :=
  entries.filterMap Entry.ping?

def callbacksIn (entries : List Entry) : List Callback :=
  entries.filterMap Entry.callback?

section Reading

variable (entries more : List Entry)

@[simp] theorem pingsIn_nil : pingsIn [] = [] := rfl

@[simp] theorem pingsIn_append :
    pingsIn (entries ++ more) = pingsIn entries ++ pingsIn more := by
  simp [pingsIn]

@[simp] theorem pingsIn_pinged_cons (ping : Ping) :
    pingsIn (.pinged ping :: entries) = ping :: pingsIn entries := rfl

@[simp] theorem pingsIn_told_cons
    (instant : Nat) (callback : Callback) (verdict : Verdict) :
    pingsIn (.told instant callback verdict :: entries) = pingsIn entries := rfl

@[simp] theorem pingsIn_map_pinged (pings : List Ping) :
    pingsIn (pings.map .pinged) = pings := by
  induction pings with
  | nil => rfl
  | cons ping pings ih => simp [ih]

@[simp] theorem pingsIn_map_beganBootstrap (positions : List Position) :
    pingsIn (positions.map .beganBootstrap) = [] := by
  simp [pingsIn, List.filterMap_eq_nil_iff, Entry.ping?]

@[simp] theorem pingsIn_map_endedBootstrap (positions : List Position) :
    pingsIn (positions.map .endedBootstrap) = [] := by
  simp [pingsIn, List.filterMap_eq_nil_iff, Entry.ping?]

@[simp] theorem callbacksIn_nil : callbacksIn [] = [] := rfl

@[simp] theorem callbacksIn_append :
    callbacksIn (entries ++ more) =
      callbacksIn entries ++ callbacksIn more := by
  simp [callbacksIn]

@[simp] theorem callbacksIn_pinged_cons (ping : Ping) :
    callbacksIn (.pinged ping :: entries) = callbacksIn entries := rfl

@[simp] theorem callbacksIn_told_cons
    (instant : Nat) (callback : Callback) (verdict : Verdict) :
    callbacksIn (.told instant callback verdict :: entries) =
      callback :: callbacksIn entries := rfl

@[simp] theorem callbacksIn_map_pinged (pings : List Ping) :
    callbacksIn (pings.map .pinged) = [] := by
  simp [callbacksIn, List.filterMap_eq_nil_iff, Entry.callback?]

@[simp] theorem callbacksIn_map_beganBootstrap (positions : List Position) :
    callbacksIn (positions.map .beganBootstrap) = [] := by
  simp [callbacksIn, List.filterMap_eq_nil_iff, Entry.callback?]

@[simp] theorem callbacksIn_map_endedBootstrap (positions : List Position) :
    callbacksIn (positions.map .endedBootstrap) = [] := by
  simp [callbacksIn, List.filterMap_eq_nil_iff, Entry.callback?]

theorem pingsIn_flatMap {α : Type} (items : List α) (write : α → List Entry) :
    pingsIn (items.flatMap write) =
      items.flatMap fun item => pingsIn (write item) :=
  List.filterMap_flatMap

theorem pinged_mem_iff {ping : Ping} {entries : List Entry} :
    .pinged ping ∈ entries ↔ ping ∈ pingsIn entries := by
  rw [pingsIn, List.mem_filterMap]
  constructor
  · exact fun hmem => ⟨_, hmem, rfl⟩
  · rintro ⟨entry, hmem, hping⟩
    exact Entry.eq_pinged hping ▸ hmem

/-- Where a ping stands among the pings of some entries, it was written. -/
theorem pingsIn_split
    {entries : List Entry} {before after : List Ping} {ping : Ping}
    (hsplit : pingsIn entries = before ++ ping :: after) :
    ∃ front back, entries = front ++ .pinged ping :: back ∧
      pingsIn front = before ∧ pingsIn back = after := by
  obtain ⟨front, rest, rfl, hfront, hrest⟩ :=
    List.filterMap_eq_append_iff.mp hsplit
  obtain ⟨quiet, entry, back, rfl, hquiet, hentry, hback⟩ :=
    List.filterMap_eq_cons_iff.mp hrest
  obtain rfl := Entry.eq_pinged hentry
  refine ⟨front ++ quiet, back, by simp, ?_, hback⟩
  have hnone : pingsIn quiet = [] := List.filterMap_eq_nil_iff.mpr hquiet
  rw [pingsIn_append, hnone, List.append_nil]
  exact hfront

theorem callbacksIn_flatMap
    {α : Type} (items : List α) (write : α → List Entry) :
    callbacksIn (items.flatMap write) =
      items.flatMap fun item => callbacksIn (write item) :=
  List.filterMap_flatMap

end Reading

theorem Silent.append
    {entries more : List Entry} (hsilent : Silent entries)
    (hmore : Silent more) :
    Silent (entries ++ more) := by
  exact List.forall_mem_append.mpr ⟨hsilent, hmore⟩

theorem Silent.of_append
    {entries more : List Entry} (hsilent : Silent (entries ++ more)) :
    Silent entries :=
  fun entry hmem => hsilent entry (List.mem_append_left _ hmem)

theorem Silent.unbegun
    {entries : List Entry} (hsilent : Silent entries) (position : Position) :
    .beganBootstrap position ∉ entries :=
  fun hmem => nomatch hsilent _ hmem

theorem silent_map_pinged (pings : List Ping) : Silent (pings.map .pinged) := by
  intro entry hmem
  obtain ⟨ping, -, rfl⟩ := List.mem_map.mp hmem
  rfl

theorem silent_told
    (instant : Nat) (callback : Callback) (verdict : Verdict) :
    Silent [.told instant callback verdict] := by
  simp [Silent, Entry.isSilent]

/-- What happened since an earlier state, the oldest entry first. -/
def State.since (state origin : State σ) : List Entry :=
  (state.transcript.take
    (state.transcript.length - origin.transcript.length)).reverse

theorem State.since_eq
    {state origin : State σ} {entries : List Entry}
    (htranscript : state.transcript = entries.reverse ++ origin.transcript) :
    state.since origin = entries := by
  simp [State.since, htranscript]

/-! ## Sweeps -/

/-- Pings of the first probes of a list, one for each and in order, all of
which came in or timed out. -/
structure Sweep
    (place : Nat → Position) (live : Bool) (pings : List Ping) : Prop where
  positions :
    pings.map (·.position) = (List.range pings.length).map place
  live : ∀ ping ∈ pings, ping.live = live
  answered : ∀ ping ∈ pings, ping.Answered

/-- A sweep of `count` places that was cut short: the pings of the first places,
and where all places have one, a ping without an answer. -/
structure CutSweep
    (place : Nat → Position) (live : Bool) (count : Nat) (pings : List Ping) :
    Prop where
  positions :
    pings.map (·.position) = (List.range pings.length).map place
  live : ∀ ping ∈ pings, ping.live = live
  bound : pings.length ≤ count
  short : pings.length = count → ∃ ping ∈ pings, ¬ping.Answered

theorem Sweep.nil (place : Nat → Position) (live : Bool) :
    Sweep place live [] := by
  constructor <;> simp

theorem Sweep.append
    {place : Nat → Position} {live : Bool} {pings : List Ping}
    (hsweep : Sweep place live pings) {ping : Ping}
    (hposition : ping.position = place pings.length)
    (hlive : ping.live = live) (hanswered : ping.Answered) :
    Sweep place live (pings ++ [ping]) := by
  constructor
  · simp [List.range_succ, hsweep.positions, hposition]
  · exact forall_mem_concat hsweep.live hlive
  · exact forall_mem_concat hsweep.answered hanswered

theorem Sweep.exists_place
    {place : Nat → Position} {live : Bool} {pings : List Ping}
    (hsweep : Sweep place live pings) {ping : Ping} (hmem : ping ∈ pings) :
    ∃ index, index < pings.length ∧ ping.position = place index := by
  have hposition : ping.position ∈ (List.range pings.length).map place := by
    rw [← hsweep.positions]
    exact List.mem_map.mpr ⟨ping, hmem, rfl⟩
  obtain ⟨index, hindex, heq⟩ := List.mem_map.mp hposition
  exact ⟨index, List.mem_range.mp hindex, heq.symm⟩

theorem Sweep.exists_index
    {place : Nat → Position} {live : Bool} {pings : List Ping}
    (hsweep : Sweep place live pings) :
    ∀ ping ∈ pings, ∃ index, ping.position = place index := by
  intro ping hmem
  obtain ⟨index, -, hposition⟩ := hsweep.exists_place hmem
  exact ⟨index, hposition⟩

theorem sweeps_pings
    {place : Nat → Position} {live : Bool} {count : Nat}
    {passes : List (List Ping)} {current : List Ping}
    (hcomplete : ∀ pass ∈ passes, Sweep place live pass ∧ pass.length = count)
    (hsweep : Sweep place live current) :
    ∀ ping ∈ passes.flatten ++ current,
      ping.live = live ∧ ∃ index, ping.position = place index := by
  intro ping hmem
  rcases List.mem_append.mp hmem with hpasses | hcurrent
  · obtain ⟨pass, hpass, hping⟩ := List.mem_flatten.mp hpasses
    obtain ⟨hother, -⟩ := hcomplete pass hpass
    exact ⟨hother.live ping hping, hother.exists_index ping hping⟩
  · exact ⟨hsweep.live ping hcurrent, hsweep.exists_index ping hcurrent⟩

theorem Sweep.cut
    {place : Nat → Position} {live : Bool} {pings : List Ping}
    (hsweep : Sweep place live pings) {count : Nat}
    (hroom : pings.length < count) :
    CutSweep place live count pings := by
  constructor
  · exact hsweep.positions
  · exact hsweep.live
  · omega
  · omega

/-- A sweep is cut short by a ping that is not answered. -/
theorem Sweep.cut_append
    {place : Nat → Position} {live : Bool} {pings : List Ping}
    (hsweep : Sweep place live pings) {count : Nat}
    (hroom : pings.length < count) {ping : Ping}
    (hposition : ping.position = place pings.length)
    (hlive : ping.live = live) (hunanswered : ¬ping.Answered) :
    CutSweep place live count (pings ++ [ping]) := by
  constructor
  · simp [List.range_succ, hsweep.positions, hposition]
  · exact forall_mem_concat hsweep.live hlive
  · rw [List.length_append, List.length_singleton]
    omega
  · intro _
    exact ⟨ping, by simp, hunanswered⟩

theorem Sweep.position_getElem?
    {place : Nat → Position} {live : Bool} {pings : List Ping}
    (hsweep : Sweep place live pings) {index : Nat} {ping : Ping}
    (hping : pings[index]? = some ping) :
    ping.position = place index := by
  obtain ⟨hindex, -⟩ := List.getElem?_eq_some_iff.mp hping
  have hposition := congrArg (·[index]?) hsweep.positions
  simpa [hping, List.getElem?_range hindex] using hposition

end HealthMonitor
