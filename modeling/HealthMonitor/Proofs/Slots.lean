import HealthMonitor.Proofs.Sketches

/-!
# Slots in order

A monitor has a slot for each of its probes from when it is built.  Slots are
written to but never emptied, and a run may go live only once every primary has
come in.  What is said here of single changes to a state is put together to whole
runs in `CheckedRuns`.
-/

namespace HealthMonitor

variable {σ : Type}

/-- What a slot may become.  Safe mode can have been left in between only if the
target is watched for it. -/
structure Slot.Grows (watched : Bool) (slot next : Slot) : Prop where
  last : slot.last.isSome = true → next.last.isSome = true
  left : slot.leftSafeMode = true → next.leftSafeMode = true
  watched : next.leftSafeMode = true →
    slot.leftSafeMode = true ∨ watched = true

namespace Monitor

/-- The slots of one state as a later one still has them. -/
structure Remembers (monitor : Monitor σ) (before after : State σ) : Prop where
  dependencies : after.dependencies.length = before.dependencies.length
  primaries : after.primaries.length = before.primaries.length
  slot? : ∀ position,
    Option.Rel (Slot.Grows (monitor.watchesSafeMode position))
      (before.slot? position) (after.slot? position)

/-- A state in which all slots are where they belong and hold what they may. -/
structure Ordered (monitor : Monitor σ) (state : State σ) : Prop where
  dependencies : state.dependencies.length = monitor.dependencies.length
  primaries : state.primaries.length = monitor.primaries.length
  watched : ∀ position slot, state.slot? position = some slot →
    slot.leftSafeMode = true → monitor.watchesSafeMode position = true
  latest : ∀ status, state.latest = some status → status.phase = some .live
  live : state.phase = .live → ∀ index < monitor.primaries.length,
    (state.lastStatus (.primary index)).isSome = true

/-- What is remembered between two states of one phase, if no live status came in
between them. -/
structure Retains (monitor : Monitor σ) (before after : State σ) : Prop
    extends monitor.Remembers before after where
  latest : after.latest = before.latest
  phase : after.phase = before.phase

end Monitor

namespace Pass

/-- The first place that a pass found not ready. -/
def blocker? : Pass → Option Nat
  | dependencies _ blocker | bootstrap _ blocker _ => blocker
  | live .. => none

/-- A pass that belongs to a state.  What it found not ready is behind it, and
if a bootstrap found nothing of the kind then all that is behind it came in. -/
structure Fits (monitor : Monitor σ) (state : State σ) (pass : Pass) :
    Prop where
  phase : pass.phase = state.phase
  index : pass.index ≤ monitor.countIn pass.phase
  blocker : ∀ place, pass.blocker? = some place → place < pass.index
  recorded : pass.phase = .bootstrap → pass.blocker? = none →
    ∀ place < pass.index, (state.lastStatus (.primary place)).isSome = true

end Pass

/-- A run in an ordered state, at a pass that fits it and is not over. -/
structure Run.Ordered (monitor : Monitor σ) (run : Run σ) : Prop where
  state : monitor.Ordered run.state
  awaited : ∀ pass, run.control = .ping pass →
    pass.Fits monitor run.state ∧ pass.index < monitor.countIn pass.phase

/-! ## What is remembered -/

section Growing

variable {watched : Bool} {slot next last : Slot}
  {before? slot? after? : Option Slot}

theorem Slot.Grows.refl : slot.Grows watched slot := ⟨id, id, .inl⟩

theorem Slot.Grows.trans
    (hfirst : slot.Grows watched next) (hsecond : next.Grows watched last) :
    slot.Grows watched last where
  last hlast := hsecond.last (hfirst.last hlast)
  left hleft := hsecond.left (hfirst.left hleft)
  watched hleft := (hsecond.watched hleft).elim hfirst.watched .inr

theorem Slot.rel_trans
    (hfirst : Option.Rel (Slot.Grows watched) before? slot?)
    (hsecond : Option.Rel (Slot.Grows watched) slot? after?) :
    Option.Rel (Slot.Grows watched) before? after? := by
  cases hfirst with
  | none => exact hsecond
  | some hgrows =>
      cases hsecond with
      | some hagain => exact .some (hgrows.trans hagain)

theorem Slot.isSome_last_of_rel
    (hrel : Option.Rel (Slot.Grows watched) before? after?)
    (hlast : (before?.bind (·.last)).isSome = true) :
    (after?.bind (·.last)).isSome = true := by
  cases hrel with
  | none => exact hlast
  | some hgrows => exact hgrows.last hlast

theorem Slot.grows_calls (calls : Nat) :
    slot.Grows watched { slot with calls } := ⟨id, id, .inl⟩

theorem Slot.grows_last (status : Status) :
    slot.Grows watched { slot with last := some status } :=
  ⟨fun _ => rfl, id, .inl⟩

theorem Slot.grows_recordDependency
    (probe : Probe) (status : Status) (safeMode : Bool) :
    slot.Grows probe.hasSafeMode
      (Run.recordDependency probe status safeMode slot) where
  last _ := rfl
  left hleft := by simp [Run.recordDependency, hleft]
  watched hleft := by
    simp only [Run.recordDependency, Bool.or_eq_true, Bool.and_eq_true] at hleft
    exact hleft.imp_right fun hnow => hnow.1.2

end Growing

namespace Monitor

section Remembering

variable {monitor : Monitor σ} {before state after : State σ}

theorem Remembers.of_eq
    (hdependencies : after.dependencies = before.dependencies)
    (hprimaries : after.primaries = before.primaries) :
    monitor.Remembers before after where
  dependencies := congrArg List.length hdependencies
  primaries := congrArg List.length hprimaries
  slot? position := by
    rw [State.slot?_congr hdependencies hprimaries]
    cases before.slot? position with
    | none => exact .none
    | some slot => exact .some .refl

theorem Remembers.refl : monitor.Remembers state state := .of_eq rfl rfl

theorem Remembers.trans
    (hfirst : monitor.Remembers before state)
    (hsecond : monitor.Remembers state after) :
    monitor.Remembers before after where
  dependencies := hsecond.dependencies.trans hfirst.dependencies
  primaries := hsecond.primaries.trans hfirst.primaries
  slot? position :=
    Slot.rel_trans (hfirst.slot? position) (hsecond.slot? position)

theorem Remembers.isSome_lastStatus
    (hremembers : monitor.Remembers before after) {position : Position}
    (hlast : (before.lastStatus position).isSome = true) :
    (after.lastStatus position).isSome = true :=
  Slot.isSome_last_of_rel (hremembers.slot? position) hlast

theorem Retains.of_eq
    (hdependencies : after.dependencies = before.dependencies)
    (hprimaries : after.primaries = before.primaries)
    (hlatest : after.latest = before.latest)
    (hphase : after.phase = before.phase) :
    monitor.Retains before after :=
  ⟨.of_eq hdependencies hprimaries, hlatest, hphase⟩

theorem Retains.refl : monitor.Retains state state := .of_eq rfl rfl rfl rfl

theorem Retains.trans
    (hfirst : monitor.Retains before state)
    (hsecond : monitor.Retains state after) :
    monitor.Retains before after :=
  ⟨hfirst.toRemembers.trans hsecond.toRemembers,
    hsecond.latest.trans hfirst.latest, hsecond.phase.trans hfirst.phase⟩

end Remembering

section Retaining

variable (monitor : Monitor σ) (state : State σ)

theorem retains_note (entry : Entry) : monitor.Retains state (state.note entry) :=
  .of_eq rfl rfl rfl rfl

theorem retains_tell (callback : Callback) :
    monitor.Retains state (state.tell monitor callback) :=
  .of_eq rfl rfl rfl rfl

theorem retains_moveTo (moment : Moment) :
    monitor.Retains state (state.moveTo moment) :=
  .of_eq rfl rfl rfl rfl

variable {monitor} in
theorem retains_foldl
    {α : Type} {change : State σ → α → State σ}
    (hchange : ∀ state item, monitor.Retains state (change state item))
    (items : List α) (state : State σ) :
    monitor.Retains state (items.foldl change state) := by
  induction items generalizing state with
  | nil => exact .refl
  | cons item items ih => exact (hchange state item).trans (ih _)

theorem retains_notes (entry : Position → Entry) (positions : List Position) :
    monitor.Retains state
      (positions.foldl
        (fun state position => state.note (entry position)) state) :=
  retains_foldl
    (fun state position => retains_note monitor state (entry position))
    positions state

theorem retains_prepareFrom (world : World) (positions : List Position) :
    monitor.Retains state (monitor.prepareFrom world positions state).2 := by
  induction positions generalizing state with
  | nil => exact .refl
  | cons position positions ih =>
      have hnoted := monitor.retains_note state (.prepared position)
      simp only [prepareFrom]
      split
      next => exact hnoted
      next => exact hnoted.trans (ih _)

theorem retains_close :
    monitor.Retains state (state.close monitor) := by
  unfold State.close
  split
  next => exact .refl
  next => exact .of_eq rfl rfl rfl rfl

theorem retains_heartbeat :
    monitor.Retains state (Run.heartbeat monitor state) := by
  unfold Run.heartbeat
  simp only
  split
  next => exact .of_eq rfl rfl rfl rfl
  next => exact .refl

theorem retains_modifySlot
    (position : Position) {change : Slot → Slot}
    (hgrows : ∀ slot : Slot,
      slot.Grows (monitor.watchesSafeMode position) (change slot)) :
    monitor.Retains state (state.modifySlot position change) where
  dependencies := by cases position <;> simp [State.modifySlot]
  primaries := by cases position <;> simp [State.modifySlot]
  slot? other := by
    rw [State.slot?_modifySlot]
    by_cases hposition : position = other
    · subst hposition
      rw [if_pos rfl]
      cases state.slot? position with
      | none => exact .none
      | some slot => exact .some (hgrows slot)
    · rw [if_neg hposition]
      exact Remembers.refl.slot? other
  latest := State.latest_modifySlot state position change
  phase := State.phase_modifySlot state position change

theorem retains_recordPing (ping : Ping) :
    monitor.Retains state (Run.recordPing state ping) :=
  (monitor.retains_note state (.pinged ping)).trans
    (retains_modifySlot monitor _ ping.position fun _ => Slot.grows_calls _)

theorem retains_afterAnswer (world : World) (pass : Pass) (probe : Probe) :
    monitor.Retains state (Run.afterAnswer world state pass probe) :=
  (monitor.retains_recordPing state
    (Run.answeredPing world state pass probe)).trans (.of_eq rfl rfl rfl rfl)

/-- A ping that is broken off is counted, but nothing is learnt from it. -/
theorem retains_afterBreak (world : World) (pass : Pass) (moment : Moment) :
    monitor.Retains state (Run.afterBreak world state pass moment) :=
  (monitor.retains_recordPing state _).trans (monitor.retains_moveTo _ moment)

theorem retains_recordPrimary (index : Nat) (status : Status) :
    monitor.Retains state
      (state.modifySlot (.primary index)
        fun slot => { slot with last := some status }) :=
  retains_modifySlot monitor state (.primary index)
    fun _ => Slot.grows_last status

variable {monitor} in
theorem retains_recordDependency
    {index : Nat} {probe : Probe}
    (hprobe : monitor.probe? (.dependency index) = some probe)
    (status : Status) (safeMode : Bool) :
    monitor.Retains state
      (state.modifySlot (.dependency index)
        (Run.recordDependency probe status safeMode)) := by
  have hwatched :
      monitor.watchesSafeMode (.dependency index) = probe.hasSafeMode := by
    have hdependency : monitor.dependencies[index]? = some probe := hprobe
    simp [watchesSafeMode, hdependency]
  apply retains_modifySlot
  intro slot
  rw [hwatched]
  exact Slot.grows_recordDependency probe status safeMode

theorem remembers_enter (phase : Phase) :
    monitor.Remembers state (Run.enter monitor state phase) :=
  .of_eq rfl rfl

theorem remembers_takeResult (index : Nat) (status : Status) :
    monitor.Remembers state (Run.takeResult monitor state index status) :=
  (monitor.retains_recordPrimary state index status).toRemembers.trans
    (.of_eq rfl rfl)

end Retaining

/-! ## What stays in order -/

section Ordering

variable {monitor : Monitor σ} {before state after : State σ}

theorem ordered_built
    {reporter : σ} (hbuilt : monitor.build? reporter = .ok state) :
    monitor.Ordered state where
  dependencies := by rw [build?_eq_ok hbuilt]; exact List.length_map _
  primaries := by rw [build?_eq_ok hbuilt]; exact List.length_map _
  watched position slot hslot hleft := by
    -- Nothing has been learnt yet.
    rw [(Fresh.built hbuilt).slot? position] at hslot
    obtain ⟨probe, -, rfl⟩ := Option.map_eq_some_iff.mp hslot
    exact absurd hleft Bool.false_ne_true
  latest status hlatest := by
    rw [build?_eq_ok hbuilt] at hlatest
    cases hlatest
  live hlive := by
    rw [build?_eq_ok hbuilt] at hlive
    simp only [State.initial] at hlive
    split at hlive
    next => cases hlive
    next => cases hlive

theorem Ordered.isSome_slot?
    (hordered : monitor.Ordered state) (position : Position) :
    (state.slot? position).isSome = (monitor.probe? position).isSome := by
  rw [Bool.eq_iff_iff, Option.isSome_iff_ne_none, Option.isSome_iff_ne_none]
  cases position with
  | dependency index =>
      simp [State.slot?, probe?, hordered.dependencies]
  | primary index => simp [State.slot?, probe?, hordered.primaries]

theorem Ordered.retains
    (hordered : monitor.Ordered before)
    (hretains : monitor.Retains before after) : monitor.Ordered after where
  dependencies := hretains.dependencies.trans hordered.dependencies
  primaries := hretains.primaries.trans hordered.primaries
  watched position slot hslot hleft := by
    have hrel := hretains.slot? position
    rw [hslot] at hrel
    generalize hearlier : before.slot? position = earlier? at hrel
    cases hrel with
    | some hgrows =>
        rcases hgrows.watched hleft with hbefore | hwatched
        · exact hordered.watched position _ hearlier hbefore
        · exact hwatched
  latest := hretains.latest ▸ hordered.latest
  live hphase index hindex :=
    hretains.isSome_lastStatus
      (hordered.live (hretains.phase ▸ hphase) index hindex)

/-- A phase may be entered, and live if all primaries have come in. -/
theorem Ordered.enter
    (hordered : monitor.Ordered state) (phase : Phase)
    (hlive : phase = .live → ∀ index < monitor.primaries.length,
      (state.lastStatus (.primary index)).isSome = true) :
    monitor.Ordered (Run.enter monitor state phase) where
  dependencies := hordered.dependencies
  primaries := hordered.primaries
  watched position slot hslot :=
    hordered.watched position slot
      ((State.slot?_congr rfl rfl position).symm.trans hslot)
  latest := hordered.latest
  live hentered index hindex := hlive hentered index hindex

theorem Ordered.takeResult
    (hordered : monitor.Ordered state) (index : Nat) (status : Status)
    (hlive : status.phase = some .live) :
    monitor.Ordered (Run.takeResult monitor state index status) := by
  have hlearned :=
    hordered.retains (monitor.retains_recordPrimary state index status)
  have hlatest :
      monitor.Ordered
        { state.modifySlot (.primary index)
            (fun slot => { slot with last := some status }) with
          latest := some status } :=
    { hlearned with
      latest := fun other hother => by
        obtain rfl := Option.some.inj hother
        exact hlive }
  exact hlatest.retains (monitor.retains_tell _ (.result .live status))

theorem Ordered.lastStatus_recordPrimary
    (hordered : monitor.Ordered state) {index : Nat} {probe : Probe}
    (hprobe : monitor.probe? (.primary index) = some probe) (status : Status) :
    (state.modifySlot (.primary index)
        fun slot => { slot with last := some status }).lastStatus
      (.primary index) = some status := by
  have hslot := hordered.isSome_slot? (.primary index)
  rw [hprobe, Option.isSome_some] at hslot
  obtain ⟨slot, hslot⟩ := Option.isSome_iff_exists.mp hslot
  rw [State.lastStatus, State.slot?_modifySlot, if_pos rfl, hslot]
  rfl

end Ordering

end Monitor

/-! ## Passes -/

section Fitting

variable {monitor : Monitor σ} {before state after : State σ}
  {pass next : Pass} {run : Run σ}

theorem Pass.Fits.retains
    (hfits : pass.Fits monitor before)
    (hretains : monitor.Retains before after) : pass.Fits monitor after where
  phase := hfits.phase.trans hretains.phase.symm
  index := hfits.index
  blocker := hfits.blocker
  recorded hphase hclear place hplace :=
    hretains.isSome_lastStatus (hfits.recorded hphase hclear place hplace)

theorem Pass.Fits.first
    (hphase : pass.phase = state.phase) (hindex : pass.index = 0)
    (hblocker : pass.blocker? = none) : pass.Fits monitor state where
  phase := hphase
  index := hindex ▸ Nat.zero_le _
  blocker place hplace := by simp [hblocker] at hplace
  recorded _ _ place hplace := by simp [hindex] at hplace

/-- The pass with one more place behind it, which may be the one that blocks. -/
theorem Pass.Fits.advance
    (hfits : pass.Fits monitor state)
    (hrange : pass.index < monitor.countIn pass.phase)
    (hphase : next.phase = pass.phase) (hindex : next.index = pass.index + 1)
    (hblocker : next.blocker? = pass.blocker? ∨
      next.blocker? = pass.blocker?.or (some pass.index))
    (hrecorded : pass.phase = .bootstrap → next.blocker? = none →
      (state.lastStatus (.primary pass.index)).isSome = true) :
    next.Fits monitor state where
  phase := hphase.trans hfits.phase
  index := by rw [hphase, hindex]; exact hrange
  blocker place hplace := by
    rw [hindex]
    cases hbefore : pass.blocker? with
    | some earlier =>
        have hsame : place = earlier := by simpa [hbefore, hplace] using hblocker
        exact Nat.lt_succ_of_lt (hfits.blocker place (hsame ▸ hbefore))
    | none =>
        have hnow : place = pass.index := by simpa [hbefore, hplace] using hblocker
        exact hnow ▸ Nat.lt_succ_self _
  recorded hboot hclear place hplace := by
    rw [hphase] at hboot
    have hbefore : pass.blocker? = none := by
      rw [hclear] at hblocker
      rcases hblocker with hsame | hadded
      · exact hsame.symm
      · simp at hadded
    rcases Nat.lt_succ_iff_lt_or_eq.mp (hindex ▸ hplace) with hearlier | rfl
    · exact hfits.recorded hboot hbefore place hearlier
    · exact hrecorded hboot hclear

end Fitting

end HealthMonitor
