import HealthMonitor.Proofs.Entries
import Mathlib.Data.List.Induction

/-!
# The flags of the probes

The flag of a probe follows the last beginning or end of a bootstrap that it
was told of.  Callbacks and pings leave it alone, so between the two the flag
does not change.
-/

namespace HealthMonitor

variable {σ : Type}

/-- Whether an entry tells a position that a bootstrap begins or ends. -/
def Entry.tells (entry : Entry) (position : Position) : Bool :=
  match entry with
  | .beganBootstrap other | .endedBootstrap other => other == position
  | _ => false

theorem Entry.tells_of_silent
    {entry : Entry} (hsilent : entry.isSilent = true) (position : Position) :
    entry.tells position = false := by
  cases entry with
  | told instant callback verdict => rfl
  | pinged ping => rfl
  | prepared position => rfl
  | beganBootstrap position => exact nomatch hsilent
  | endedBootstrap position => exact nomatch hsilent

/-- Entries that tell one position nothing of a bootstrap. -/
def Untold (position : Position) (entries : List Entry) : Prop :=
  ∀ entry ∈ entries, entry.tells position = false

theorem Silent.untold
    {entries : List Entry} (hsilent : Silent entries) (position : Position) :
    Untold position entries :=
  fun entry hmem => Entry.tells_of_silent (hsilent entry hmem) position

/-- The flag of a position once some more entries were written. -/
def State.bootedAfter
    (state : State σ) (entries : List Entry) (position : Position) : Bool :=
  State.booted
    { state with transcript := entries.reverse ++ state.transcript } position

namespace State

variable (state : State σ) (entries : List Entry) {position : Position}

theorem booted_eq_bootedAfter
    {origin final : State σ} {entries : List Entry}
    (htranscript : final.transcript = entries.reverse ++ origin.transcript)
    (position : Position) :
    final.booted position = origin.bootedAfter entries position := by
  simp [booted, bootedAfter, htranscript]

theorem bootedAfter_untold
    {entry : Entry} (huntold : entry.tells position = false) :
    state.bootedAfter (entries ++ [entry]) position =
      state.bootedAfter entries position := by
  cases entry with
  | told instant callback verdict => simp [bootedAfter, booted]
  | pinged ping => simp [bootedAfter, booted]
  | prepared position => simp [bootedAfter, booted]
  | beganBootstrap other =>
      have hother : other ≠ position := by simpa [Entry.tells] using huntold
      simp [bootedAfter, booted, hother]
  | endedBootstrap other =>
      have hother : other ≠ position := by simpa [Entry.tells] using huntold
      simp [bootedAfter, booted, hother]

theorem bootedAfter_append_of_untold
    {more : List Entry} (huntold : Untold position more) :
    state.bootedAfter (entries ++ more) position =
      state.bootedAfter entries position := by
  induction more generalizing entries with
  | nil => rw [List.append_nil]
  | cons entry more ih =>
      rw [List.append_cons, ih, bootedAfter_untold]
      · exact huntold entry List.mem_cons_self
      · intro other hmem
        exact huntold other (List.mem_cons_of_mem _ hmem)

theorem bootedAfter_beganBootstrap (other : Position) :
    state.bootedAfter (entries ++ [.beganBootstrap other]) position =
      if other = position then false
      else state.bootedAfter entries position := by
  by_cases heq : other = position
  · simp [bootedAfter, booted, heq, BootFlag.beginBootstrap, BootFlag.clear]
  · simp [bootedAfter, booted, heq]

theorem bootedAfter_endedBootstrap (other : Position) :
    state.bootedAfter (entries ++ [.endedBootstrap other]) position =
      if other = position then true
      else state.bootedAfter entries position := by
  by_cases heq : other = position
  · simp [bootedAfter, booted, heq, BootFlag.endBootstrap, BootFlag.set]
  · simp [bootedAfter, booted, heq]

/-- When several positions are told the same, each of them takes it. -/
theorem bootedAfter_map
    (entry : Position → Entry) (value : Bool)
    (htold : ∀ entries other,
      state.bootedAfter (entries ++ [entry other]) position =
        if other = position then value
        else state.bootedAfter entries position)
    {positions : List Position} (hmem : position ∈ positions) :
    state.bootedAfter (entries ++ positions.map entry) position = value := by
  induction positions using List.reverseRecOn with
  | nil => exact nomatch hmem
  | append_singleton positions last ih =>
      rw [List.map_append, List.map_singleton, ← List.append_assoc, htold]
      by_cases heq : last = position
      · rw [if_pos heq]
      · rw [if_neg heq]
        apply ih
        rcases List.mem_append.mp hmem with hold | hlast
        · exact hold
        · exact absurd (List.mem_singleton.mp hlast).symm heq

/-- What tells a position nothing leaves its calls as they were. -/
theorem bootstrapCalls_of_untold
    {origin final : State σ} {entries : List Entry}
    (htranscript : final.transcript = entries.reverse ++ origin.transcript)
    (huntold : Untold position entries) :
    final.bootstrapCalls position = origin.bootstrapCalls position := by
  have hnone (counts : Entry → Bool)
      (htells : ∀ entry, counts entry = true → entry.tells position = true) :
      entries.countP counts = 0 := by
    rw [List.countP_eq_zero]
    intro entry hmem hcounts
    exact absurd (htells entry hcounts) (by simp [huntold entry hmem])
  simp only [bootstrapCalls, htranscript, List.countP_append,
    List.countP_reverse]
  rw [hnone, hnone, Nat.zero_add, Nat.zero_add]
  · intro entry hcounts
    cases entry with
    | endedBootstrap other => exact hcounts
    | _ => exact nomatch hcounts
  · intro entry hcounts
    cases entry with
    | beganBootstrap other => exact hcounts
    | _ => exact nomatch hcounts

theorem unbooted_of_untold
    {state : State σ} (huntold : Untold position state.transcript) :
    state.bootstrapCalls position = (0, 0) ∧ state.booted position = false := by
  have htranscript :
      state.transcript =
        state.transcript.reverse.reverse ++
          { state with transcript := [] }.transcript := by
    simp
  have hreversed : Untold position state.transcript.reverse :=
    fun entry hmem => huntold entry (List.mem_reverse.mp hmem)
  constructor
  · exact bootstrapCalls_of_untold htranscript hreversed
  · rw [booted_eq_bootedAfter htranscript position]
    exact bootedAfter_append_of_untold { state with transcript := [] } []
      hreversed

end State

end HealthMonitor
