import HealthMonitor.Duration
import HealthMonitor.Error

/-!
# Timing of a monitor

How often a monitor asks its probes, how long it waits for an answer, how
long its service may take to come up, all in milliseconds, and what it makes
of a dependency that goes back into safe mode.
-/

namespace HealthMonitor

/-- What a dependency in safe mode means for the gate. -/
inductive SafeModePolicy where
  /-- A dependency in safe mode never satisfies the gate. -/
  | strict
  /-- One that was seen out of safe mode before is taken as ready. -/
  | ignoreReentry
  deriving DecidableEq, Repr, Inhabited

namespace SafeModePolicy

def text : SafeModePolicy → String
  | strict => "strict"
  | ignoreReentry => "ignore-reentry"

def ofText? : String → Option SafeModePolicy
  | "strict" => some strict
  | "ignore-reentry" => some ignoreReentry
  | _ => none

end SafeModePolicy

structure Timing where
  /-- The pause between two passes over the probes. -/
  probeInterval : Nat := 2000
  /-- The least time between two heartbeats. -/
  reportInterval : Nat := 10000
  /-- How long one call of a probe may take. -/
  probeTimeout : Nat := 60000
  /-- How long a phase before live may take, if that is limited. -/
  bootstrapLimit : Option Nat := none
  policy : SafeModePolicy := .ignoreReentry
  deriving DecidableEq, Repr, Inhabited

namespace Timing

/-- A timing in milliseconds, where a limit below zero is no limit. -/
def ofMillis (probeInterval reportInterval probeTimeout : Nat) (bootstrapLimit : Int) :
    Timing :=
  { probeInterval, reportInterval, probeTimeout
    bootstrapLimit := if bootstrapLimit < 0 then none else some bootstrapLimit.toNat }

/-- The first reason why a monitor cannot run with this timing: it would not
pause between passes, or give up on every call at once. -/
def fault? (timing : Timing) : Option String :=
  if timing.probeInterval = 0 then some "probe interval must be positive"
  else if timing.probeTimeout = 0 then some "probe timeout must be positive"
  else none

def validate (timing : Timing) : Except SettingsError Unit :=
  match timing.fault? with
  | some reason => .error (.invalid reason)
  | none => .ok ()

/-- A timing that a monitor runs with. -/
def Valid (timing : Timing) : Prop :=
  0 < timing.probeInterval ∧ 0 < timing.probeTimeout

theorem validate_eq_ok_iff {timing : Timing} : timing.validate = .ok () ↔ timing.Valid := by
  unfold validate fault? Valid
  by_cases hinterval : timing.probeInterval = 0
  · simp [hinterval]
  · by_cases htimeout : timing.probeTimeout = 0
    · simp [hinterval, htimeout]
    · simp [hinterval, htimeout, Nat.pos_of_ne_zero hinterval, Nat.pos_of_ne_zero htimeout]

end Timing

/-- The duration that a setting writes, or its default when it is absent. -/
def durationSetting (key : String) (value : Option String) (default : Nat) :
    Except SettingsError Nat :=
  match value with
  | none => .ok default
  | some text =>
      match Duration.ofText? text with
      | some d => .ok d
      | none => .error (.duration key text)

/-- The limit that a setting writes; an absent one is no limit. -/
def limitSetting (key : String) (value : Option String) :
    Except SettingsError (Option Nat) :=
  match value with
  | none => .ok none
  | some text =>
      match Duration.limitOfText? text with
      | some limit => .ok limit
      | none => .error (.duration key text)

end HealthMonitor
