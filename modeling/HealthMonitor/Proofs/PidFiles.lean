import HealthMonitor.Probe.Pid
import HealthMonitor.Proofs.Numerals
import Mathlib.Algebra.Group.Nat.Defs

/-!
# Pid files

A pid file names a process by the numeral of a positive number of 31 bits, with any
blanks around it; every other content is refused, and a blank one with an error of
its own (`PidProbe.readPid_eq_ok_iff`, `PidProbe.readPid_eq_empty_iff`).  So a ping
sends one signal at most, the signal zero to the process of that number, and never
one to a group.  The main statement is `pidFile_record`.
-/

namespace HealthMonitor

namespace Text

variable {cs : List Char} {bound : Nat} {value : Int}

/-- A number below a minus sign is not positive. -/
theorem signed?_eq_some_iff_of_pos (hpos : 0 < value) :
    signed? bound cs = some value ↔ ∃ n : Nat, Unsigned cs n ∧ n ≤ bound ∧ value = n := by
  unfold signed?
  split
  next rest =>
    constructor
    · intro hread
      obtain ⟨size, hsize, rfl⟩ := Option.map_eq_some_iff.mp hread
      obtain ⟨n, -, hn⟩ := Option.bind_eq_some_iff.mp hsize
      have hn : (n : Int) = size := Option.some.inj hn
      omega
    · rintro ⟨n, hnumeral, -, -⟩
      exact absurd List.mem_cons_self (hnumeral.notMem rfl (by decide))
  next =>
    simp only [Option.map_eq_some_iff, unsigned?_eq_some_iff]
    constructor
    · rintro ⟨n, ⟨hnumeral, hbound⟩, rfl⟩
      exact ⟨n, hnumeral, hbound, rfl⟩
    · rintro ⟨n, hnumeral, hbound, rfl⟩
      exact ⟨n, ⟨hnumeral, hbound⟩, rfl⟩

theorem trimmed_eq_nil_iff : trimmed cs = [] ↔ ∀ c ∈ cs, isBlank c = true := by
  constructor
  · intro hnil
    obtain ⟨before, after, hcs, hbefore, hafter⟩ := padded_trimmed cs
    rw [hnil, List.append_nil] at hcs
    intro c hc
    exact (List.mem_append.mp (hcs ▸ hc)).elim (hbefore c) (hafter c)
  · intro hblank
    exact trimmed_of_padded nofun ⟨cs, [], by simp, hblank, nofun⟩

end Text

namespace PidProbe

/-! ## The number in a file -/

/-- The content names the process `pid`. -/
def Names (content : String) (pid : Int) : Prop :=
  ∃ body n, Text.Padded body content.toList ∧ Text.Unsigned body n ∧
    1 ≤ n ∧ n ≤ 2 ^ 31 - 1 ∧ pid = (n : Int)

section Content

variable {content : String} {pid : Int}

theorem names_iff_trimmed :
    Names content pid ↔
      ∃ n, Text.Unsigned (Text.trimmed content.toList) n ∧
        1 ≤ n ∧ n ≤ 2 ^ 31 - 1 ∧ pid = (n : Int) := by
  constructor
  · rintro ⟨body, n, hpadded, hnumeral, hpid⟩
    rw [Text.trimmed_of_padded hnumeral.not_blank hpadded]
    exact ⟨n, hnumeral, hpid⟩
  · rintro ⟨n, hnumeral, hpid⟩
    exact ⟨_, n, Text.padded_trimmed _, hnumeral, hpid⟩

theorem Names.pos (hnames : Names content pid) : 0 < pid := by
  obtain ⟨_, n, -, -, hpos, -, rfl⟩ := hnames
  omega

theorem readPid_eq_ok_iff : readPid content = .ok pid ↔ Names content pid := by
  rw [names_iff_trimmed]
  generalize hbody : Text.trimmed content.toList = body
  simp only [readPid, hbody]
  constructor
  · intro hread
    split at hread
    · cases hread
    · split at hread
      next value hvalue =>
        split at hread
        next hpos =>
          cases hread
          obtain ⟨n, hnumeral, hbound, rfl⟩ := (Text.signed?_eq_some_iff_of_pos hpos).mp hvalue
          exact ⟨n, hnumeral, by omega, hbound, rfl⟩
        next => cases hread
      next => cases hread
  · rintro ⟨n, hnumeral, hpos, hbound, rfl⟩
    have hsome : body.isEmpty = false := List.isEmpty_eq_false_iff.mpr hnumeral.ne_nil
    have hpid : 0 < (n : Int) := by omega
    have hread : Text.signed? Text.maxInt32 body = some (n : Int) :=
      (Text.signed?_eq_some_iff_of_pos hpid).mpr ⟨n, hnumeral, hbound, rfl⟩
    simp only [hsome, hread, if_pos hpid, Bool.false_eq_true, if_false]

theorem Names.unique {other : Int} (hnames : Names content pid) (hother : Names content other) :
    pid = other :=
  Except.ok.inj ((readPid_eq_ok_iff.mpr hnames).symm.trans (readPid_eq_ok_iff.mpr hother))

theorem readPid_eq_empty_iff :
    readPid content = .error .empty ↔ ∀ c ∈ content.toList, Text.isBlank c = true := by
  rw [← Text.trimmed_eq_nil_iff, ← List.isEmpty_iff]
  unfold readPid
  dsimp only
  split
  next hempty => exact iff_of_true rfl hempty
  next hsome =>
    refine iff_of_false ?_ hsome
    split
    · split <;> exact nofun
    · exact nofun

/-- Whatever is neither blank nor names a process is told as it stands. -/
theorem readPid_eq_notPid (hnames : ¬∃ pid, Names content pid)
    (hblank : ¬∀ c ∈ content.toList, Text.isBlank c = true) :
    readPid content = .error (.notPid (Text.trim content)) := by
  cases hread : readPid content with
  | ok pid => exact absurd ⟨pid, readPid_eq_ok_iff.mp hread⟩ hnames
  | error error =>
      cases error with
      | empty => exact absurd (readPid_eq_empty_iff.mp hread) hblank
      | notPid text =>
          unfold readPid at hread
          dsimp only at hread
          split at hread
          · cases hread
          · split at hread
            · split at hread <;> cases hread
              rfl
            · cases hread
              rfl

end Content

/-! ## The signals that are sent -/

theorem isRunning_eq_true_iff {kill : Int → Int → SignalReply} {pid : Int} :
    isRunning kill pid = true ↔
      (kill pid 0).returned = 0 ∨ (kill pid 0).lastError = SignalReply.notPermitted := by
  by_cases hsent : (kill pid 0).returned = 0
  · simp [isRunning, SignalReply.isAlive, hsent]
  · simp [isRunning, SignalReply.isAlive, hsent]

/-- `isRunning`, where sending a signal may have an effect. -/
def isRunningBy {m : Type → Type} [Monad m] (kill : Int → Int → m SignalReply) (pid : Int) :
    m Bool := do
  let reply ← kill pid 0
  return reply.isAlive

/-- `ping`, where sending a signal may have an effect. -/
def pingBy {m : Type → Type} [Monad m] (probe : PidProbe)
    (kill : Int → Int → m SignalReply) : Except FileError String → m Status
  | .error .notFound =>
      return .downBecause probe.name "pid file is missing" [FileError.notFound.text]
  | .error error => return .downBecause probe.name "cannot read pid file" [error.text]
  | .ok content =>
      match readPid content with
      | .error error => return .down probe.name error.text
      | .ok pid => do
          let running ← isRunningBy kill pid
          return if running then .up probe.name ("process " ++ toString pid ++ " is running")
            else .down probe.name ("process " ++ toString pid ++ " is not running")

/-- Sends a process a signal, and notes that it did. -/
def noting (kill : Int → Int → SignalReply) (pid signal : Int) :
    StateM (List (Int × Int)) SignalReply :=
  fun sent => (kill pid signal, sent ++ [(pid, signal)])

section Asking

variable {probe : PidProbe} {kill : Int → Int → SignalReply} {content : String} {pid : Int}
  {error : PidError} {file : Except FileError String}

/-- Nothing but the way of sending differs from `ping`. -/
theorem pingBy_id (probe : PidProbe) (kill : Int → Int → SignalReply)
    (file : Except FileError String) :
    pingBy (m := Id) probe kill file = probe.ping kill file := by
  cases file with
  | error error => cases error <;> rfl
  | ok content =>
      simp only [pingBy, ping]
      cases readPid content with
      | error error => rfl
      | ok pid => rfl

theorem pingBy_noting_of_names (hnames : Names content pid) (sent : List (Int × Int)) :
    (probe.pingBy (noting kill) (.ok content)).run sent =
      (probe.ping kill (.ok content), sent ++ [(pid, 0)]) := by
  simp only [pingBy, ping, readPid_eq_ok_iff.mpr hnames]
  rfl

/-- Nothing is sent without a number. -/
theorem pingBy_noting_of_unnamed
    (hunnamed : ∀ content, file = .ok content → ¬∃ pid, Names content pid)
    (sent : List (Int × Int)) :
    (probe.pingBy (noting kill) file).run sent = (probe.ping kill file, sent) := by
  cases file with
  | error error => cases error <;> rfl
  | ok content =>
      cases hread : readPid content with
      | ok pid => exact absurd ⟨pid, readPid_eq_ok_iff.mp hread⟩ (hunnamed content rfl)
      | error error =>
          simp only [pingBy, ping, hread]
          rfl

theorem ping_of_names (hnames : Names content pid) :
    probe.ping kill (.ok content) =
      if isRunning kill pid then .up probe.name ("process " ++ toString pid ++ " is running")
      else .down probe.name ("process " ++ toString pid ++ " is not running") := by
  simp only [ping, readPid_eq_ok_iff.mpr hnames]

theorem success_ping_of_names (hnames : Names content pid) :
    (probe.ping kill (.ok content)).success = isRunning kill pid := by
  rw [ping_of_names hnames]
  cases isRunning kill pid <;> rfl

/-- A file without a number fails the ping, whatever is running. -/
theorem exists_failure_of_unnamed (probe : PidProbe)
    (hunnamed : ∀ content, file = .ok content → ¬∃ pid, Names content pid) :
    ∃ status : Status, status.success = false ∧
      ∀ kill, probe.ping kill file = status := by
  cases file with
  | error error => cases error <;> exact ⟨_, rfl, fun _ => rfl⟩
  | ok content =>
      cases hread : readPid content with
      | ok pid => exact absurd ⟨pid, readPid_eq_ok_iff.mp hread⟩ (hunnamed content rfl)
      | error error =>
          refine ⟨.down probe.name error.text, rfl, fun kill => ?_⟩
          simp only [ping, hread]

end Asking

/-! ## The account of a file and its ping -/

/-- What the content of a pid file is read as. -/
structure ContentRecord (content : String) : Prop where
  named : ∀ pid, readPid content = .ok pid ↔ Names content pid
  empty : readPid content = .error .empty ↔ ∀ c ∈ content.toList, Text.isBlank c = true
  emptyText : PidError.empty.text = "pid file is empty"
  junk : (¬∃ pid, Names content pid) → (¬∀ c ∈ content.toList, Text.isBlank c = true) →
    readPid content = .error (.notPid (Text.trim content))
  junkText : ∀ text, (PidError.notPid text).text ≠ PidError.empty.text

/-- Which signals a ping sends, and what it makes of the reply. -/
structure PingRecord (probe : PidProbe) (kill : Int → Int → SignalReply)
    (file : Except FileError String) : Prop where
  /-- The ping that may have effects is the same ping. -/
  same : probe.pingBy (m := Id) kill file = probe.ping kill file
  sent : ∃ sent,
    (probe.pingBy (noting kill) file).run [] = (probe.ping kill file, sent) ∧
      (∀ pid signal, (pid, signal) ∈ sent → 0 < pid ∧ signal = 0) ∧
      (∀ content pid, file = .ok content → Names content pid → sent = [(pid, 0)]) ∧
      ((∀ content, file = .ok content → ¬∃ pid, Names content pid) → sent = [])
  /-- No other reply makes a difference. -/
  alike : ∀ other : Int → Int → SignalReply,
    (∀ pid, 0 < pid → other pid 0 = kill pid 0) → probe.ping other file = probe.ping kill file
  /-- The signal finds that very process, be it someone else's. -/
  up : (probe.ping kill file).success = true ↔
    ∃ content pid, file = .ok content ∧ Names content pid ∧
      ((kill pid 0).returned = 0 ∨ (kill pid 0).lastError = SignalReply.notPermitted)

theorem contentRecord (content : String) : ContentRecord content where
  named _ := readPid_eq_ok_iff
  empty := readPid_eq_empty_iff
  emptyText := rfl
  junk := readPid_eq_notPid
  junkText text := by
    intro hsame
    have hchars : (("pid file holds " ++ Text.quoted text) ++ ", not a process id").toList =
        "pid file is empty".toList := congrArg String.toList hsame
    rw [String.toList_append, String.toList_append, List.append_assoc] at hchars
    -- The messages begin alike, so that more than a first letter is compared.
    have hstart : "pid file holds ".toList <+: "pid file is empty".toList := ⟨_, hchars⟩
    exact absurd hstart (by decide)

theorem pingRecord (probe : PidProbe) (kill : Int → Int → SignalReply)
    (file : Except FileError String) : PingRecord probe kill file := by
  by_cases hnamed : ∃ content pid, file = .ok content ∧ Names content pid
  · obtain ⟨content, pid, rfl, hnames⟩ := hnamed
    constructor
    case same => exact pingBy_id probe kill _
    case sent =>
      refine ⟨[(pid, 0)], pingBy_noting_of_names hnames [], ?_, ?_, ?_⟩
      · intro other signal hmem
        obtain ⟨rfl, rfl⟩ := Prod.mk.inj (List.mem_singleton.mp hmem)
        exact ⟨hnames.pos, rfl⟩
      · intro other found hfile hfound
        obtain rfl := Except.ok.inj hfile
        rw [hnames.unique hfound]
      · intro hunnamed
        exact absurd ⟨pid, hnames⟩ (hunnamed content rfl)
    case alike =>
      intro other hother
      rw [ping_of_names hnames, ping_of_names hnames, isRunning, isRunning,
        hother pid hnames.pos]
    case up =>
      rw [success_ping_of_names hnames, isRunning_eq_true_iff]
      constructor
      · intro halive
        exact ⟨content, pid, rfl, hnames, halive⟩
      · rintro ⟨other, found, hfile, hfound, halive⟩
        obtain rfl := Except.ok.inj hfile
        rwa [hnames.unique hfound]
  · have hunnamed : ∀ content, file = .ok content → ¬∃ pid, Names content pid := by
      rintro content hfile ⟨pid, hnames⟩
      exact hnamed ⟨content, pid, hfile, hnames⟩
    obtain ⟨status, hfailed, hping⟩ := exists_failure_of_unnamed probe hunnamed
    constructor
    case same => exact pingBy_id probe kill _
    case sent =>
      refine ⟨[], pingBy_noting_of_unnamed hunnamed [], nofun, ?_, fun _ => rfl⟩
      intro content pid hfile hnames
      exact absurd ⟨pid, hnames⟩ (hunnamed content hfile)
    case alike =>
      intro other _
      rw [hping, hping]
    case up =>
      rw [hping, hfailed]
      refine iff_of_false Bool.false_ne_true ?_
      rintro ⟨content, pid, hfile, hnames, -⟩
      exact hunnamed content hfile ⟨pid, hnames⟩

end PidProbe

/-- Exactly the numerals of processes are read from a pid file, and only the process
that is named is sent a signal, which has to find it. -/
theorem pidFile_record :
    (∀ content, PidProbe.ContentRecord content) ∧
      ∀ probe kill file, PidProbe.PingRecord probe kill file :=
  ⟨PidProbe.contentRecord, PidProbe.pingRecord⟩

example : PidProbe.readPid "\t+0042\n" = .ok 42 := by rfl

end HealthMonitor
