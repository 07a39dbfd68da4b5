import HealthMonitor.Proofs.Contents

/-!
# The account of a run

A run keeps an account: what it has written follows the grammar, and tells what
the run is waiting for.  Each function of the schedule that ends a pass, enters
a phase or resumes one keeps it.
-/

namespace HealthMonitor

variable {σ : Type}

/-- The pass that a phase begins with after a pause. -/
def Pass.first : Phase → Pass
  | .dependencyWait => .dependencies 0 none
  | .bootstrap => .bootstrap 0 none []
  | .live => .live 0 true

/-- What a run has written since `origin`, and where that leaves it. -/
inductive Accounts
    (monitor : Monitor σ) (world : World) (origin : State σ) :
    Run σ → List Entry → Prop
  | ping {state : State σ} {pass : Pass} {entries : List Entry}
      (hcontinues : Continues monitor world origin state entries)
      (hclosed : state.closed = origin.closed)
      (hstanding : Standing monitor world origin state pass entries)
      (hprobe : ∃ probe, monitor.probe? pass.position = some probe) :
      Accounts monitor world origin ⟨state, .ping pass⟩ entries
  | pause {state : State σ} {pass : Pass} {entries : List Entry}
      (hcontinues : Continues monitor world origin state entries)
      (hclosed : state.closed = origin.closed)
      (hstanding : Standing monitor world origin state pass entries)
      (hfirst : pass = Pass.first state.phase) :
      Accounts monitor world origin ⟨state, .pause⟩ entries
  | ended {state : State σ} {exit : RunExit} {entries : List Entry}
      (hcontinues : Continues monitor world origin state entries)
      (hlog : RunLog monitor world origin (some exit) entries) :
      Accounts monitor world origin ⟨state, .ended exit⟩ entries

def Accounted
    (monitor : Monitor σ) (world : World) (origin : State σ)
    (run : Run σ) : Prop :=
  ∃ entries, Accounts monitor world origin run entries

section Schedule

variable {monitor : Monitor σ} {world : World} {origin state : State σ}
  {entries : List Entry}

theorem Accounts.continues
    {run : Run σ} (haccounts : Accounts monitor world origin run entries) :
    Continues monitor world origin run.state entries := by
  cases haccounts with
  | ping hcontinues _ _ _ => exact hcontinues
  | pause hcontinues _ _ _ => exact hcontinues
  | ended hcontinues _ => exact hcontinues

/-- What a run has written is fixed by its transcript. -/
theorem Accounts.of_transcript
    {run : Run σ} (haccounted : Accounted monitor world origin run)
    (htranscript : run.state.transcript = entries.reverse ++ origin.transcript) :
    Accounts monitor world origin run entries := by
  obtain ⟨written, haccounts⟩ := haccounted
  have hsame := haccounts.continues.transcript
  rw [htranscript, List.append_cancel_right_eq, List.reverse_inj] at hsame
  rw [hsame]
  exact haccounts

theorem Standing.interrupted
    {pass : Pass} (hstanding : Standing monitor world origin state pass entries)
    {exit : Option RunExit} {tail : List Entry}
    (hstop : Interrupted origin pass.position pass.isLive exit tail) :
    RunLog monitor world origin exit (entries ++ tail) := by
  cases hstanding with
  | waiting hlog hroom => exact .waiting hlog hroom hstop
  | booting hlog hroom => exact .booting hlog hroom hstop
  | living hlog hroom => exact .living hlog (.stopped hroom hstop)

/-! ## Passes that end -/

/-- A blocked pass leads to a pause, or to the end that its phase has. -/
theorem accounted_blocked
    (hcontinues : Continues monitor world origin state entries)
    (hclosed : state.closed = origin.closed)
    (hstanding :
      Standing monitor world origin state (Pass.first state.phase) entries)
    {blocker : Position}
    (hend : ∀ elapsed last instant verdict,
      RunLog monitor world origin
        (some (.bootstrapTimedOut state.phase (monitor.probeName blocker)
          elapsed last))
        (entries ++ [.told instant (.timedOut state.phase
          (monitor.probeName blocker) last instant) verdict])) :
    Accounted monitor world origin (Run.blocked monitor state blocker) := by
  unfold Run.blocked
  cases monitor.timing.bootstrapLimit with
  | none => exact ⟨entries, .pause hcontinues hclosed hstanding rfl⟩
  | some limit =>
      simp only
      split
      next => exact ⟨entries, .pause hcontinues hclosed hstanding rfl⟩
      next => exact ⟨_, .ended (hcontinues.tell _) (hend _ _ _ _)⟩

theorem accounted_endLive
    {boot : List Entry} {passes : List LivePass} {blocks : List Block}
    (hcontinues : Continues monitor world origin state entries)
    (hclosed : state.closed = origin.closed)
    (hlog : LiveLog monitor world origin boot passes blocks entries)
    (hphase : state.phase = .live)
    (hclean : state.cleanBefore = cleanAfter origin.cleanBefore passes)
    (hfull : blocks.length = monitor.primaries.length) :
    Accounted monitor world origin
      (Run.endLive monitor state (cleanIn blocks)) := by
  have hmarked :
      Continues monitor world origin
        { state with cleanBefore := cleanIn blocks } entries :=
    hcontinues.congr rfl (State.slot?_congr rfl rfl) rfl
  simp only [Run.endLive, hclean]
  split
  next hcompleted =>
    rcases hask : State.ask { state with cleanBefore := cleanIn blocks }
      monitor .cycle with ⟨verdict, asked⟩
    have htold := hmarked.ask hask
    obtain ⟨hphaseAsked, hclosedAsked, hcleanAsked⟩ := State.ask_keeps hask
    cases verdict with
    | stop =>
        have hboth := hcompleted
        rw [Bool.and_eq_true] at hboth
        exact ⟨_, .ended htold
          (.living hlog (.completed hfull hboth.1 hboth.2))⟩
    | proceed =>
        have hnext := hlog.nextPass hfull
          [.told state.now.instant .cycle .proceed]
          (by rw [if_pos hcompleted]; exact ⟨_, rfl⟩)
        have hlive : asked.phase = .live := hphaseAsked.trans hphase
        refine ⟨_, .pause htold (hclosedAsked.trans hclosed)
          (.living hnext (.inl rfl) hlive ?_) ?_⟩
        · simp [hcleanAsked]
        · simp [hlive, Pass.first, cleanIn, pingsOf]
  next hcompleted =>
    have hnext := hlog.nextPass hfull [] (by rw [if_neg hcompleted])
    rw [List.append_nil] at hnext
    refine ⟨_, .pause hmarked hclosed (.living hnext (.inl rfl) hphase ?_) ?_⟩
    · simp
    · simp [hphase, Pass.first, cleanIn, pingsOf]

theorem accounted_goOnLive
    {boot : List Entry} {passes : List LivePass} {current : List Block}
    (hcontinues : Continues monitor world origin state entries)
    (hclosed : state.closed = origin.closed)
    (hlog : LiveLog monitor world origin boot passes current entries)
    (hphase : state.phase = .live)
    (hclean : state.cleanBefore = cleanAfter origin.cleanBefore passes) :
    Accounted monitor world origin
      (Run.goOnLive monitor state current.length (cleanIn current)) := by
  unfold Run.goOnLive
  split
  next hrange =>
    exact ⟨entries, .ping hcontinues hclosed
      (.living hlog (.inr hrange) hphase hclean)
      ⟨_, List.getElem?_eq_getElem hrange⟩⟩
  next hrange =>
    have hfull : current.length = monitor.primaries.length := by
      have hbound := hlog.bound
      omega
    exact accounted_endLive hcontinues hclosed hlog hphase hclean hfull

theorem accounted_enterLive
    {boot : List Entry} {pass : List Ping}
    (hcontinues : Continues monitor world origin state entries)
    (hclosed : state.closed = origin.closed)
    (hclean : state.cleanBefore = origin.cleanBefore)
    (hbooted : BootedLog monitor world origin boot pass entries) :
    Accounted monitor world origin (Run.enterLive monitor state) := by
  obtain ⟨verdict, hentered⟩ := hcontinues.enter .live
  have hlog :
      LiveLog monitor world origin entries [] []
        (entries ++ [.told state.now.instant (.phase .live) verdict]) :=
    { booted := ⟨boot, pass, hbooted⟩
      written := ⟨state.now.instant, verdict, by simp [liveEntries]⟩
      complete := by simp
      sweep := .nil _ _
      settled := by simp
      bound := Nat.zero_le _ }
  exact accounted_goOnLive hentered hclosed hlog rfl hclean

theorem accounted_endBootstrap
    {wait : List Entry} {passes : List (List Ping)} {pass : List Ping}
    (hcontinues : Continues monitor world origin state entries)
    (hclosed : state.closed = origin.closed)
    (hclean : state.cleanBefore = origin.cleanBefore)
    (hlog : BootLog monitor world origin wait passes pass entries)
    (hfull : pass.length = monitor.primaries.length)
    (hup : downBlocker pass = none) :
    Accounted monitor world origin
      (Run.endBootstrap monitor state (statusesIn .bootstrap pass)) := by
  unfold Run.endBootstrap
  have hended :=
    hcontinues.foldl_note .endedBootstrap (fun _ => rfl)
      monitor.primaryPositions
  obtain ⟨booted, htold, hbooted⟩ :=
    hended.foldl_tell (statusesIn .bootstrap pass)
  rw [List.append_assoc] at htold
  apply accounted_enterLive htold
  · rw [State.foldl_keeps State.closed, State.foldl_keeps State.closed, hclosed]
    · intro state index
      rfl
    · intro state status
      rfl
  · rw [State.foldl_keeps State.cleanBefore,
      State.foldl_keeps State.cleanBefore, hclean]
    · intro state index
      rfl
    · intro state status
      rfl
  · exact
      { bootstrap := ⟨wait, passes, hlog⟩
        full := hfull
        clean := hup
        written := ⟨booted, rfl, hbooted⟩ }

theorem accounted_goOnBootstrap
    {wait : List Entry} {passes : List (List Ping)} {current : List Ping}
    (hcontinues : Continues monitor world origin state entries)
    (hclosed : state.closed = origin.closed)
    (hlog : BootLog monitor world origin wait passes current entries)
    (hphase : state.phase = .bootstrap)
    (hclean : state.cleanBefore = origin.cleanBefore) :
    Accounted monitor world origin
      (Run.goOnBootstrap monitor state current.length (downBlocker current)
        (statusesIn .bootstrap current)) := by
  unfold Run.goOnBootstrap
  split
  next hrange =>
    exact ⟨entries, .ping hcontinues hclosed
      (.booting hlog hrange hphase hclean)
      ⟨_, List.getElem?_eq_getElem hrange⟩⟩
  next hrange =>
    have hfull : current.length = monitor.primaries.length := by
      have hbound := hlog.bound
      omega
    cases hblocker : downBlocker current with
    | none =>
        exact accounted_endBootstrap hcontinues hclosed hclean hlog hfull
          hblocker
    | some blocker =>
        have hnext := hlog.nextPass hfull (by simp [hblocker])
        have hroom : 0 < monitor.primaries.length := by
          rw [← hfull]
          exact length_pos_of_downBlocker hblocker
        apply accounted_blocked hcontinues hclosed
        · rw [hphase]
          exact .booting hnext hroom hphase hclean
        · intro elapsed last instant verdict
          rw [hphase]
          exact .bootTimedOut hlog hfull hblocker

theorem accounted_enterBootstrap
    (hcontinues : Continues monitor world origin state entries)
    (hclosed : state.closed = origin.closed)
    (hclean : state.cleanBefore = origin.cleanBefore)
    (hgate : GateLog monitor world origin entries) :
    Accounted monitor world origin (Run.enterBootstrap monitor state) := by
  unfold Run.enterBootstrap
  obtain ⟨verdict, hentered⟩ := hcontinues.enter .bootstrap
  have hbegan :=
    hentered.foldl_note .beganBootstrap (fun _ => rfl)
      monitor.primaryPositions
  have hlog :
      BootLog monitor world origin entries [] []
        (entries ++ [.told state.now.instant (.phase .bootstrap) verdict] ++
          monitor.primaryPositions.map .beganBootstrap) :=
    { gate := hgate
      written := ⟨state.now.instant, verdict, by
        simp [Monitor.bootstrapEntries]⟩
      complete := by simp
      blocked := by simp
      sweep := .nil _ _
      bound := Nat.zero_le _ }
  apply accounted_goOnBootstrap hbegan _ hlog
  · rw [State.foldl_keeps State.phase]
    · rfl
    · intro state index
      rfl
  · rw [State.foldl_keeps State.cleanBefore]
    · exact hclean
    · intro state index
      rfl
  · rw [State.foldl_keeps State.closed]
    · exact hclosed
    · intro state index
      rfl

theorem accounted_goOnDependencies
    {passes : List (List Ping)} {current : List Ping}
    (hcontinues : Continues monitor world origin state entries)
    (hclosed : state.closed = origin.closed)
    (hlog : WaitLog monitor world origin passes current entries)
    (hphase : state.phase = .dependencyWait)
    (hclean : state.cleanBefore = origin.cleanBefore) :
    Accounted monitor world origin
      (Run.goOnDependencies monitor state current.length
        (gateBlocker monitor world origin passes.flatten current)) := by
  unfold Run.goOnDependencies
  split
  next hrange =>
    exact ⟨entries, .ping hcontinues hclosed
      (.waiting hlog hrange hphase hclean)
      ⟨_, List.getElem?_eq_getElem hrange⟩⟩
  next hrange =>
    have hfull : current.length = monitor.dependencies.length := by
      have hbound := hlog.bound
      omega
    cases hblocker :
        gateBlocker monitor world origin passes.flatten current with
    | none =>
        exact accounted_enterBootstrap hcontinues hclosed hclean
          (.opened hlog hfull hblocker)
    | some blocker =>
        have hnext := hlog.nextPass hfull (by simp [hblocker])
        apply accounted_blocked hcontinues hclosed
        · rw [hphase]
          have hroom := List.length_pos_iff.mpr hlog.nonempty
          exact .waiting hnext hroom hphase hclean
        · intro elapsed last instant verdict
          rw [hphase]
          exact .waitTimedOut hlog hfull hblocker

/-! ## Where a run begins and goes on -/

theorem accounted_begin :
    Accounted monitor world origin (Run.begin monitor origin) := by
  unfold Run.begin
  split
  next hempty =>
    exact accounted_enterBootstrap .refl rfl rfl
      (.skipped (List.isEmpty_iff.mp hempty))
  next hnonempty =>
    obtain ⟨verdict, hentered⟩ :=
      (Continues.refl : Continues monitor world origin origin []).enter
        .dependencyWait
    have hlog :
        WaitLog monitor world origin [] []
          [.told origin.now.instant (.phase .dependencyWait) verdict] :=
      { nonempty := by simpa using hnonempty
        written := ⟨origin.now.instant, verdict, by simp⟩
        complete := by simp
        blocked := by simp
        sweep := .nil _ _
        bound := Nat.zero_le _ }
    exact accounted_goOnDependencies hentered rfl hlog rfl rfl

/-- After a pause the phase goes on with its first pass anew. -/
theorem accounted_resume
    {pass : Pass}
    (hcontinues : Continues monitor world origin state entries)
    (hclosed : state.closed = origin.closed)
    (hstanding : Standing monitor world origin state pass entries)
    (hfirst : pass = Pass.first state.phase) :
    Accounted monitor world origin (Run.resume monitor state) := by
  cases hstanding with
  | waiting hlog hroom hphase hclean =>
      rw [hphase] at hfirst
      simp only [Pass.first, Pass.dependencies.injEq,
        List.length_eq_zero_iff] at hfirst
      obtain ⟨rfl, -⟩ := hfirst
      simp only [Run.resume, hphase]
      exact accounted_goOnDependencies hcontinues hclosed hlog hphase hclean
  | booting hlog hroom hphase hclean =>
      rw [hphase] at hfirst
      simp only [Pass.first, Pass.bootstrap.injEq,
        List.length_eq_zero_iff] at hfirst
      obtain ⟨rfl, -⟩ := hfirst
      simp only [Run.resume, hphase]
      exact accounted_goOnBootstrap hcontinues hclosed hlog hphase hclean
  | living hlog hroom hphase hclean =>
      rw [hphase] at hfirst
      simp only [Pass.first, Pass.live.injEq, List.length_eq_zero_iff] at hfirst
      obtain ⟨rfl, -⟩ := hfirst
      simp only [Run.resume, hphase]
      exact accounted_goOnLive hcontinues hclosed hlog hphase hclean

end Schedule

end HealthMonitor
