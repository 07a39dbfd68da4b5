import HealthMonitor.Proofs.Drives
import HealthMonitor.Proofs.Plans

/-!
# The monitor command

What the command comes to for settings that were loaded, in the order in which
its stages can fail: the settings of the probes and dependencies, the
preparation of each target, the start, and at last the run.  Nothing is prepared
or started for settings that are not accepted as a whole.  The main statement is
`monitor_record`.
-/

namespace HealthMonitor

/-! ## The command and what its monitor does -/

/-- A command that notes what its monitor does, the oldest first. -/
abbrev Noting (α : Type) : Type :=
  ExceptT CommandError (StateM (List Entry)) α

/-- `Plan.drive`, with what the monitor does. -/
def Plan.driveNoting
    (plan : Plan) (reporter : AnyReporter) (site : Site)
    (signal : ShutdownSignal) (sigterm : Option Nat) (fuel : Nat) :
    Noting (Option RunExit) :=
  fun entries =>
    let driven := (plan.monitor reporter.reporter).drive (plan.world site)
      signal sigterm fuel reporter.initial
    (driven.1.mapError .monitor, entries ++ driven.2.transcript.reverse)

namespace Environment

/-- `Environment.monitor`, with what the monitor does. -/
def monitorNoting
    (environment : Environment) (fuel : Nat) (path : String)
    (name : Option String) : Noting (Option Int) := do
  let settings ← Settings.load path (environment.fileContent path)
  let plan ← settings.plan path name
  let exit ← plan.driveNoting (settings.reporter.reporter environment.listen)
    environment.site environment.signal environment.sigterm fuel
  return exit.map RunExit.code

end Environment

/-- The reporter cannot be started: a server that cannot listen. -/
def ReporterSettings.Refuses
    (settings : ReporterSettings) (listen : String → Except String String) :
    Prop :=
  settings.kind = .rest ∧
    ∃ cause, listen (settings.bind.getD defaultBind) = .error cause

/-- The monitor of a plan with the reporter that settings ask for. -/
def Plan.monitorAt
    (plan : Plan) (settings : ReporterSettings) (environment : Environment) :
    Monitor (settings.reporter environment.listen).σ :=
  plan.monitor (settings.reporter environment.listen).reporter

/-- All that a plan watches, dependencies first. -/
def Plan.targets (plan : Plan) : List Target :=
  plan.dependencies ++ plan.primaries

/-- All targets of a plan can be prepared. -/
def Plan.Preparable (plan : Plan) (names : Net.Names) : Prop :=
  ∀ target ∈ plan.targets, target.prepare names = .ok ()

/-- What a command with an accepted plan comes to and what it does. -/
structure PlanRecord
    (environment : Environment) (fuel : Nat) (settings : ReporterSettings)
    (plan : Plan) (result : Except CommandError (Option Int))
    (entries : List Entry) : Prop where
  /-- The first target that cannot be prepared is the last one that is tried. -/
  unprepared : ∀ before target rest error,
    plan.targets = before ++ target :: rest →
      (∀ earlier ∈ before, earlier.prepare environment.site.names = .ok ()) →
      target.prepare environment.site.names = .error error →
      result = .error (.monitor (.probeInit target.name error)) ∧
        entries = Monitor.preparations
          ((plan.monitorAt settings environment).positions.take
            (before.length + 1))
  refused : plan.Preparable environment.site.names →
    settings.Refuses environment.listen →
      result = .error (.monitor (.reporterRefused plan.name)) ∧
        entries =
          Monitor.preparations
              (plan.monitorAt settings environment).positions ++
            [.told 0 (plan.monitorAt settings environment).opening .stop]
  ran : plan.Preparable environment.site.names →
    ¬settings.Refuses environment.listen →
      ∃ exit final rest,
        (plan.monitorAt settings environment).run
            (plan.world environment.site) (environment.signal.stop? 0) fuel
            ((plan.monitorAt settings environment).readied
              (plan.world environment.site)
              (settings.reporter environment.listen).initial) =
          (.ok exit, final) ∧
        result = .ok (exit.map RunExit.code) ∧
        entries =
          Monitor.preparations
              (plan.monitorAt settings environment).positions ++
            .told 0 (plan.monitorAt settings environment).opening .proceed ::
              rest

/-- What a command comes to whose settings were loaded, and what it does. -/
structure LoadedRecord
    (environment : Environment) (fuel : Nat) (path : String)
    (name : Option String) (settings : Settings)
    (result : Except CommandError (Option Int)) (entries : List Entry) :
    Prop where
  /-- The timing can be resolved once more, -/
  timing : ∃ timing, settings.timing = .ok timing
  /-- and a monitor can be built with it. -/
  built : ∀ {timing}, settings.timing = .ok timing →
    ∀ {σ : Type} (monitor : Monitor σ) (reporter : σ),
      monitor.timing = timing →
        monitor.build? reporter = .ok (.initial monitor reporter)
  rejected : ∀ fault rest, settings.faults path = fault :: rest →
    result = .error fault ∧ entries = []
  accepted : settings.faults path = [] →
    ∃ plan, settings.plan path name = .ok plan ∧
      settings.Describes name plan ∧
      PlanRecord environment fuel settings.reporter plan result entries

/-- What a command comes to and what it does. -/
structure CommandRecord
    (environment : Environment) (fuel : Nat) (path : String)
    (name : Option String) (result : Except CommandError (Option Int))
    (entries : List Entry) : Prop where
  unloaded : ∀ error,
    Settings.load path (environment.fileContent path) = .error error →
      result = .error error ∧ entries = []
  loaded : ∀ settings,
    Settings.load path (environment.fileContent path) = .ok settings →
      LoadedRecord environment fuel path name settings result entries

/-! ## The targets at the positions -/

section Targets

variable {plan : Plan} {site : Site} {σ : Type} {reporter : Reporter σ}

theorem Plan.map_target?_positions (plan : Plan) (reporter : Reporter σ) :
    (plan.monitor reporter).positions.map
        (Site.target? plan.dependencies plan.primaries) =
      plan.targets.map some := by
  rw [Monitor.positions, Monitor.primaryPositions, targets, List.map_append,
    List.map_append, List.map_map, List.map_map,
    ← Monitor.map_getElem?_range, ← Monitor.map_getElem?_range]
  simp only [monitor, List.length_map]
  rfl

variable {position : Position} {target : Target}

theorem Plan.init_eq_none
    (hposition :
      Site.target? plan.dependencies plan.primaries position = some target)
    (hprepared : target.prepare site.names = .ok ()) :
    (plan.world site).init position = none := by
  simp [world, Site.world, Site.fault?, hposition, hprepared]

theorem Plan.init_eq_some
    (hposition :
      Site.target? plan.dependencies plan.primaries position = some target)
    {error : ProbeError} (herror : target.prepare site.names = .error error) :
    (plan.world site).init position = some error := by
  simp [world, Site.world, Site.fault?, hposition, herror]

theorem Plan.probeName_eq
    (reporter : Reporter σ)
    (hposition :
      Site.target? plan.dependencies plan.primaries position = some target) :
    (plan.monitor reporter).probeName position = target.name := by
  have hprobe :
      (plan.monitor reporter).probe? position = some target.probe := by
    cases position <;>
      simpa [monitor, Monitor.probe?, Site.target?] using
        congrArg (Option.map Target.probe) hposition
  rw [Monitor.probeName, hprobe]
  rfl

theorem Plan.Preparable.init_eq_none
    (hpreparable : plan.Preparable site.names) (reporter : Reporter σ) :
    ∀ position ∈ (plan.monitor reporter).positions,
      (plan.world site).init position = none := by
  intro position hmem
  have hfound :
      Site.target? plan.dependencies plan.primaries position ∈
        plan.targets.map some := by
    rw [← plan.map_target?_positions reporter]
    exact List.mem_map_of_mem hmem
  obtain ⟨target, htarget, hposition⟩ := List.mem_map.mp hfound
  exact Plan.init_eq_none hposition.symm (hpreparable target htarget)

/-- The positions of the targets up to the first that cannot be prepared. -/
theorem Plan.exists_first_fault
    (reporter : Reporter σ) {before rest : List Target} {error : ProbeError}
    (hsplit : plan.targets = before ++ target :: rest)
    (hbefore : ∀ earlier ∈ before, earlier.prepare site.names = .ok ())
    (herror : target.prepare site.names = .error error) :
    ∃ front position back,
      (plan.monitor reporter).positions = front ++ position :: back ∧
        front.length = before.length ∧
        (∀ earlier ∈ front, (plan.world site).init earlier = none) ∧
        (plan.world site).init position = some error ∧
        (plan.monitor reporter).probeName position = target.name := by
  have hmapped := plan.map_target?_positions reporter
  rw [hsplit, List.map_append, List.map_cons] at hmapped
  obtain ⟨front, others, hpositions, hfront, hothers⟩ :=
    List.map_eq_append_iff.mp hmapped
  obtain ⟨position, back, rfl, hposition, -⟩ :=
    List.map_eq_cons_iff.mp hothers
  refine ⟨front, position, back, hpositions, ?_, ?_,
    Plan.init_eq_some hposition herror, plan.probeName_eq reporter hposition⟩
  · simpa using congrArg List.length hfront
  · intro earlier hmem
    have hfound :
        Site.target? plan.dependencies plan.primaries earlier ∈
          before.map some := by
      rw [← hfront]
      exact List.mem_map_of_mem hmem
    obtain ⟨found, hmem, hearlier⟩ := List.mem_map.mp hfound
    exact Plan.init_eq_none hearlier.symm (hbefore found hmem)

end Targets

/-! ## The reporter -/

section Reply

variable {settings : ReporterSettings} {environment : Environment}

theorem reply_eq_stop_iff (plan : Plan) :
    (plan.monitorAt settings environment).reply
        (settings.reporter environment.listen).initial = .stop ↔
      settings.Refuses environment.listen := by
  obtain ⟨kind, exitOnFailure, bind, history⟩ := settings
  cases kind with
  | log => exact iff_of_false nofun fun hrefuses => nomatch hrefuses.1
  | rest =>
      change
        (RestReporter.start
          ⟨_, environment.listen (bind.getD ReporterSettings.defaultBind), _⟩
          _ _).1 = .stop ↔ _
      unfold RestReporter.start ReporterSettings.Refuses
      cases environment.listen (bind.getD ReporterSettings.defaultBind) with
      | ok address =>
          refine iff_of_false nofun fun hrefuses => ?_
          obtain ⟨-, cause, hcause⟩ := hrefuses
          exact nomatch hcause
      | error cause => exact iff_of_true rfl ⟨rfl, cause, rfl⟩

/-- Neither reporter answers to a controller, so nothing is waited for. -/
theorem haIntegrated_reporter (listen : String → Except String String) :
    (settings.reporter listen).reporter.haIntegrated = false := by
  rw [ReporterSettings.reporter]
  cases settings.kind <;> rfl

end Reply

/-! ## An accepted plan -/

section Accepted

variable {environment : Environment} {settings : ReporterSettings}
  {plan : Plan}

/-- A monitor whose reporter accepts the start runs, and is closed at once if
the reporter answers to nobody. -/
theorem exists_run_of_reply
    {σ : Type} {monitor : Monitor σ} {world : World} {reporter : σ}
    (signal : ShutdownSignal) (sigterm : Option Nat) (fuel : Nat)
    (hvalid : monitor.timing.Valid)
    (hinit : ∀ position ∈ monitor.positions, world.init position = none)
    (hreply : monitor.reply reporter = .proceed)
    (halone : monitor.reporter.haIntegrated = false) :
    ∃ exit final,
      monitor.run world (signal.stop? 0) fuel (monitor.readied world reporter) =
        (.ok exit, final) ∧
      (monitor.drive world signal sigterm fuel reporter).1 = .ok exit := by
  have hstarted := (Monitor.readied_standing reporter hinit).1
  rw [hreply] at hstarted
  obtain ⟨exit, final, hrun⟩ : ∃ exit final,
      monitor.run world (signal.stop? 0) fuel
        (monitor.readied world reporter) = (.ok exit, final) :=
    ⟨_, _, if_pos hstarted⟩
  refine ⟨exit, final, hrun, ?_⟩
  rw [Monitor.drive_ran hvalid hinit hreply hrun]
  cases exit with
  | none => rfl
  | some exit => simp only [Monitor.closingTime?, halone, Bool.false_and,
      Bool.false_eq_true, if_false]

/-- The command of a plan whose timing is valid. -/
theorem planRecord
    (environment : Environment) (fuel : Nat) (settings : ReporterSettings)
    (hvalid : plan.timing.Valid) {found : Except CommandError (Option RunExit)}
    {entries : List Entry}
    (hdriven :
      (plan.driveNoting (settings.reporter environment.listen)
          environment.site environment.signal environment.sigterm fuel).run
        [] = (found, entries)) :
    PlanRecord environment fuel settings plan
      (found.map fun exit => exit.map RunExit.code) entries := by
  obtain ⟨rfl, rfl⟩ := Prod.mk.inj hdriven
  rw [List.nil_append]
  constructor
  case unprepared =>
    intro before target rest error hsplit hbefore herror
    obtain ⟨front, position, back, hpositions, hlength, hfront, hposition,
        hname⟩ :=
      plan.exists_first_fault (settings.reporter environment.listen).reporter
        hsplit hbefore herror
    have htried :
        (plan.monitorAt settings environment).positions.take
          (before.length + 1) = front ++ [position] := by
      rw [Plan.monitorAt, hpositions, ← hlength, List.take_length_add_append]
      rfl
    rw [Monitor.drive_unprepared hvalid hpositions hfront hposition, hname,
      htried, List.reverse_reverse]
    exact ⟨rfl, rfl⟩
  case refused =>
    intro hpreparable hrefuses
    have hreply := (reply_eq_stop_iff plan).mpr hrefuses
    have hinit := hpreparable.init_eq_none
      (settings.reporter environment.listen).reporter
    rw [Monitor.drive_refused hvalid hinit hreply]
    exact ⟨rfl, hreply ▸ Monitor.transcript_readied _ hinit⟩
  case ran =>
    intro hpreparable hrefuses
    have hreply :
        (plan.monitorAt settings environment).reply
          (settings.reporter environment.listen).initial = .proceed := by
      cases hverdict : (plan.monitorAt settings environment).reply
          (settings.reporter environment.listen).initial with
      | proceed => rfl
      | stop => exact absurd ((reply_eq_stop_iff plan).mp hverdict) hrefuses
    have hinit := hpreparable.init_eq_none
      (settings.reporter environment.listen).reporter
    obtain ⟨rest, hentries, -⟩ := Monitor.drive_accepted environment.signal
      environment.sigterm fuel hvalid hinit hreply
    obtain ⟨exit, final, hrun, hexit⟩ := exists_run_of_reply
      environment.signal environment.sigterm fuel hvalid hinit hreply
      (haIntegrated_reporter environment.listen)
    refine ⟨exit, final, rest, hrun, ?_, hentries⟩
    rw [hexit]
    rfl

end Accepted

/-! ## The stages of the command -/

section Stages

variable {environment : Environment} {path : String} {name : Option String}
  {settings : Settings} {error : CommandError}

theorem run_lift_bind
    {α β : Type} (result : Except CommandError α) (next : α → Noting β)
    (entries : List Entry) :
    (do let value ← result; next value : Noting β).run entries =
      match result with
      | .error error => (.error error, entries)
      | .ok value => (next value).run entries := by
  cases result <;> rfl

theorem run_bind_return
    {α β : Type} (command : Noting α) (change : α → β)
    (entries : List Entry) :
    (do let value ← command; return change value : Noting β).run entries =
      ((command.run entries).1.map change, (command.run entries).2) := by
  rw [ExceptT.run_bind]
  rcases hrun : command.run entries with ⟨value | value, later⟩ <;>
    simp [bind, StateT.bind, hrun] <;> rfl

theorem monitor_unloaded
    (fuel : Nat) (name : Option String)
    (hload :
      Settings.load path (environment.fileContent path) = .error error) :
    environment.monitor fuel path name = .error error ∧
      (environment.monitorNoting fuel path name).run [] =
        (.error error, []) := by
  rw [Environment.monitor, Environment.monitorNoting, run_lift_bind, hload]
  exact ⟨rfl, rfl⟩

theorem monitor_rejected
    (fuel : Nat)
    (hload : Settings.load path (environment.fileContent path) = .ok settings)
    (hplan : settings.plan path name = .error error) :
    environment.monitor fuel path name = .error error ∧
      (environment.monitorNoting fuel path name).run [] =
        (.error error, []) := by
  rw [Environment.monitor, Environment.monitorNoting, run_lift_bind, hload]
  simp only
  rw [run_lift_bind, hplan]
  refine ⟨?_, rfl⟩
  change settings.plan path name >>= _ = _
  rw [hplan]
  rfl

/-- With an accepted plan, all that is left is to drive it. -/
theorem monitor_planned
    (fuel : Nat)
    (hload : Settings.load path (environment.fileContent path) = .ok settings)
    {plan : Plan} (hplan : settings.plan path name = .ok plan)
    {exit : Except CommandError (Option RunExit)} {entries : List Entry}
    (hdriven :
      (plan.driveNoting (settings.reporter.reporter environment.listen)
          environment.site environment.signal environment.sigterm fuel).run
        [] = (exit, entries)) :
    environment.monitor fuel path name =
        exit.map (fun exit => exit.map RunExit.code) ∧
      (environment.monitorNoting fuel path name).run [] =
        (exit.map fun exit => exit.map RunExit.code, entries) := by
  obtain ⟨rfl, rfl⟩ := Prod.mk.inj hdriven
  rw [Environment.monitor, Environment.monitorNoting, run_lift_bind, hload]
  simp only
  rw [run_lift_bind, hplan]
  constructor
  · change settings.plan path name >>= _ = _
    rw [hplan]
    exact bind_pure_comp (Option.map RunExit.code) (plan.drive _ _ _ _ _)
  · exact run_bind_return _ _ []

end Stages

/-! ## The main statement -/

section Loaded

variable {environment : Environment} {path : String} {settings : Settings}

/-- The command of settings whose timing is valid, whatever else is wrong. -/
theorem exists_loadedRecord
    (environment : Environment) (fuel : Nat) (path : String)
    (name : Option String)
    (hload :
      Settings.load path (environment.fileContent path) = .ok settings) :
    ∃ entries,
      (environment.monitorNoting fuel path name).run [] =
          (environment.monitor fuel path name, entries) ∧
        LoadedRecord environment fuel path name settings
          (environment.monitor fuel path name) entries := by
  obtain ⟨timing, htiming⟩ := Settings.exists_timing_of_load hload
  have hbuilt : ∀ {timing}, settings.timing = .ok timing →
      ∀ {σ : Type} (monitor : Monitor σ) (reporter : σ),
        monitor.timing = timing →
          monitor.build? reporter = .ok (.initial monitor reporter) := by
    rintro timing htiming σ monitor reporter rfl
    have hvalid :=
      Timing.validate_eq_ok_iff.mpr (Settings.valid_of_timing htiming)
    rw [Monitor.build?, hvalid]
    rfl
  have hfirst := Settings.failsFirst_plan path name htiming
  cases hfaults : settings.faults path with
  | cons fault rest =>
      -- The plan fails before there is a monitor that could do anything.
      rw [hfaults] at hfirst
      obtain ⟨hresult, hrun⟩ := monitor_rejected fuel hload hfirst
      refine ⟨[], hresult ▸ hrun, ⟨timing, htiming⟩, hbuilt, ?_, ?_⟩
      · rintro _ _ hsplit
        obtain ⟨rfl, rfl⟩ := List.cons.inj (hfaults.symm.trans hsplit)
        exact ⟨hresult, rfl⟩
      · exact fun hnone => nomatch hfaults.symm.trans hnone
  | nil =>
      rw [hfaults] at hfirst
      obtain ⟨plan, hplan⟩ := hfirst
      have hdescribes := Settings.describes_of_plan htiming hplan
      have hvalid := Settings.valid_of_timing hdescribes.timing
      rcases hdriven :
          (plan.driveNoting (settings.reporter.reporter environment.listen)
            environment.site environment.signal environment.sigterm fuel).run
              [] with ⟨exit, entries⟩
      obtain ⟨hresult, hrun⟩ := monitor_planned fuel hload hplan hdriven
      have hrecord := planRecord environment fuel settings.reporter hvalid
        hdriven
      refine ⟨entries, hresult ▸ hrun, ⟨timing, htiming⟩, hbuilt, ?_, ?_⟩
      · exact fun _ _ hsplit => nomatch hfaults.symm.trans hsplit
      · exact fun _ => ⟨plan, hplan, hdescribes, hresult ▸ hrecord⟩

end Loaded

/-- What the monitor command comes to.  Settings that were loaded are not
refused for their timing any more; the first of their other faults is the error,
and without one it is the first target that cannot be prepared, or the reporter
that refuses, or else there is a run with its exit code.  What comes before the
settings are accepted does nothing. -/
theorem monitor_record
    (environment : Environment) (fuel : Nat) (path : String)
    (name : Option String) :
    ∃ entries,
      (environment.monitorNoting fuel path name).run [] =
          (environment.monitor fuel path name, entries) ∧
        CommandRecord environment fuel path name
          (environment.monitor fuel path name) entries := by
  cases hload : Settings.load path (environment.fileContent path) with
  | error error =>
      obtain ⟨hresult, hrun⟩ := monitor_unloaded fuel name hload
      refine ⟨[], hresult ▸ hrun, ?_, ?_⟩
      · intro other hother
        obtain rfl := Except.error.inj (hload.symm.trans hother)
        exact ⟨hresult, rfl⟩
      · exact fun _ hloaded => nomatch hload.symm.trans hloaded
  | ok settings =>
      obtain ⟨entries, hrun, hrecord⟩ :=
        exists_loadedRecord environment fuel path name hload
      refine ⟨entries, hrun, ?_, ?_⟩
      · exact fun _ hunloaded => nomatch hload.symm.trans hunloaded
      · intro other hother
        obtain rfl := Except.ok.inj (hload.symm.trans hother)
        exact hrecord

/-! ## An example -/

namespace Sample

def quietView : View where
  fileContent _ := { value := .error .notFound }
  listing _ := { value := .error .notFound }
  kill _ _ := { returned := -1, lastError := 3 }
  connect _ := { value := .unanswered }
  exchange _ := { connection := .failed "refused", answer := .silent }

/-- A file with a service that depends on a master without an address. -/
def dependentFile : String :=
  "[monitor]\nname = 'hdfs'\n[dependencies.safe_mode]\nurl = 'master'\n"

/-- A file with a service that has one probe. -/
def watchedFile : String :=
  "[monitor]\nname = 'hdfs'\n[probes.pid]\npid_file = 'hdfs.pid'\n"

def machine : Environment where
  fileContent
    | "dependent.toml" => .ok dependentFile
    | "watched.toml" => .ok watchedFile
    | _ => .error .notFound
  site := { view := fun _ _ => quietView }
  listen _ := .error "address in use"

def dependent : Settings where
  monitor := { name := "hdfs" }
  dependencies := { safeMode := some { url := "master" } }

def watched : Settings where
  monitor := { name := "hdfs" }
  probes := { pid := some { file := "hdfs.pid" } }

theorem load_of_toOption
    {path : String} {content : Except FileError String} {settings : Settings}
    (hload : (Settings.load path content).toOption = some settings) :
    Settings.load path content = .ok settings := by
  cases hfound : Settings.load path content with
  | error error => rw [hfound] at hload; exact nomatch hload
  | ok found => rw [hfound] at hload; exact congrArg _ (Option.some.inj hload)

theorem dependent_load :
    Settings.load "dependent.toml" (machine.fileContent "dependent.toml") =
      .ok dependent :=
  load_of_toOption (by decide +kernel)

theorem watched_load :
    Settings.load "watched.toml" (machine.fileContent "watched.toml") =
      .ok watched :=
  load_of_toOption (by decide +kernel)

/-- Two faults, of which the second is not told. -/
theorem dependent_faults :
    dependent.faults "dependent.toml" =
      [.noProbes "dependent.toml",
        .probe (.config "master: only http:// URLs are supported")] := by
  decide +kernel

end Sample

theorem monitor_record_sample :
    (Sample.machine.monitorNoting 5 "dependent.toml" none).run [] =
        (.error (.noProbes "dependent.toml"), []) ∧
      ∃ exit : Option RunExit,
        Sample.machine.monitor 5 "watched.toml" (some "namenode") =
          .ok (exit.map RunExit.code) := by
  constructor
  · obtain ⟨entries, hrun, hrecord⟩ :=
      monitor_record Sample.machine 5 "dependent.toml" none
    obtain ⟨hresult, rfl⟩ :=
      (hrecord.loaded _ Sample.dependent_load).rejected _ _
        Sample.dependent_faults
    rw [hrun, hresult]
  · obtain ⟨_, -, hrecord⟩ :=
      monitor_record Sample.machine 5 "watched.toml" (some "namenode")
    obtain ⟨plan, -, hdescribes, hplanned⟩ :=
      (hrecord.loaded _ Sample.watched_load).accepted (by decide +kernel)
    have hprimaries := Except.ok.inj hdescribes.primaries
    have hdependencies := Except.ok.inj hdescribes.dependencies
    have hpreparable : plan.Preparable Sample.machine.site.names := by
      intro target hmem
      rw [Plan.targets, ← hdependencies, ← hprimaries] at hmem
      obtain rfl := List.mem_singleton.mp hmem
      rfl
    obtain ⟨exit, _, _, -, hresult, -⟩ :=
      hplanned.ran hpreparable fun hrefuses => nomatch hrefuses.1
    exact ⟨exit, hresult⟩

end HealthMonitor
