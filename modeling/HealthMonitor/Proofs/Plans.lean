import HealthMonitor.Program

/-!
# From settings to a plan

Settings that were loaded have a timing that a monitor runs with.  What can
still be wrong with them is found on the way to a plan, in a fixed order, and
only the first fault is told: those of the probes come first, then that there
are none at all, and then those of the dependencies.
-/

namespace HealthMonitor

/-! ## Failing with the first fault -/

section FailsFirst

variable {ε ε' α β : Type} {faults more : List ε} {result : Except ε α}

/-- A computation that meets these faults: it fails with the first, and comes
to a value if there are none. -/
def FailsFirst (faults : List ε) (result : Except ε α) : Prop :=
  match faults with
  | [] => ∃ value, result = .ok value
  | fault :: _ => result = .error fault

theorem failsFirst_ok (value : α) :
    FailsFirst ([] : List ε) (.ok value : Except ε α) :=
  ⟨value, rfl⟩

/-- The faults of the second part are only met if there is none in the first. -/
theorem FailsFirst.bind
    {next : α → Except ε β} (hresult : FailsFirst faults result)
    (hnext : ∀ value, result = .ok value → FailsFirst more (next value)) :
    FailsFirst (faults ++ more) (result >>= next) := by
  cases faults with
  | nil =>
      obtain ⟨value, rfl⟩ := hresult
      exact hnext value rfl
  | cons fault faults =>
      obtain rfl : result = .error fault := hresult
      exact rfl

theorem FailsFirst.map
    (hresult : FailsFirst faults result) (change : α → β) :
    FailsFirst faults (result.map change) := by
  cases faults with
  | nil =>
      obtain ⟨value, rfl⟩ := hresult
      exact ⟨change value, rfl⟩
  | cons fault faults =>
      obtain rfl : result = .error fault := hresult
      exact rfl

theorem FailsFirst.mapError
    (hresult : FailsFirst faults result) (change : ε → ε') :
    FailsFirst (faults.map change) (result.mapError change) := by
  cases faults with
  | nil =>
      obtain ⟨value, rfl⟩ := hresult
      exact ⟨value, rfl⟩
  | cons fault faults =>
      obtain rfl : result = .error fault := hresult
      exact rfl

/-- A value as the last thing. -/
theorem FailsFirst.andThen
    (hresult : FailsFirst faults result) (value : α → β) :
    FailsFirst faults (result >>= fun found => .ok (value found)) := by
  have hbind := hresult.bind fun found _ =>
    (failsFirst_ok (value found) : FailsFirst [] (.ok (value found)))
  rwa [List.append_nil] at hbind

theorem bind_eq_ok
    {next : α → Except ε β} {value : β} (hbind : result >>= next = .ok value) :
    ∃ found, result = .ok found ∧ next found = .ok value := by
  cases result with
  | error error => exact nomatch hbind
  | ok found => exact ⟨found, rfl, hbind⟩

theorem mapError_eq_ok
    {change : ε → ε'} {value : α}
    (hchanged : result.mapError change = .ok value) : result = .ok value := by
  cases result with
  | error error => exact nomatch hchanged
  | ok found => exact congrArg _ (Except.ok.inj hchanged)

end FailsFirst

/-! ## The faults of settings -/

/-- What is wrong with a duration, if it is one that cannot be read. -/
def durationFaults (key : String) (value : Option String) :
    List CommandError :=
  match value with
  | some text =>
      if Duration.ofText? text = none then [.settings (.duration key text)]
      else []
  | none => []

/-- What is wrong with a URL that cannot be fetched. -/
def urlFaults (url : String) : List ProbeError :=
  match Uri.ofText? url with
  | none => [.config ("invalid URL " ++ Text.quoted url)]
  | some uri =>
      if uri.scheme = some .http then []
      else [.config (url ++ ": only http:// URLs are supported")]

/-- What is wrong with a range that accepts no status. -/
def rangeFaults (url : String) (accept : StatusRange) : List ProbeError :=
  if accept.max < accept.min then
    [.config (url ++ ": status range " ++ accept.text ++ " is empty")]
  else []

def PortSettings.faults (settings : PortSettings) : List CommandError :=
  durationFaults "probes.port.connect_timeout" settings.connectTimeout

def HttpSettings.faults (settings : HttpSettings) : List CommandError :=
  durationFaults "probes.http.timeout" settings.timeout ++
    (urlFaults settings.url ++ rangeFaults settings.url settings.accept).map
      .probe

def SafeModeSettings.faults (settings : SafeModeSettings) :
    List CommandError :=
  durationFaults "dependencies.safe_mode.timeout" settings.timeout ++
    (urlFaults settings.url).map .probe

def ProbeSettings.faults (settings : ProbeSettings) : List CommandError :=
  settings.port.toList.flatMap PortSettings.faults ++
    settings.http.toList.flatMap HttpSettings.faults

def DependencySettings.faults (settings : DependencySettings) :
    List CommandError :=
  settings.safeMode.toList.flatMap SafeModeSettings.faults

/-- All that is wrong with settings whose timing is valid, in the order in which
it is found. -/
def Settings.faults (settings : Settings) (path : String) :
    List CommandError :=
  settings.probes.faults ++
    (if settings.probes = {} then [.noProbes path] else []) ++
    settings.dependencies.faults

/-! ## Targets -/

theorem failsFirst_timeoutSetting
    (key : String) (value : Option String) (timing : Timing) :
    FailsFirst (durationFaults key value)
      (timeoutSetting key value timing) := by
  cases value with
  | none => exact failsFirst_ok timing.probeTimeout
  | some text =>
      simp only [durationFaults, timeoutSetting, durationSetting]
      cases Duration.ofText? text with
      | none => exact rfl
      | some duration => exact failsFirst_ok duration

theorem failsFirst_ofProbeUrl (url : String) :
    FailsFirst (urlFaults url) (Uri.ofProbeUrl url) := by
  unfold urlFaults Uri.ofProbeUrl
  cases Uri.ofText? url with
  | none => exact rfl
  | some uri =>
      by_cases hscheme : uri.scheme = some .http <;>
        simp [FailsFirst, hscheme]

theorem failsFirst_httpOfUrl
    (url : String) (accept : StatusRange) (timeout : Nat) :
    FailsFirst (urlFaults url ++ rangeFaults url accept)
      (HttpProbe.ofUrl url accept timeout) := by
  refine (failsFirst_ofProbeUrl url).bind fun uri _ => ?_
  by_cases hempty : accept.max < accept.min
  · simp [FailsFirst, rangeFaults, hempty]
  · rw [rangeFaults, if_neg hempty, if_neg hempty]
    exact failsFirst_ok _

theorem PortSettings.failsFirst_target
    (settings : PortSettings) (timing : Timing) :
    FailsFirst settings.faults (settings.target timing) :=
  (failsFirst_timeoutSetting _ settings.connectTimeout timing).andThen
    fun connectTimeout => Target.port
      { host := settings.host.getD defaultHost, port := settings.port
        connectTimeout }

theorem HttpSettings.failsFirst_target
    (settings : HttpSettings) (timing : Timing) :
    FailsFirst settings.faults (settings.target timing) :=
  (failsFirst_timeoutSetting _ settings.timeout timing).bind fun timeout _ =>
    ((failsFirst_httpOfUrl settings.url settings.accept timeout).mapError
      CommandError.probe).andThen Target.http

theorem SafeModeSettings.failsFirst_target
    (settings : SafeModeSettings) (timing : Timing) :
    FailsFirst settings.faults (settings.target timing) :=
  (failsFirst_timeoutSetting _ settings.timeout timing).bind fun timeout _ =>
    (((failsFirst_ofProbeUrl settings.url).map fun uri =>
      SafeModeProbe.mk uri timeout).mapError CommandError.probe).andThen
        Target.safeMode

section TargetOf

variable {α : Type} {target : α → Except CommandError Target}

theorem failsFirst_targetOf
    {faults : α → List CommandError}
    (htarget : ∀ settings, FailsFirst (faults settings) (target settings))
    (settings : Option α) :
    FailsFirst (settings.toList.flatMap faults) (targetOf settings target) := by
  cases settings with
  | none => exact failsFirst_ok []
  | some settings =>
      rw [Option.toList_some, List.flatMap_singleton]
      exact (htarget settings).map ([·])

/-- A section that cannot be wrong. -/
theorem failsFirst_targetOf_ok (target : α → Target) (settings : Option α) :
    FailsFirst []
      (targetOf settings fun settings => .ok (target settings)) := by
  cases settings with
  | none => exact failsFirst_ok []
  | some settings => exact failsFirst_ok [target settings]

theorem length_targetOf
    {settings : Option α} {targets : List Target}
    (htargets : targetOf settings target = .ok targets) :
    targets.length = settings.toList.length := by
  cases settings with
  | none =>
      cases htargets
      rfl
  | some settings =>
      rw [targetOf] at htargets
      cases hfound : target settings with
      | error error => rw [hfound] at htargets; exact nomatch htargets
      | ok found => rw [hfound] at htargets; cases htargets; rfl

end TargetOf

namespace ProbeSettings

theorem failsFirst_targets (settings : ProbeSettings) (timing : Timing) :
    FailsFirst settings.faults (settings.targets timing) := by
  have htargets :=
    (failsFirst_targetOf (fun port => port.failsFirst_target timing)
      settings.port).bind fun port _ =>
    (failsFirst_targetOf_ok PidSettings.target settings.pid).bind fun pid _ =>
    (failsFirst_targetOf (fun http => http.failsFirst_target timing)
      settings.http).bind fun http _ =>
    (failsFirst_targetOf_ok ListDirSettings.target settings.listDir).andThen
      fun listDir => port ++ pid ++ http ++ listDir
  rw [List.nil_append, List.append_nil] at htargets
  exact htargets

/-- There is a target for each section. -/
theorem targets_eq_nil_iff
    {settings : ProbeSettings} {timing : Timing} {targets : List Target}
    (htargets : settings.targets timing = .ok targets) :
    targets = [] ↔ settings = {} := by
  obtain ⟨port, hport, htargets⟩ := bind_eq_ok htargets
  obtain ⟨pid, hpid, htargets⟩ := bind_eq_ok htargets
  obtain ⟨http, hhttp, htargets⟩ := bind_eq_ok htargets
  obtain ⟨listDir, hlistDir, htargets⟩ := bind_eq_ok htargets
  obtain rfl := Except.ok.inj htargets
  have hlengths :
      (port ++ pid ++ http ++ listDir).length =
        settings.port.toList.length + settings.pid.toList.length +
          settings.http.toList.length + settings.listDir.toList.length := by
    simp only [List.length_append, length_targetOf hport, length_targetOf hpid,
      length_targetOf hhttp, length_targetOf hlistDir]
  rw [← List.length_eq_zero_iff, hlengths]
  obtain ⟨_ | _, _ | _, _ | _, _ | _⟩ := settings <;> simp

end ProbeSettings

theorem DependencySettings.failsFirst_targets
    (settings : DependencySettings) (timing : Timing) :
    FailsFirst settings.faults (settings.targets timing) :=
  failsFirst_targetOf (fun safeMode => safeMode.failsFirst_target timing)
    settings.safeMode

/-! ## Plans -/

/-- A plan holds what the settings say, under the name that is given. -/
structure Settings.Describes
    (settings : Settings) (name : Option String) (plan : Plan) : Prop where
  name : plan.name = name.getD settings.monitor.name
  timing : settings.timing = .ok plan.timing
  primaries : settings.probes.targets plan.timing = .ok plan.primaries
  dependencies :
    settings.dependencies.targets plan.timing = .ok plan.dependencies

namespace Settings

variable {settings : Settings} {path : String} {name : Option String}
  {timing : Timing}

/-- The validation is the last step on the way to a timing. -/
theorem valid_of_timing (htiming : settings.timing = .ok timing) :
    timing.Valid := by
  obtain ⟨_, -, htiming⟩ := bind_eq_ok htiming
  obtain ⟨_, -, htiming⟩ := bind_eq_ok htiming
  obtain ⟨_, -, htiming⟩ := bind_eq_ok htiming
  obtain ⟨_, -, htiming⟩ := bind_eq_ok htiming
  obtain ⟨_, hvalid, htiming⟩ := bind_eq_ok htiming
  obtain rfl := Except.ok.inj htiming
  exact Timing.validate_eq_ok_iff.mp hvalid

/-- Settings that were loaded have been asked for their timing before. -/
theorem exists_timing_of_load
    {content : Except FileError String}
    (hload : load path content = .ok settings) :
    ∃ timing, settings.timing = .ok timing := by
  have hfile := mapError_eq_ok hload
  cases content with
  | error error => exact nomatch hfile
  | ok text =>
      rw [ofFile, ofText] at hfile
      split at hfile
      next => exact nomatch hfile
      next found _ =>
        cases hfound : found.timing with
        | error error => rw [hfound] at hfile; exact nomatch hfile
        | ok timing =>
            rw [hfound] at hfile
            obtain rfl := Except.ok.inj hfile
            exact ⟨timing, hfound⟩

theorem plan_eq
    (path : String) (name : Option String)
    (htiming : settings.timing = .ok timing) :
    settings.plan path name =
      (settings.probes.targets timing >>= fun primaries =>
        if primaries = [] then .error (.noProbes path)
        else
          settings.dependencies.targets timing >>= fun dependencies =>
            .ok { name := name.getD settings.monitor.name, dependencies,
                  primaries, timing }) := by
  rw [plan, htiming]
  change settings.probes.targets timing >>= _ = _
  congr 1
  funext primaries
  cases primaries <;> rfl

/-- What is wrong is told in order. -/
theorem failsFirst_plan
    (path : String) (name : Option String)
    (htiming : settings.timing = .ok timing) :
    FailsFirst (settings.faults path) (settings.plan path name) := by
  rw [faults, plan_eq path name htiming, List.append_assoc]
  refine (settings.probes.failsFirst_targets timing).bind
    fun primaries hprimaries => ?_
  -- The check for an empty list comes before a look at the dependencies, so
  -- their faults are not met where there is no section.
  have hempty := ProbeSettings.targets_eq_nil_iff hprimaries
  by_cases hnone : primaries = []
  · rw [if_pos hnone, if_pos (hempty.mp hnone)]
    exact rfl
  · rw [if_neg hnone, if_neg (mt hempty.mpr hnone), List.nil_append]
    exact (settings.dependencies.failsFirst_targets timing).andThen _

theorem describes_of_plan
    {plan : Plan} (htiming : settings.timing = .ok timing)
    (hplan : settings.plan path name = .ok plan) :
    settings.Describes name plan := by
  rw [plan_eq path name htiming] at hplan
  obtain ⟨primaries, hprimaries, hplan⟩ := bind_eq_ok hplan
  split at hplan
  next => exact nomatch hplan
  next =>
    obtain ⟨dependencies, hdependencies, hplan⟩ := bind_eq_ok hplan
    obtain rfl := Except.ok.inj hplan
    exact ⟨rfl, htiming, hprimaries, hdependencies⟩

end Settings

end HealthMonitor
