import HealthMonitor.Proofs.Durations
import HealthMonitor.Proofs.Plans

/-!
# The timing that settings ask for

The four durations of a section are settled one after the other, each as it is
written or by its default.  The first that cannot be read is what is told of the
section; only a section that can be read as a whole is asked whether its monitor
would pause between passes and wait for its calls.  The main statement is
`timing_record`.
-/

namespace HealthMonitor

/-- A duration of a section: its key, what is written there, and which texts
can be read. -/
structure DurationField where
  key : String
  value : Option String
  reads : String → Bool

/-- The field was left out, or can be read. -/
def DurationField.Acceptable (field : DurationField) : Prop :=
  ∀ text, field.value = some text → field.reads text = true

/-- What is wrong with a field that cannot be read: its text as it stands. -/
def DurationField.faults (field : DurationField) : List SettingsError :=
  match field.value with
  | some text =>
      if field.reads text then [] else [.duration field.key text]
  | none => []

/-- The first field that cannot be read: its key and its text. -/
def FirstUnread (fields : List DurationField) (key text : String) : Prop :=
  ∃ before field after, fields = before ++ field :: after ∧
    (∀ earlier ∈ before, earlier.Acceptable) ∧
    field.key = key ∧ field.value = some text ∧ field.reads text = false

/-- What comes of a field: what its text reads as, or its default. -/
def Settles {α : Type}
    (read : String → Option α) (value : Option String) (default found : α) :
    Prop :=
  match value with
  | some text => read text = some found
  | none => found = default

namespace MonitorSettings

/-- The durations of a section in the order in which they are settled. -/
def durations (settings : MonitorSettings) : List DurationField :=
  [ ⟨"probe_interval", settings.probeInterval,
      fun text => (Duration.ofText? text).isSome⟩,
    ⟨"report_interval", settings.reportInterval,
      fun text => (Duration.ofText? text).isSome⟩,
    ⟨"probe_timeout", settings.probeTimeout,
      fun text => (Duration.ofText? text).isSome⟩,
    ⟨"bootstrap_timeout", settings.bootstrapLimit,
      fun text => (Duration.limitOfText? text).isSome⟩ ]

/-- All durations that cannot be read. -/
def unread (settings : MonitorSettings) : List SettingsError :=
  settings.durations.flatMap DurationField.faults

/-- What a section comes to whose durations can all be read. -/
structure Resolves (settings : MonitorSettings) (timing : Timing) : Prop where
  probeInterval :
    Settles Duration.ofText? settings.probeInterval 2000 timing.probeInterval
  reportInterval :
    Settles Duration.ofText? settings.reportInterval 10000
      timing.reportInterval
  probeTimeout :
    Settles Duration.ofText? settings.probeTimeout 60000 timing.probeTimeout
  bootstrapLimit :
    Settles Duration.limitOfText? settings.bootstrapLimit none
      timing.bootstrapLimit
  policy : timing.policy = settings.policy.getD .ignoreReentry

/-- The durations of a section before its timing is validated. -/
def resolved (settings : MonitorSettings) : Except SettingsError Timing :=
  durationSetting "probe_interval" settings.probeInterval 2000 >>=
    fun probeInterval =>
  durationSetting "report_interval" settings.reportInterval 10000 >>=
    fun reportInterval =>
  durationSetting "probe_timeout" settings.probeTimeout 60000 >>=
    fun probeTimeout =>
  limitSetting "bootstrap_timeout" settings.bootstrapLimit >>=
    fun bootstrapLimit =>
  .ok { probeInterval, reportInterval, probeTimeout, bootstrapLimit
        policy := settings.policy.getD .ignoreReentry }

end MonitorSettings

/-! ## One field -/

section Field

variable {key : String} {value : Option String}

theorem failsFirst_durationSetting (key : String) (value : Option String) (default : Nat) :
    FailsFirst
      (DurationField.faults
        ⟨key, value, fun text => (Duration.ofText? text).isSome⟩)
      (durationSetting key value default) := by
  cases value with
  | none => exact failsFirst_ok default
  | some text =>
      simp only [DurationField.faults, durationSetting]
      cases Duration.ofText? text with
      | none => exact rfl
      | some d => exact failsFirst_ok d

theorem failsFirst_limitSetting (key : String) (value : Option String) :
    FailsFirst
      (DurationField.faults
        ⟨key, value, fun text => (Duration.limitOfText? text).isSome⟩)
      (limitSetting key value) := by
  cases value with
  | none => exact failsFirst_ok none
  | some text =>
      simp only [DurationField.faults, limitSetting]
      cases Duration.limitOfText? text with
      | none => exact rfl
      | some limit => exact failsFirst_ok limit

theorem durationSetting_eq_ok_iff {default d : Nat} :
    durationSetting key value default = .ok d ↔
      Settles Duration.ofText? value default d := by
  cases value with
  | none => simp [durationSetting, Settles, eq_comm]
  | some text =>
      simp only [durationSetting, Settles]
      cases Duration.ofText? text with
      | none => simp
      | some found => simp

theorem limitSetting_eq_ok_iff {limit : Option Nat} :
    limitSetting key value = .ok limit ↔
      Settles Duration.limitOfText? value none limit := by
  cases value with
  | none => simp [limitSetting, Settles, eq_comm]
  | some text =>
      simp only [limitSetting, Settles]
      cases Duration.limitOfText? text with
      | none => simp
      | some found => simp

theorem DurationField.faults_eq_nil_iff {field : DurationField} :
    field.faults = [] ↔ field.Acceptable := by
  obtain ⟨key, value, reads⟩ := field
  cases value with
  | none => simp [faults, Acceptable]
  | some text => simp [faults, Acceptable]

end Field

/-! ## All fields -/

section Fields

variable {fields : List DurationField} {rest : List SettingsError}

theorem faults_of_unread
    {field : DurationField} {text : String} (hvalue : field.value = some text)
    (hunread : field.reads text = false) :
    field.faults = [.duration field.key text] := by
  simp [DurationField.faults, hvalue, hunread]

theorem exists_text_of_faults
    {field : DurationField} {error : SettingsError}
    (hfaults : field.faults = error :: rest) :
    ∃ text, field.value = some text ∧ field.reads text = false ∧
      error = .duration field.key text := by
  unfold DurationField.faults at hfaults
  split at hfaults
  next text hvalue =>
    split at hfaults
    next => exact nomatch hfaults
    next hunread =>
      exact ⟨text, hvalue, by simpa using hunread, (List.cons.inj hfaults).1.symm⟩
  next => exact nomatch hfaults

theorem FirstUnread.exists_flatMap
    {key text : String} (hfirst : FirstUnread fields key text) :
    ∃ rest, fields.flatMap DurationField.faults = .duration key text :: rest := by
  obtain ⟨before, field, after, rfl, hbefore, rfl, hvalue, hunread⟩ := hfirst
  have hnone : before.flatMap DurationField.faults = [] := by
    rw [List.flatMap_eq_nil_iff]
    intro earlier hearlier
    exact DurationField.faults_eq_nil_iff.mpr (hbefore earlier hearlier)
  rw [List.flatMap_append, hnone, List.flatMap_cons,
    faults_of_unread hvalue hunread]
  exact ⟨_, rfl⟩

theorem exists_firstUnread
    {error : SettingsError}
    (hfaults : fields.flatMap DurationField.faults = error :: rest) :
    ∃ key text, FirstUnread fields key text ∧ error = .duration key text := by
  induction fields with
  | nil => exact nomatch hfaults
  | cons field fields ih =>
      rw [List.flatMap_cons] at hfaults
      cases hfield : field.faults with
      | nil =>
          rw [hfield, List.nil_append] at hfaults
          obtain ⟨key, text, hfirst, herror⟩ := ih hfaults
          obtain ⟨before, other, after, rfl, hbefore, hother⟩ := hfirst
          have hacceptable := DurationField.faults_eq_nil_iff.mp hfield
          refine ⟨key, text, ⟨field :: before, other, after, rfl, ?_, hother⟩,
            herror⟩
          exact List.forall_mem_cons.mpr ⟨hacceptable, hbefore⟩
      | cons fault faults =>
          rw [hfield, List.cons_append] at hfaults
          obtain ⟨rfl, -⟩ := List.cons.inj hfaults
          obtain ⟨text, hvalue, hunread, herror⟩ :=
            exists_text_of_faults hfield
          exact ⟨field.key, text,
            ⟨[], field, fields, rfl, List.forall_mem_nil _, rfl, hvalue,
              hunread⟩, herror⟩

end Fields

namespace MonitorSettings

variable {settings : MonitorSettings} {timing : Timing}

theorem failsFirst_resolved (settings : MonitorSettings) :
    FailsFirst settings.unread settings.resolved := by
  have hresolved :=
    (failsFirst_durationSetting "probe_interval" settings.probeInterval
      2000).bind fun probeInterval _ =>
    (failsFirst_durationSetting "report_interval" settings.reportInterval
      10000).bind fun reportInterval _ =>
    (failsFirst_durationSetting "probe_timeout" settings.probeTimeout
      60000).bind fun probeTimeout _ =>
    (failsFirst_limitSetting "bootstrap_timeout"
      settings.bootstrapLimit).andThen fun bootstrapLimit =>
        ({ probeInterval, reportInterval, probeTimeout, bootstrapLimit
           policy := settings.policy.getD .ignoreReentry } : Timing)
  rw [unread, durations]
  simp only [List.flatMap_cons, List.flatMap_nil, List.append_nil]
  exact hresolved

theorem resolved_eq_ok_iff :
    settings.resolved = .ok timing ↔ settings.Resolves timing := by
  constructor
  · intro hresolved
    obtain ⟨probeInterval, hprobe, hresolved⟩ := bind_eq_ok hresolved
    obtain ⟨reportInterval, hreport, hresolved⟩ := bind_eq_ok hresolved
    obtain ⟨probeTimeout, htimeout, hresolved⟩ := bind_eq_ok hresolved
    obtain ⟨bootstrapLimit, hlimit, hresolved⟩ := bind_eq_ok hresolved
    obtain rfl := Except.ok.inj hresolved
    exact ⟨durationSetting_eq_ok_iff.mp hprobe,
      durationSetting_eq_ok_iff.mp hreport,
      durationSetting_eq_ok_iff.mp htimeout,
      limitSetting_eq_ok_iff.mp hlimit, rfl⟩
  · intro hresolves
    obtain ⟨probeInterval, reportInterval, probeTimeout, limit, policy⟩ := timing
    obtain ⟨hprobe, hreport, htimeout, hlimit, rfl⟩ := hresolves
    rw [resolved, durationSetting_eq_ok_iff.mpr hprobe,
      durationSetting_eq_ok_iff.mpr hreport,
      durationSetting_eq_ok_iff.mpr htimeout,
      limitSetting_eq_ok_iff.mpr hlimit]
    rfl

theorem unread_eq_nil_iff :
    settings.unread = [] ↔ ∀ field ∈ settings.durations, field.Acceptable := by
  simp only [unread, List.flatMap_eq_nil_iff, DurationField.faults_eq_nil_iff]

theorem timing_eq (settings : MonitorSettings) :
    settings.timing =
      (settings.resolved >>= fun timing =>
        timing.validate >>= fun _ => .ok timing) := by
  simp only [resolved, bind_assoc]
  rfl

theorem timing_of_resolves (hresolves : settings.Resolves timing) :
    settings.timing = timing.validate.map fun _ => timing := by
  rw [timing_eq, resolved_eq_ok_iff.mpr hresolves]
  change (timing.validate >>= fun _ => Except.ok timing) = _
  cases timing.validate with
  | error error => rfl
  | ok found => rfl

theorem timing_of_firstUnread
    {key text : String} (hfirst : FirstUnread settings.durations key text) :
    settings.timing = .error (.duration key text) := by
  obtain ⟨rest, hrest⟩ := hfirst.exists_flatMap
  have hresolved := failsFirst_resolved settings
  rw [unread, hrest] at hresolved
  have herror : settings.resolved = .error (.duration key text) := hresolved
  rw [timing_eq, herror]
  rfl

/-- Either there is a first text that cannot be read, or all can be. -/
theorem unread_or_resolves (settings : MonitorSettings) :
    (∃ key text, FirstUnread settings.durations key text) ∨
      ((∀ field ∈ settings.durations, field.Acceptable) ∧
        ∃ timing, settings.Resolves timing) := by
  have hresolved := failsFirst_resolved settings
  cases hunread : settings.unread with
  | nil =>
      rw [hunread] at hresolved
      obtain ⟨timing, htiming⟩ := hresolved
      exact .inr ⟨unread_eq_nil_iff.mp hunread, timing,
        resolved_eq_ok_iff.mp htiming⟩
  | cons fault rest =>
      obtain ⟨key, text, hfirst, -⟩ := exists_firstUnread hunread
      exact .inl ⟨key, text, hfirst⟩

theorem not_acceptable_of_firstUnread
    {fields : List DurationField} {key text : String}
    (hfirst : FirstUnread fields key text) :
    ¬∀ field ∈ fields, field.Acceptable := by
  obtain ⟨before, field, after, rfl, -, -, hvalue, hunread⟩ := hfirst
  intro hall
  have hreads := hall field (by simp) text hvalue
  exact Bool.false_ne_true (hunread.symm.trans hreads)

theorem not_resolves_of_firstUnread
    {key text : String} (hfirst : FirstUnread settings.durations key text) :
    ¬settings.Resolves timing := by
  intro hresolves
  obtain ⟨rest, hrest⟩ := hfirst.exists_flatMap
  have hresolved := failsFirst_resolved settings
  rw [unread, hrest, resolved_eq_ok_iff.mpr hresolves] at hresolved
  exact nomatch (hresolved : Except.ok timing = Except.error _)

end MonitorSettings

/-! ## Validation -/

theorem Timing.validate_eq_error_iff {timing : Timing} {error : SettingsError} :
    timing.validate = .error error ↔
      (timing.probeInterval = 0 ∧
          error = .invalid "probe interval must be positive") ∨
        (0 < timing.probeInterval ∧ timing.probeTimeout = 0 ∧
          error = .invalid "probe timeout must be positive") := by
  by_cases hinterval : timing.probeInterval = 0
  · simp [validate, fault?, hinterval, eq_comm]
  · by_cases htimeout : timing.probeTimeout = 0
    · simp [validate, fault?, hinterval, htimeout, eq_comm,
        Nat.pos_of_ne_zero hinterval]
    · simp [validate, fault?, hinterval, htimeout]

theorem Timing.map_validate_eq_ok_iff {timing found : Timing} :
    (timing.validate.map fun _ => timing) = .ok found ↔
      found = timing ∧ found.Valid := by
  have hvalid := timing.validate_eq_ok_iff
  cases hvalidate : timing.validate with
  | error error =>
      rw [hvalidate] at hvalid
      constructor
      · exact nofun
      · rintro ⟨rfl, hfound⟩
        exact nomatch hvalid.mpr hfound
  | ok _ =>
      rw [hvalidate] at hvalid
      constructor
      · intro hok
        obtain rfl := Except.ok.inj hok
        exact ⟨rfl, hvalid.mp rfl⟩
      · rintro ⟨rfl, -⟩
        rfl

theorem Timing.map_validate_eq_error_iff
    {timing : Timing} {error : SettingsError} :
    (timing.validate.map fun _ => timing) = .error error ↔
      timing.validate = .error error := by
  cases timing.validate with
  | error other => simp [Except.map]
  | ok _ => exact iff_of_false nofun nofun

/-! ## The account of a section -/

namespace MonitorSettings

variable {settings : MonitorSettings} {timing : Timing}

theorem timing_eq_ok_iff :
    settings.timing = .ok timing ↔ settings.Resolves timing ∧ timing.Valid := by
  constructor
  · intro htiming
    rcases settings.unread_or_resolves with ⟨key, text, hfirst⟩ | ⟨-, found, hfound⟩
    · rw [timing_of_firstUnread hfirst] at htiming
      exact nomatch htiming
    · rw [timing_of_resolves hfound, Timing.map_validate_eq_ok_iff] at htiming
      obtain ⟨rfl, hvalid⟩ := htiming
      exact ⟨hfound, hvalid⟩
  · rintro ⟨hresolves, hvalid⟩
    rw [timing_of_resolves hresolves, Timing.map_validate_eq_ok_iff]
    exact ⟨rfl, hvalid⟩

theorem exists_resolves_iff :
    (∃ timing, settings.Resolves timing) ↔
      ∀ field ∈ settings.durations, field.Acceptable := by
  rcases settings.unread_or_resolves with ⟨key, text, hfirst⟩ | ⟨hall, hresolves⟩
  · refine iff_of_false ?_ (not_acceptable_of_firstUnread hfirst)
    rintro ⟨timing, hresolves⟩
    exact not_resolves_of_firstUnread hfirst hresolves
  · exact iff_of_true hresolves hall

/-- A section fails with the first text that cannot be read, or, if all can be,
with what is wrong with its timing. -/
theorem timing_eq_error_iff {error : SettingsError} :
    settings.timing = .error error ↔
      (∃ key text, FirstUnread settings.durations key text ∧
          error = .duration key text) ∨
        ∃ timing, settings.Resolves timing ∧ timing.validate = .error error := by
  constructor
  · intro htiming
    rcases settings.unread_or_resolves with ⟨key, text, hfirst⟩ | ⟨-, found, hfound⟩
    · rw [timing_of_firstUnread hfirst] at htiming
      exact .inl ⟨key, text, hfirst, (Except.error.inj htiming).symm⟩
    · rw [timing_of_resolves hfound, Timing.map_validate_eq_error_iff] at htiming
      exact .inr ⟨found, hfound, htiming⟩
  · rintro (⟨key, text, hfirst, rfl⟩ | ⟨timing, hresolves, hvalidate⟩)
    · exact timing_of_firstUnread hfirst
    · rw [timing_of_resolves hresolves, Timing.map_validate_eq_error_iff]
      exact hvalidate

/-- Only the pause and the time for a call have to be positive. -/
theorem Resolves.with_zeros
    (hresolves : settings.Resolves timing) {zero : String}
    (hzero : Duration.ofText? zero = some 0) :
    { settings with
        reportInterval := some zero
        bootstrapLimit := some zero }.Resolves
      { timing with reportInterval := 0, bootstrapLimit := some 0 } := by
  have hlimited : Duration.limitOfText? zero ≠ some none := by
    intro hunlimited
    rw [Duration.ofText?_of_unlimited hunlimited] at hzero
    exact nomatch hzero
  have hlimit : Duration.limitOfText? zero = some (some 0) := by
    rw [Duration.limitOfText?_of_limited hlimited, hzero]
    rfl
  exact ⟨hresolves.probeInterval, hzero, hresolves.probeTimeout, hlimit,
    hresolves.policy⟩

end MonitorSettings

/-- What becomes of the timing of settings, and of a text that writes them. -/
structure Settings.TimingRecord (settings : Settings) : Prop where
  accepted : ∀ timing, settings.timing = .ok timing ↔
    settings.monitor.Resolves timing ∧
      0 < timing.probeInterval ∧ 0 < timing.probeTimeout
  resolvable : (∃ timing, settings.monitor.Resolves timing) ↔
    ∀ field ∈ settings.monitor.durations, field.Acceptable
  unread : ∀ key text, settings.timing = .error (.duration key text) ↔
    FirstUnread settings.monitor.durations key text
  invalid : ∀ reason, settings.timing = .error (.invalid reason) ↔
    ∃ timing, settings.monitor.Resolves timing ∧
      ((timing.probeInterval = 0 ∧
          reason = "probe interval must be positive") ∨
        (0 < timing.probeInterval ∧ timing.probeTimeout = 0 ∧
          reason = "probe timeout must be positive"))
  failed : ∀ error, settings.timing = .error error →
    (∃ key text, error = .duration key text) ∨
      ∃ reason, error = .invalid reason
  zeros : ∀ timing zero, settings.timing = .ok timing →
    Duration.ofText? zero = some 0 →
      { settings with
          monitor :=
            { settings.monitor with
                reportInterval := some zero
                bootstrapLimit := some zero } }.timing =
        .ok { timing with reportInterval := 0, bootstrapLimit := some 0 }
  /-- A text that writes the settings is refused for their timing alone. -/
  written : ∀ text, (Toml.ofText? text).bind Settings.ofToml? = some settings →
    (∀ error, settings.timing = .error error →
        Settings.ofText text = .error error) ∧
      ∀ timing, settings.timing = .ok timing →
        Settings.ofText text = .ok settings

/-- The durations of a section are settled in order, and validated last. -/
theorem timing_record (settings : Settings) : settings.TimingRecord where
  accepted timing := MonitorSettings.timing_eq_ok_iff
  resolvable := MonitorSettings.exists_resolves_iff
  unread := by
    intro key text
    rw [Settings.timing, MonitorSettings.timing_eq_error_iff]
    constructor
    · rintro (⟨_, _, hfirst, herror⟩ | ⟨timing, -, hvalidate⟩)
      · obtain ⟨rfl, rfl⟩ := SettingsError.duration.inj herror
        exact hfirst
      · rcases Timing.validate_eq_error_iff.mp hvalidate with
          ⟨-, herror⟩ | ⟨-, -, herror⟩
        · exact nomatch herror
        · exact nomatch herror
    · intro hfirst
      exact .inl ⟨key, text, hfirst, rfl⟩
  invalid := by
    intro reason
    rw [Settings.timing, MonitorSettings.timing_eq_error_iff]
    simp only [Timing.validate_eq_error_iff, SettingsError.invalid.injEq]
    constructor
    · rintro (⟨_, _, -, herror⟩ | hinvalid)
      · exact nomatch herror
      · exact hinvalid
    · exact .inr
  failed := by
    intro error htiming
    rcases MonitorSettings.timing_eq_error_iff.mp htiming with
      ⟨key, text, -, herror⟩ | ⟨timing, -, hvalidate⟩
    · exact .inl ⟨key, text, herror⟩
    · rcases Timing.validate_eq_error_iff.mp hvalidate with
        ⟨-, herror⟩ | ⟨-, -, herror⟩
      · exact .inr ⟨_, herror⟩
      · exact .inr ⟨_, herror⟩
  zeros := by
    intro timing zero htiming hzero
    obtain ⟨hresolves, hvalid⟩ := MonitorSettings.timing_eq_ok_iff.mp htiming
    exact MonitorSettings.timing_eq_ok_iff.mpr
      ⟨hresolves.with_zeros hzero, hvalid⟩
  written := by
    intro text hread
    rw [Settings.ofText, hread]
    constructor
    · intro error htiming
      simp only [htiming, Except.map]
    · intro timing htiming
      simp only [htiming, Except.map]

end HealthMonitor
