import HealthMonitor.Program
import HealthMonitor.Proofs.Assemblies

/-!
# From arguments to the plan of a status check

An argument may be missing, null, or name something.  What is named is put down as
the sections that settings would have for it, so that a check has the targets that
those sections describe.  Nothing is asked of any argument if none is there, nor of
the service that is waited for if nothing is to be checked.  The main statement is
`statusCheckPlan_record`.
-/

namespace HealthMonitor

/-- A text that stands for an argument left out. -/
def IsNull (text : String) : Prop :=
  text = "" ∨ text = "null"

instance (text : String) : Decidable (IsNull text) :=
  inferInstanceAs (Decidable (text = "" ∨ text = "null"))

namespace StatusCheckArgs

/-- What an argument names. -/
def named (argument : Option String) : List String :=
  argument.toList.filter (¬IsNull ·)

/-- None of the arguments is there that could be checked. -/
def Absent (args : StatusCheckArgs) : Prop :=
  args.pid = none ∧ args.path = none ∧ args.url = none

/-- All is null of what is there that could be checked. -/
def Idle (args : StatusCheckArgs) : Prop :=
  ∀ argument ∈ [args.pid, args.path, args.url], ∀ text, argument = some text → IsNull text

/-- What is to be checked, in order. -/
def sections (args : StatusCheckArgs) : List TargetSettings :=
  (named args.pid).map (fun file => .pid { file }) ++
    (named args.path).map (fun path => .listDir { path }) ++
    (named args.url).map (fun url => .http { url })

/-- What is waited for. -/
def waitSections (args : StatusCheckArgs) : List TargetSettings :=
  (named args.waitSafeMode).map fun url => .safeMode { url }

/-- An argument that names nothing but what can be fetched. -/
def Fetchable (argument : Option String) : Prop :=
  ∀ url ∈ named argument, ∃ uri, Uri.Fetches url uri

/-- An argument that names what cannot be fetched, and why it cannot. -/
def Unfetchable (argument : Option String) (error : CommandError) : Prop :=
  ∃ url ∈ named argument, ∃ cause, Uri.Refused url cause ∧ error = .probe cause

/-- The plan that arguments ask for. -/
structure Plans (args : StatusCheckArgs) (plan : Plan) : Prop where
  name : plan.name = "HAStatusCheck"
  /-- A target for each section, in order, with the limit that was given. -/
  primaries : List.Forall₂ (TargetSettings.Describes plan.timing) args.sections plan.primaries
  dependencies :
    List.Forall₂ (TargetSettings.Describes plan.timing) args.waitSections plan.dependencies
  probeInterval : plan.timing.probeInterval = 1000
  reportInterval : plan.timing.reportInterval = 1000
  probeTimeout : plan.timing.probeTimeout = args.timeout
  policy : plan.timing.policy = .ignoreReentry
  bootstrapLimit : ∀ limit : Nat, plan.timing.bootstrapLimit = some limit ↔
    0 < args.bootTimeout ∧ (limit : Int) = args.bootTimeout

/-- What planning a status check comes to. -/
structure PlanningRecord (args : StatusCheckArgs) : Prop where
  nothing : (∃ error, args.plan = .error error ∧
      error.text = "no --pid, --url or --path supplied") ↔ args.Absent
  idle : args.plan = .ok none ↔ ¬args.Absent ∧ args.Idle
  idleExit : ¬args.Absent → args.Idle → ∀ (environment : Environment) (fuel : Nat),
    environment.checkStatus fuel args = .ok (some 0)
  /-- What is checked is looked at before what is waited for. -/
  refused : ¬args.Idle → ∀ error, args.plan = .error error ↔
    Unfetchable args.url error ∨ Fetchable args.url ∧ Unfetchable args.waitSafeMode error
  fails : ¬args.Idle → ((∃ error, args.plan = .error error) ↔
    ¬Fetchable args.url ∨ ¬Fetchable args.waitSafeMode)
  planned : ¬args.Idle → ∀ plan, args.plan = .ok (some plan) ↔ args.Plans plan
  refusedTiming : ∀ plan, args.plan = .ok (some plan) →
    ∀ {σ : Type} (reporter : Reporter σ) (state : σ) (error : SettingsError),
      (plan.monitor reporter).build? state = .error error ↔
        args.timeout = 0 ∧ error = .invalid "probe timeout must be positive"

/-! ## Arguments -/

section Arguments

variable {args : StatusCheckArgs} {argument : Option String} {text : String}

theorem mem_named : text ∈ named argument ↔ argument = some text ∧ ¬IsNull text := by
  simp [named]

theorem toList_supplied? (argument : Option String) :
    (supplied? argument).toList = named argument := by
  rw [supplied?, named, Option.toList_filter]
  congr 1
  funext text
  rw [Bool.eq_iff_iff]
  simp [IsNull]

theorem idle_iff :
    args.Idle ↔ named args.pid = [] ∧ named args.path = [] ∧ named args.url = [] := by
  have hnull : ∀ argument, (∀ text, argument = some text → IsNull text) ↔ named argument = [] := by
    intro argument
    simp only [List.eq_nil_iff_forall_not_mem, mem_named, not_and, Decidable.not_not]
  simp [Idle, hnull]

theorem Absent.idle (habsent : args.Absent) : args.Idle := by
  obtain ⟨hpid, hpath, hurl⟩ := habsent
  simp [idle_iff, hpid, hpath, hurl, named]

theorem sections_eq_nil_iff : args.sections = [] ↔ args.Idle := by
  simp [sections, idle_iff]

/-- A limit that is not written can be read, and the default range is not empty. -/
theorem refused_http_iff {url : String} {error : CommandError} :
    (TargetSettings.http { url }).Refused error ↔
      ∃ cause, Uri.Refused url cause ∧ error = .probe cause := by
  constructor
  · intro hrefused
    cases hrefused with
    | httpTimeout hlimit => cases hlimit
    | httpUrl _ hurl => exact ⟨_, hurl, rfl⟩
    | httpRange _ _ hrange => exact absurd hrange (Nat.lt_irrefl 200)
  · rintro ⟨cause, hurl, rfl⟩
    exact .httpUrl nofun hurl

theorem refused_safeMode_iff {url : String} {error : CommandError} :
    (TargetSettings.safeMode { url }).Refused error ↔
      ∃ cause, Uri.Refused url cause ∧ error = .probe cause := by
  constructor
  · intro hrefused
    cases hrefused with
    | safeModeTimeout hlimit => cases hlimit
    | safeModeUrl _ hurl => exact ⟨_, hurl, rfl⟩
  · rintro ⟨cause, hurl, rfl⟩
    exact .safeModeUrl nofun hurl

theorem sound_sections_iff :
    (∀ settings ∈ args.sections, settings.Sound) ↔ Fetchable args.url := by
  simp only [sections, List.forall_mem_append, List.forall_mem_map]
  constructor
  · rintro ⟨-, hurl⟩ url hmem
    exact (hurl url hmem).2.1
  · intro hurl
    exact ⟨⟨fun _ _ => trivial, fun _ _ => trivial⟩,
      fun url hmem => ⟨nofun, hurl url hmem, Nat.le_refl 200⟩⟩

theorem named_of_mem (hmem : text ∈ named argument) : named argument = [text] := by
  obtain ⟨rfl, hnull⟩ := mem_named.mp hmem
  simp [named, hnull]

/-- Of sections that have no fault but for one argument, that one is refused. -/
theorem firstRefused_append_named_iff {faultless : List TargetSettings}
    {wrap : String → TargetSettings} {error : CommandError}
    (hfaultless : ∀ settings ∈ faultless, ∀ fault, ¬settings.Refused fault) :
    TargetSettings.FirstRefused (faultless ++ (named argument).map wrap) error ↔
      ∃ text ∈ named argument, (wrap text).Refused error := by
  constructor
  · rintro ⟨before, first, after, hsplit, -, hrefused⟩
    have hmem : first ∈ faultless ++ (named argument).map wrap := by simp [hsplit]
    rcases List.mem_append.mp hmem with hfirst | hfirst
    · exact absurd hrefused (hfaultless first hfirst error)
    · obtain ⟨text, htext, rfl⟩ := List.mem_map.mp hfirst
      exact ⟨text, htext, hrefused⟩
  · rintro ⟨text, htext, hrefused⟩
    refine ⟨faultless, wrap text, [], ?_, hfaultless, hrefused⟩
    rw [named_of_mem htext, List.map_singleton]

theorem firstRefused_sections_iff {error : CommandError} :
    TargetSettings.FirstRefused args.sections error ↔ Unfetchable args.url error := by
  rw [sections, firstRefused_append_named_iff]
  · simp only [refused_http_iff, Unfetchable]
  · intro settings hmem fault hrefused
    rcases List.mem_append.mp hmem with hmem | hmem
    · obtain ⟨file, -, rfl⟩ := List.mem_map.mp hmem
      cases hrefused
    · obtain ⟨path, -, rfl⟩ := List.mem_map.mp hmem
      cases hrefused

theorem firstRefused_waitSections_iff {error : CommandError} :
    TargetSettings.FirstRefused args.waitSections error ↔ Unfetchable args.waitSafeMode error := by
  rw [waitSections, ← List.nil_append (List.map _ _),
    firstRefused_append_named_iff (List.forall_mem_nil _)]
  simp only [refused_safeMode_iff, Unfetchable]

end Arguments

/-! ## Targets -/

theorem primaries_eq_mapM (args : StatusCheckArgs) :
    args.primaries = args.sections.mapM (TargetSettings.target args.timing) := by
  have hpid :
      ((named args.pid).map fun file => .pid { file }).mapM (TargetSettings.target args.timing) =
        .ok args.pidTarget := by
    rw [List.mapM_map, pidTarget, toList_supplied?]
    exact List.mapM_pure
  have hpath :
      ((named args.path).map fun path => .listDir { path }).mapM
          (TargetSettings.target args.timing) =
        .ok args.pathTarget := by
    rw [List.mapM_map, pathTarget, toList_supplied?]
    exact List.mapM_pure
  have hurl :
      ((named args.url).map fun url => .http { url }).mapM (TargetSettings.target args.timing) =
        args.urlTarget := by
    rw [List.mapM_map, urlTarget, targetOf_eq_mapM, toList_supplied?]
    rfl
  rw [sections, List.mapM_append, List.mapM_append, hpid, hpath, hurl, primaries]
  cases args.urlTarget <;> rfl

theorem dependencies_eq_mapM (args : StatusCheckArgs) :
    args.dependencies = args.waitSections.mapM (TargetSettings.target args.timing) := by
  rw [dependencies, targetOf_eq_mapM, toList_supplied?, waitSections, List.mapM_map]
  rfl

theorem primaries_record (args : StatusCheckArgs) :
    SectionsRecord args.timing args.sections args.primaries := by
  rw [primaries_eq_mapM]
  exact sectionsRecord args.timing args.sections

theorem dependencies_record (args : StatusCheckArgs) :
    SectionsRecord args.timing args.waitSections args.dependencies := by
  rw [dependencies_eq_mapM]
  exact sectionsRecord args.timing args.waitSections

section Targets

variable {args : StatusCheckArgs} {targets : List Target} {error : CommandError}

theorem primaries_eq_error_iff : args.primaries = .error error ↔ Unfetchable args.url error := by
  rw [args.primaries_record.refused, firstRefused_sections_iff]

theorem dependencies_eq_error_iff :
    args.dependencies = .error error ↔ Unfetchable args.waitSafeMode error := by
  rw [args.dependencies_record.refused, firstRefused_waitSections_iff]

theorem exists_primaries_iff : (∃ targets, args.primaries = .ok targets) ↔ Fetchable args.url := by
  rw [args.primaries_record.sound, sound_sections_iff]

theorem isEmpty_primaries_iff (htargets : args.primaries = .ok targets) :
    targets.isEmpty = true ↔ args.Idle := by
  have hlength := ((args.primaries_record.targets targets).mp htargets).length_eq
  rw [List.isEmpty_iff, ← sections_eq_nil_iff, ← List.length_eq_zero_iff, ← hlength,
    List.length_eq_zero_iff]

end Targets

/-! ## Plans -/

section Plans

variable {args : StatusCheckArgs} {error : CommandError} {plan : Plan}

def planOf (args : StatusCheckArgs) (primaries dependencies : List Target) : Plan :=
  { name := monitorName, dependencies, primaries, timing := args.timing }

theorem plan_of_absent (habsent : args.Absent) : args.plan = .error .nothingToCheck := by
  obtain ⟨hpid, hpath, hurl⟩ := habsent
  simp only [plan, hpid, hpath, hurl]
  rfl

theorem plan_of_present (hpresent : ¬args.Absent) :
    args.plan = args.primaries >>= fun primaries =>
      if primaries.isEmpty then .ok none
      else args.dependencies >>= fun dependencies =>
        .ok (some (args.planOf primaries dependencies)) := by
  have hguard : ¬(args.pid.isNone && args.path.isNone && args.url.isNone) = true := by
    simpa [Absent, and_assoc] using hpresent
  rw [plan, if_neg hguard]
  rfl

theorem plan_of_idle (hpresent : ¬args.Absent) (hidle : args.Idle) : args.plan = .ok none := by
  have hnone : args.primaries = .ok [] := by
    rw [primaries_eq_mapM, sections_eq_nil_iff.mpr hidle]
    rfl
  rw [plan_of_present hpresent, hnone]
  rfl

theorem plan_of_busy (hbusy : ¬args.Idle) :
    args.plan = args.primaries >>= fun primaries =>
      args.dependencies >>= fun dependencies =>
        .ok (some (args.planOf primaries dependencies)) := by
  rw [plan_of_present fun habsent => hbusy habsent.idle]
  cases hprimaries : args.primaries with
  | error error => rfl
  | ok targets =>
      -- There is a target for each section, so that some are there.
      exact if_neg fun hempty => hbusy ((isEmpty_primaries_iff hprimaries).mp hempty)

theorem plan_eq_error_iff (hbusy : ¬args.Idle) :
    args.plan = .error error ↔
      Unfetchable args.url error ∨ Fetchable args.url ∧ Unfetchable args.waitSafeMode error := by
  rw [plan_of_busy hbusy, bind_eq_error_iff, primaries_eq_error_iff]
  refine or_congr_right ?_
  simp only [bind_eq_error_iff, dependencies_eq_error_iff, reduceCtorEq, and_false, exists_false,
    or_false]
  rw [exists_and_right, exists_primaries_iff]

theorem plan_eq_some_iff (hbusy : ¬args.Idle) :
    args.plan = .ok (some plan) ↔
      ∃ primaries dependencies,
        List.Forall₂ (TargetSettings.Describes args.timing) args.sections primaries ∧
        List.Forall₂ (TargetSettings.Describes args.timing) args.waitSections dependencies ∧
        plan = args.planOf primaries dependencies := by
  simp only [plan_of_busy hbusy, bind_eq_ok_iff, args.primaries_record.targets,
    args.dependencies_record.targets, Except.ok.injEq, Option.some.injEq]
  constructor
  · rintro ⟨primaries, hprimaries, dependencies, hdependencies, rfl⟩
    exact ⟨primaries, dependencies, hprimaries, hdependencies, rfl⟩
  · rintro ⟨primaries, dependencies, hprimaries, hdependencies, rfl⟩
    exact ⟨primaries, hprimaries, dependencies, hdependencies, rfl⟩

theorem bootstrapLimit_eq_some_iff {limit : Nat} :
    args.bootstrapLimit = some limit ↔ 0 < args.bootTimeout ∧ (limit : Int) = args.bootTimeout := by
  unfold bootstrapLimit
  split
  next hpos =>
    rw [Option.some.injEq]
    omega
  next hneg => simp [hneg]

theorem Plans.timing_eq (hplans : args.Plans plan) : plan.timing = args.timing := by
  have hlimit : plan.timing.bootstrapLimit = args.bootstrapLimit :=
    Option.ext fun limit => (hplans.bootstrapLimit limit).trans bootstrapLimit_eq_some_iff.symm
  obtain ⟨name, dependencies, primaries, timing⟩ := plan
  obtain ⟨probeInterval, reportInterval, probeTimeout, bootstrapLimit, policy⟩ := timing
  obtain rfl : probeInterval = 1000 := hplans.probeInterval
  obtain rfl : reportInterval = 1000 := hplans.reportInterval
  obtain rfl : probeTimeout = args.timeout := hplans.probeTimeout
  obtain rfl : policy = .ignoreReentry := hplans.policy
  obtain rfl : bootstrapLimit = args.bootstrapLimit := hlimit
  rfl

theorem plans_iff :
    args.Plans plan ↔
      ∃ primaries dependencies,
        List.Forall₂ (TargetSettings.Describes args.timing) args.sections primaries ∧
        List.Forall₂ (TargetSettings.Describes args.timing) args.waitSections dependencies ∧
        plan = args.planOf primaries dependencies := by
  constructor
  · intro hplans
    have htiming := hplans.timing_eq
    have hprimaries := hplans.primaries
    have hdependencies := hplans.dependencies
    rw [htiming] at hprimaries hdependencies
    refine ⟨plan.primaries, plan.dependencies, hprimaries, hdependencies, ?_⟩
    rw [planOf, ← htiming, monitorName, ← hplans.name]
  · rintro ⟨primaries, dependencies, hprimaries, hdependencies, rfl⟩
    exact
      { name := rfl
        primaries := hprimaries
        dependencies := hdependencies
        probeInterval := rfl
        reportInterval := rfl
        probeTimeout := rfl
        policy := rfl
        bootstrapLimit := fun _ => bootstrapLimit_eq_some_iff }

theorem Unfetchable.text_ne {argument : Option String} (hunfetchable : Unfetchable argument error) :
    error.text ≠ CommandError.nothingToCheck.text := by
  obtain ⟨url, -, cause, hrefused, rfl⟩ := hunfetchable
  have hconfig : ∃ reason, cause = .config reason := by
    cases hrefused with
    | unread _ => exact ⟨_, rfl⟩
    | scheme _ _ => exact ⟨_, rfl⟩
  obtain ⟨reason, rfl⟩ := hconfig
  intro htext
  have hchars : ("invalid probe configuration: " ++ reason).toList =
      "no --pid, --url or --path supplied".toList := congrArg String.toList htext
  -- The first letters differ already.
  rw [String.toList_append] at hchars
  exact absurd (List.cons.inj hchars).1 (by decide)

theorem exists_unfetchable_iff {argument : Option String} :
    (∃ error, Unfetchable argument error) ↔ ¬Fetchable argument := by
  simp only [Fetchable, not_forall, ← Uri.exists_refused_iff, exists_prop]
  constructor
  · rintro ⟨_, url, hurl, cause, hrefused, rfl⟩
    exact ⟨url, hurl, cause, hrefused⟩
  · rintro ⟨url, hurl, cause, hrefused⟩
    exact ⟨.probe cause, url, hurl, cause, hrefused, rfl⟩

theorem busy_of_plan (hplan : args.plan = .ok (some plan)) : ¬args.Idle := by
  intro hidle
  by_cases habsent : args.Absent
  · rw [plan_of_absent habsent] at hplan
    cases hplan
  · rw [plan_of_idle habsent hidle] at hplan
    cases hplan

theorem plan_eq_some_iff_plans (hbusy : ¬args.Idle) :
    args.plan = .ok (some plan) ↔ args.Plans plan := by
  rw [plan_eq_some_iff hbusy, plans_iff]

/-- A monitor with the timing of a check is refused for its timeout alone. -/
theorem Plans.build?_eq_error_iff (hplans : args.Plans plan) {σ : Type} (reporter : Reporter σ)
    (state : σ) {error : SettingsError} :
    (plan.monitor reporter).build? state = .error error ↔
      args.timeout = 0 ∧ error = .invalid "probe timeout must be positive" := by
  have hbuild : (plan.monitor reporter).build? state =
      plan.timing.validate.map fun _ => .initial (plan.monitor reporter) state := rfl
  have hmap : (plan.monitor reporter).build? state = .error error ↔
      plan.timing.validate = .error error := by
    rw [hbuild]
    cases plan.timing.validate with
    | error other => simp [Except.map]
    | ok _ => simp [Except.map]
  rw [hmap, Timing.validate_eq_error_iff, hplans.probeInterval, hplans.probeTimeout]
  simp

end Plans

end StatusCheckArgs

open StatusCheckArgs in
/-- The plan of a status check, for any arguments. -/
theorem statusCheckPlan_record (args : StatusCheckArgs) : args.PlanningRecord := by
  constructor
  case nothing =>
    constructor
    · rintro ⟨error, hfailed, htext⟩
      by_contra hpresent
      by_cases hidle : args.Idle
      · rw [plan_of_idle hpresent hidle] at hfailed
        cases hfailed
      · rcases (plan_eq_error_iff hidle).mp hfailed with hurl | ⟨-, hwait⟩
        · exact hurl.text_ne htext
        · exact hwait.text_ne htext
    · intro habsent
      exact ⟨.nothingToCheck, plan_of_absent habsent, rfl⟩
  case idle =>
    constructor
    · intro hnone
      have hpresent : ¬args.Absent := fun habsent => by
        rw [plan_of_absent habsent] at hnone
        cases hnone
      refine ⟨hpresent, ?_⟩
      by_contra hbusy
      rw [plan_of_busy hbusy] at hnone
      obtain ⟨primaries, -, hnone⟩ := bind_eq_ok hnone
      obtain ⟨dependencies, -, hnone⟩ := bind_eq_ok hnone
      cases hnone
    · rintro ⟨hpresent, hidle⟩
      exact plan_of_idle hpresent hidle
  case idleExit =>
    intro hpresent hidle environment fuel
    rw [Environment.checkStatus, plan_of_idle hpresent hidle]
    rfl
  case refused =>
    intro hbusy error
    exact plan_eq_error_iff hbusy
  case fails =>
    intro hbusy
    simp only [plan_eq_error_iff hbusy, exists_or, exists_and_left, exists_unfetchable_iff]
    tauto
  case planned =>
    intro hbusy plan
    exact plan_eq_some_iff_plans hbusy
  case refusedTiming =>
    intro plan hplan σ reporter state error
    have hplans := (plan_eq_some_iff_plans (busy_of_plan hplan)).mp hplan
    exact hplans.build?_eq_error_iff reporter state

/-- A malformed URL is not looked at where nothing is to be checked. -/
example :
    StatusCheckArgs.plan { path := some "null", url := some "", waitSafeMode := some "ftp://" } =
      .ok none := by
  decide

end HealthMonitor
