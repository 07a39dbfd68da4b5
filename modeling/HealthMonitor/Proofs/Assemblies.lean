import HealthMonitor.Proofs.Timings
import Mathlib.Data.List.Forall2

/-!
# The targets that settings describe

Each section describes one target, under rules of its own: the limit of its network
calls is what it writes or that of the monitor, and its URL has to be one that can
be fetched.  A list of sections comes to one target for each, in order, if each of
them is sound, and fails with what is wrong with the first that is not
(`assembly_record`).
-/

namespace HealthMonitor

/-! ## Computations that may fail -/

section Failures

variable {ε ε' α β : Type} {result : Except ε α} {error : ε}

theorem bind_eq_ok_iff {next : α → Except ε β} {value : β} :
    result >>= next = .ok value ↔ ∃ found, result = .ok found ∧ next found = .ok value := by
  constructor
  · exact bind_eq_ok
  · rintro ⟨found, rfl, hnext⟩
    exact hnext

theorem bind_eq_error_iff {next : α → Except ε β} :
    result >>= next = .error error ↔
      result = .error error ∨ ∃ found, result = .ok found ∧ next found = .error error := by
  cases result with
  | error other => simp [bind, Except.bind]
  | ok value => simp [bind, Except.bind]

theorem mapError_eq_ok_iff {change : ε → ε'} {value : α} :
    result.mapError change = .ok value ↔ result = .ok value := by
  cases result with
  | error other => simp [Except.mapError]
  | ok found => simp [Except.mapError]

theorem mapError_eq_error_iff {change : ε → ε'} {changed : ε'} :
    result.mapError change = .error changed ↔
      ∃ error, result = .error error ∧ changed = change error := by
  cases result with
  | error other => simp [Except.mapError, eq_comm]
  | ok found => simp [Except.mapError]

theorem mapM_eq_ok_iff {f : α → Except ε β} {xs : List α} {ys : List β} :
    xs.mapM f = .ok ys ↔ List.Forall₂ (fun x y => f x = .ok y) xs ys := by
  induction xs generalizing ys with
  | nil =>
      rw [List.mapM_nil, List.forall₂_nil_left_iff]
      exact ⟨fun hok => (Except.ok.inj hok).symm, fun hnil => hnil ▸ rfl⟩
  | cons x xs ih =>
      rw [List.mapM_cons, bind_eq_ok_iff, List.forall₂_cons_left_iff]
      constructor
      · rintro ⟨y, hy, hrest⟩
        obtain ⟨rest, hys, hok⟩ := bind_eq_ok_iff.mp hrest
        obtain rfl := Except.ok.inj hok
        exact ⟨y, rest, hy, ih.mp hys, rfl⟩
      · rintro ⟨y, rest, hy, hys, rfl⟩
        exact ⟨y, hy, bind_eq_ok_iff.mpr ⟨rest, ih.mpr hys, rfl⟩⟩

/-- A list fails where it fails first. -/
theorem mapM_eq_error_iff {f : α → Except ε β} {xs : List α} :
    xs.mapM f = .error error ↔
      ∃ before x after, xs = before ++ x :: after ∧
        (∀ earlier ∈ before, ∃ y, f earlier = .ok y) ∧ f x = .error error := by
  induction xs with
  | nil =>
      refine iff_of_false nofun ?_
      rintro ⟨before, x, after, hnil, -⟩
      simp at hnil
  | cons x xs ih =>
      rw [List.mapM_cons, bind_eq_error_iff]
      constructor
      · rintro (hx | ⟨y, hy, hrest⟩)
        · exact ⟨[], x, xs, rfl, List.forall_mem_nil _, hx⟩
        · rcases bind_eq_error_iff.mp hrest with hxs | ⟨ys, -, hys⟩
          · obtain ⟨before, z, after, rfl, hbefore, hz⟩ := ih.mp hxs
            exact ⟨x :: before, z, after, rfl, List.forall_mem_cons.mpr ⟨⟨y, hy⟩, hbefore⟩, hz⟩
          · cases hys
      · rintro ⟨_ | ⟨_, before⟩, z, after, hsplit, hbefore, hz⟩
        · obtain ⟨rfl, rfl⟩ := List.cons.inj hsplit
          exact .inl hz
        · obtain ⟨rfl, rfl⟩ := List.cons.inj hsplit
          obtain ⟨⟨y, hy⟩, hbefore⟩ := List.forall_mem_cons.mp hbefore
          exact .inr ⟨y, hy, bind_eq_error_iff.mpr
            (.inl (ih.mpr ⟨before, z, after, rfl, hbefore, hz⟩))⟩

/-- All goes well if each goes well. -/
theorem exists_mapM_eq_ok_iff {f : α → Except ε β} {xs : List α} :
    (∃ ys, xs.mapM f = .ok ys) ↔ ∀ x ∈ xs, ∃ y, f x = .ok y := by
  induction xs with
  | nil => exact iff_of_true ⟨[], rfl⟩ (List.forall_mem_nil _)
  | cons x xs ih =>
      rw [List.forall_mem_cons, ← ih]
      simp only [mapM_eq_ok_iff, List.forall₂_cons_left_iff]
      constructor
      · rintro ⟨-, y, ys, hy, hys, rfl⟩
        exact ⟨⟨y, hy⟩, ys, hys⟩
      · rintro ⟨⟨y, hy⟩, ys, hys⟩
        exact ⟨_, y, ys, hy, hys, rfl⟩

theorem exists_of_mem_forall₂ {R : α → β → Prop} {xs : List α} {ys : List β} {y : β}
    (hall : List.Forall₂ R xs ys) (hy : y ∈ ys) : ∃ x ∈ xs, R x y := by
  induction hall with
  | nil => cases hy
  | @cons x z xs ys hx _ ih =>
      rcases List.mem_cons.mp hy with rfl | hy
      · exact ⟨x, List.mem_cons_self, hx⟩
      · obtain ⟨found, hfound, hrelated⟩ := ih hy
        exact ⟨found, List.mem_cons_of_mem x hfound, hrelated⟩

end Failures

/-! ## URLs and limits -/

namespace Uri

/-- A URL that can be fetched, with the identifier that it is read as. -/
def Fetches (url : String) (uri : Uri) : Prop :=
  ofText? url = some uri ∧ uri.scheme = some .http

/-- Why a URL cannot be fetched. -/
inductive Refused (url : String) : ProbeError → Prop where
  | unread (hread : ofText? url = none) :
      Refused url (.config ("invalid URL " ++ Text.quoted url))
  | scheme {uri : Uri} (hread : ofText? url = some uri) (hscheme : uri.scheme ≠ some .http) :
      Refused url (.config (url ++ ": only http:// URLs are supported"))

section ProbeUrl

variable {url : String} {uri : Uri} {error : ProbeError}

theorem ofProbeUrl_eq_ok_iff : ofProbeUrl url = .ok uri ↔ Fetches url uri := by
  unfold ofProbeUrl Fetches
  cases hread : ofText? url with
  | none => simp
  | some found =>
      dsimp only
      split
      next hscheme =>
        simp only [Except.ok.injEq, Option.some.injEq]
        constructor
        · rintro rfl
          exact ⟨rfl, hscheme⟩
        · exact And.left
      next hscheme =>
        refine iff_of_false nofun ?_
        rintro ⟨hfound, hhttp⟩
        obtain rfl := Option.some.inj hfound
        exact hscheme hhttp

theorem ofProbeUrl_eq_error_iff : ofProbeUrl url = .error error ↔ Refused url error := by
  unfold ofProbeUrl
  constructor
  · intro hfailed
    split at hfailed
    next hread =>
      cases hfailed
      exact .unread hread
    next found hread =>
      split at hfailed
      · cases hfailed
      next hscheme =>
        cases hfailed
        exact .scheme hread hscheme
  · rintro (hread | ⟨hread, hscheme⟩)
    · simp only [hread]
    · simp only [hread, if_neg hscheme]

/-- A URL can be fetched or is refused. -/
theorem exists_refused_iff : (∃ error, Refused url error) ↔ ¬∃ uri, Fetches url uri := by
  simp only [← ofProbeUrl_eq_ok_iff, ← ofProbeUrl_eq_error_iff]
  cases ofProbeUrl url with
  | error error => simp
  | ok uri => simp

end ProbeUrl

end Uri

/-- A limit that is left out or can be read. -/
def Readable (value : Option String) : Prop :=
  ∀ text, value = some text → ∃ limit, Duration.ofText? text = some limit

/-- A limit that is there and cannot be read. -/
inductive Unreadable (key : String) : Option String → CommandError → Prop where
  | unread {text : String} (hread : Duration.ofText? text = none) :
      Unreadable key (some text) (.settings (.duration key text))

section Limits

variable {key : String} {value : Option String} {timing : Timing} {limit : Nat}
  {error : CommandError}

theorem timeoutSetting_eq_ok_iff :
    timeoutSetting key value timing = .ok limit ↔
      Settles Duration.ofText? value timing.probeTimeout limit := by
  rw [timeoutSetting, mapError_eq_ok_iff, durationSetting_eq_ok_iff]

theorem timeoutSetting_eq_error_iff :
    timeoutSetting key value timing = .error error ↔ Unreadable key value error := by
  constructor
  · intro hfailed
    obtain ⟨cause, hcause, rfl⟩ := mapError_eq_error_iff.mp hfailed
    unfold durationSetting at hcause
    split at hcause
    · cases hcause
    · split at hcause
      · cases hcause
      next hread =>
        cases hcause
        exact .unread hread
  · rintro ⟨hread⟩
    simp only [timeoutSetting, durationSetting, hread]
    rfl

theorem exists_settles_iff {default : Nat} :
    (∃ limit, Settles Duration.ofText? value default limit) ↔ Readable value := by
  cases value with
  | none => exact iff_of_true ⟨default, rfl⟩ nofun
  | some text => simp [Settles, Readable]

end Limits

/-- A target whose network calls have a limit, which is settled before its URL. -/
def limited {π : Type} (key : String) (value : Option String) (timing : Timing)
    (make : Nat → Except ProbeError π) (wrap : π → Target) : Except CommandError Target := do
  let limit ← timeoutSetting key value timing
  let probe ← (make limit).mapError .probe
  return wrap probe

section Limited

variable {π : Type} {key : String} {value : Option String} {timing : Timing}
  {make : Nat → Except ProbeError π} {wrap : π → Target}

theorem limited_eq_ok_iff {target : Target} :
    limited key value timing make wrap = .ok target ↔
      ∃ limit probe, Settles Duration.ofText? value timing.probeTimeout limit ∧
        make limit = .ok probe ∧ target = wrap probe := by
  simp only [limited, bind_eq_ok_iff, timeoutSetting_eq_ok_iff, mapError_eq_ok_iff]
  constructor
  · rintro ⟨limit, hlimit, probe, hprobe, htarget⟩
    exact ⟨limit, probe, hlimit, hprobe, (Except.ok.inj htarget).symm⟩
  · rintro ⟨limit, probe, hlimit, hprobe, rfl⟩
    exact ⟨limit, hlimit, probe, hprobe, rfl⟩

theorem limited_eq_error_iff {error : CommandError} :
    limited key value timing make wrap = .error error ↔
      Unreadable key value error ∨
        ∃ limit cause, Settles Duration.ofText? value timing.probeTimeout limit ∧
          make limit = .error cause ∧ error = .probe cause := by
  simp only [limited, bind_eq_error_iff, timeoutSetting_eq_ok_iff, timeoutSetting_eq_error_iff,
    mapError_eq_error_iff]
  constructor
  · rintro (hlimit | ⟨limit, hlimit, ⟨cause, hcause, rfl⟩ | ⟨_, -, hdone⟩⟩)
    · exact .inl hlimit
    · exact .inr ⟨limit, cause, hlimit, hcause, rfl⟩
    · cases hdone
  · rintro (hlimit | ⟨limit, cause, hlimit, hcause, rfl⟩)
    · exact .inl hlimit
    · exact .inr ⟨limit, hlimit, .inl ⟨cause, hcause, rfl⟩⟩

end Limited

/-! ## Sections -/

/-- The settings of one target. -/
inductive TargetSettings where
  | port (settings : PortSettings)
  | pid (settings : PidSettings)
  | http (settings : HttpSettings)
  | listDir (settings : ListDirSettings)
  | safeMode (settings : SafeModeSettings)

/-- The sections that are there, in the order of their targets. -/
def ProbeSettings.sections (settings : ProbeSettings) : List TargetSettings :=
  settings.port.toList.map .port ++ settings.pid.toList.map .pid ++
    settings.http.toList.map .http ++ settings.listDir.toList.map .listDir

def DependencySettings.sections (settings : DependencySettings) : List TargetSettings :=
  settings.safeMode.toList.map .safeMode

namespace TargetSettings

/-- What a sound section describes.  A limit is what the section writes, or that of
the monitor. -/
inductive Describes (timing : Timing) : TargetSettings → Target → Prop where
  | port {settings : PortSettings} {limit : Nat}
      (hlimit : Settles Duration.ofText? settings.connectTimeout timing.probeTimeout limit) :
      Describes timing (.port settings)
        (.port
          { host := settings.host.getD "localhost", port := settings.port
            connectTimeout := limit })
  | pid (settings : PidSettings) :
      Describes timing (.pid settings) (.pid { file := settings.file })
  | http {settings : HttpSettings} {limit : Nat} {uri : Uri}
      (hlimit : Settles Duration.ofText? settings.timeout timing.probeTimeout limit)
      (huri : Uri.Fetches settings.url uri)
      (hrange : settings.minStatus.getD 200 ≤ settings.maxStatus.getD 200) :
      Describes timing (.http settings)
        (.http
          { uri, timeout := limit
            accept :=
              { min := settings.minStatus.getD 200, max := settings.maxStatus.getD 200 } })
  | listDir (settings : ListDirSettings) :
      Describes timing (.listDir settings) (.listDir { path := settings.path })
  | safeMode {settings : SafeModeSettings} {limit : Nat} {uri : Uri}
      (hlimit : Settles Duration.ofText? settings.timeout timing.probeTimeout limit)
      (huri : Uri.Fetches settings.url uri) :
      Describes timing (.safeMode settings) (.safeMode { uri, timeout := limit })

/-- What is wrong with a section: first its limit, then its URL, then its range. -/
inductive Refused : TargetSettings → CommandError → Prop where
  | connectTimeout {settings : PortSettings} {error : CommandError}
      (hlimit : Unreadable "probes.port.connect_timeout" settings.connectTimeout error) :
      Refused (.port settings) error
  | httpTimeout {settings : HttpSettings} {error : CommandError}
      (hlimit : Unreadable "probes.http.timeout" settings.timeout error) :
      Refused (.http settings) error
  | httpUrl {settings : HttpSettings} {error : ProbeError}
      (hlimit : Readable settings.timeout) (hurl : Uri.Refused settings.url error) :
      Refused (.http settings) (.probe error)
  | httpRange {settings : HttpSettings} {uri : Uri}
      (hlimit : Readable settings.timeout) (huri : Uri.Fetches settings.url uri)
      (hrange : settings.maxStatus.getD 200 < settings.minStatus.getD 200) :
      Refused (.http settings)
        (.probe (.config (settings.url ++ ": status range " ++
          (toString (settings.minStatus.getD 200) ++ "..=" ++
            toString (settings.maxStatus.getD 200)) ++ " is empty")))
  | safeModeTimeout {settings : SafeModeSettings} {error : CommandError}
      (hlimit : Unreadable "dependencies.safe_mode.timeout" settings.timeout error) :
      Refused (.safeMode settings) error
  | safeModeUrl {settings : SafeModeSettings} {error : ProbeError}
      (hlimit : Readable settings.timeout) (hurl : Uri.Refused settings.url error) :
      Refused (.safeMode settings) (.probe error)

/-- A section without a fault.  Each end of a range of status codes has its own
default. -/
def Sound : TargetSettings → Prop
  | port settings => Readable settings.connectTimeout
  | http settings =>
      Readable settings.timeout ∧ (∃ uri, Uri.Fetches settings.url uri) ∧
        settings.minStatus.getD 200 ≤ settings.maxStatus.getD 200
  | safeMode settings => Readable settings.timeout ∧ ∃ uri, Uri.Fetches settings.url uri
  | pid _ | listDir _ => True

/-- The first section with a fault, and what is wrong with it. -/
def FirstRefused (sections : List TargetSettings) (error : CommandError) : Prop :=
  ∃ before first after, sections = before ++ first :: after ∧
    (∀ earlier ∈ before, ∀ fault, ¬earlier.Refused fault) ∧ first.Refused error

/-- The target of a section, or why there is none. -/
def target (timing : Timing) : TargetSettings → Except CommandError Target
  | port settings => settings.target timing
  | pid settings => .ok settings.target
  | http settings => settings.target timing
  | listDir settings => .ok settings.target
  | safeMode settings => settings.target timing

end TargetSettings

/-! ## One section -/

section HttpUrl

variable {url : String} {accept : StatusRange} {timeout : Nat} {probe : HttpProbe}
  {error : ProbeError}

theorem HttpProbe.ofUrl_eq_ok_iff :
    ofUrl url accept timeout = .ok probe ↔
      ∃ uri, Uri.Fetches url uri ∧ accept.min ≤ accept.max ∧ probe = { uri, accept, timeout } := by
  unfold ofUrl
  simp only [bind_eq_ok_iff, Uri.ofProbeUrl_eq_ok_iff]
  refine exists_congr fun uri => and_congr_right fun _ => ?_
  split
  next hempty => exact iff_of_false nofun fun hprobe => Nat.not_lt.mpr hprobe.1 hempty
  next hrange => simp [Nat.not_lt.mp hrange, pure, Except.pure, eq_comm]

theorem HttpProbe.ofUrl_eq_error_iff :
    ofUrl url accept timeout = .error error ↔
      Uri.Refused url error ∨
        ∃ uri, Uri.Fetches url uri ∧ accept.max < accept.min ∧
          error = .config (url ++ ": status range " ++ accept.text ++ " is empty") := by
  unfold ofUrl
  simp only [bind_eq_error_iff, Uri.ofProbeUrl_eq_ok_iff, Uri.ofProbeUrl_eq_error_iff]
  refine or_congr_right (exists_congr fun uri => and_congr_right fun _ => ?_)
  split
  next hempty => simp [hempty, eq_comm]
  next hrange => exact iff_of_false nofun fun herror => hrange herror.1

theorem SafeModeProbe.ofUrl_eq_ok_iff {probe : SafeModeProbe} :
    ofUrl url timeout = .ok probe ↔ ∃ uri, Uri.Fetches url uri ∧ probe = { uri, timeout } := by
  simp only [ofUrl, ← Uri.ofProbeUrl_eq_ok_iff]
  cases Uri.ofProbeUrl url with
  | error error => simp [Except.map]
  | ok uri => simp [Except.map, eq_comm]

theorem SafeModeProbe.ofUrl_eq_error_iff :
    ofUrl url timeout = .error error ↔ Uri.Refused url error := by
  simp only [ofUrl, ← Uri.ofProbeUrl_eq_error_iff]
  cases Uri.ofProbeUrl url with
  | error error => simp [Except.map]
  | ok uri => simp [Except.map]

end HttpUrl

namespace TargetSettings

variable {timing : Timing} {settings : TargetSettings} {found : Target} {error : CommandError}

theorem target_http (timing : Timing) (settings : HttpSettings) :
    target timing (.http settings) =
      limited "probes.http.timeout" settings.timeout timing
        (HttpProbe.ofUrl settings.url settings.accept) .http :=
  rfl

theorem target_safeMode (timing : Timing) (settings : SafeModeSettings) :
    target timing (.safeMode settings) =
      limited "dependencies.safe_mode.timeout" settings.timeout timing
        (SafeModeProbe.ofUrl settings.url) .safeMode :=
  rfl

theorem target_eq_ok_iff :
    settings.target timing = .ok found ↔ settings.Describes timing found := by
  constructor
  · intro hok
    cases settings with
    | port port =>
        obtain ⟨limit, hlimit, hok⟩ := bind_eq_ok hok
        cases hok
        exact .port (timeoutSetting_eq_ok_iff.mp hlimit)
    | pid pid =>
        cases hok
        exact .pid pid
    | http http =>
        rw [target_http] at hok
        obtain ⟨limit, probe, hlimit, hprobe, rfl⟩ := limited_eq_ok_iff.mp hok
        obtain ⟨uri, huri, hrange, rfl⟩ := HttpProbe.ofUrl_eq_ok_iff.mp hprobe
        exact .http hlimit huri hrange
    | listDir listDir =>
        cases hok
        exact .listDir listDir
    | safeMode safeMode =>
        rw [target_safeMode] at hok
        obtain ⟨limit, probe, hlimit, hprobe, rfl⟩ := limited_eq_ok_iff.mp hok
        obtain ⟨uri, huri, rfl⟩ := SafeModeProbe.ofUrl_eq_ok_iff.mp hprobe
        exact .safeMode hlimit huri
  · intro hdescribes
    cases hdescribes with
    | port hlimit => exact bind_eq_ok_iff.mpr ⟨_, timeoutSetting_eq_ok_iff.mpr hlimit, rfl⟩
    | pid pid => rfl
    | @http http limit uri hlimit huri hrange =>
        have hprobe : HttpProbe.ofUrl http.url http.accept limit = .ok ⟨uri, http.accept, limit⟩ :=
          HttpProbe.ofUrl_eq_ok_iff.mpr ⟨uri, huri, hrange, rfl⟩
        exact limited_eq_ok_iff.mpr ⟨limit, _, hlimit, hprobe, rfl⟩
    | listDir listDir => rfl
    | @safeMode safeMode limit uri hlimit huri =>
        have hprobe : SafeModeProbe.ofUrl safeMode.url limit = .ok ⟨uri, limit⟩ :=
          SafeModeProbe.ofUrl_eq_ok_iff.mpr ⟨uri, huri, rfl⟩
        exact limited_eq_ok_iff.mpr ⟨limit, _, hlimit, hprobe, rfl⟩

theorem target_eq_error_iff :
    settings.target timing = .error error ↔ settings.Refused error := by
  constructor
  · intro hfailed
    cases settings with
    | port port =>
        rcases bind_eq_error_iff.mp hfailed with hlimit | ⟨_, -, hdone⟩
        · exact .connectTimeout (timeoutSetting_eq_error_iff.mp hlimit)
        · cases hdone
    | pid pid => cases hfailed
    | http http =>
        rw [target_http] at hfailed
        rcases limited_eq_error_iff.mp hfailed with hlimit | ⟨limit, cause, hlimit, hcause, rfl⟩
        · exact .httpTimeout hlimit
        · have hreadable := exists_settles_iff.mp ⟨limit, hlimit⟩
          rcases HttpProbe.ofUrl_eq_error_iff.mp hcause with hurl | ⟨uri, huri, hrange, rfl⟩
          · exact .httpUrl hreadable hurl
          · exact .httpRange hreadable huri hrange
    | listDir listDir => cases hfailed
    | safeMode safeMode =>
        rw [target_safeMode] at hfailed
        rcases limited_eq_error_iff.mp hfailed with hlimit | ⟨limit, cause, hlimit, hcause, rfl⟩
        · exact .safeModeTimeout hlimit
        · exact .safeModeUrl (exists_settles_iff.mp ⟨limit, hlimit⟩)
            (SafeModeProbe.ofUrl_eq_error_iff.mp hcause)
  · intro hrefused
    cases hrefused with
    | connectTimeout hlimit =>
        exact bind_eq_error_iff.mpr (.inl (timeoutSetting_eq_error_iff.mpr hlimit))
    | httpTimeout hlimit => exact limited_eq_error_iff.mpr (.inl hlimit)
    | @httpUrl http cause hreadable hurl =>
        obtain ⟨limit, hlimit⟩ := exists_settles_iff.mpr hreadable
        have hcause : HttpProbe.ofUrl http.url http.accept limit = .error cause :=
          HttpProbe.ofUrl_eq_error_iff.mpr (.inl hurl)
        exact limited_eq_error_iff.mpr (.inr ⟨limit, cause, hlimit, hcause, rfl⟩)
    | @httpRange http uri hreadable huri hrange =>
        obtain ⟨limit, hlimit⟩ := exists_settles_iff.mpr hreadable
        have hcause : HttpProbe.ofUrl http.url http.accept limit = .error _ :=
          HttpProbe.ofUrl_eq_error_iff.mpr (.inr ⟨uri, huri, hrange, rfl⟩)
        exact limited_eq_error_iff.mpr (.inr ⟨limit, _, hlimit, hcause, rfl⟩)
    | safeModeTimeout hlimit => exact limited_eq_error_iff.mpr (.inl hlimit)
    | @safeModeUrl safeMode cause hreadable hurl =>
        obtain ⟨limit, hlimit⟩ := exists_settles_iff.mpr hreadable
        have hcause : SafeModeProbe.ofUrl safeMode.url limit = .error cause :=
          SafeModeProbe.ofUrl_eq_error_iff.mpr hurl
        exact limited_eq_error_iff.mpr (.inr ⟨limit, cause, hlimit, hcause, rfl⟩)

theorem exists_describes_iff :
    (∃ found, settings.Describes timing found) ↔ settings.Sound := by
  constructor
  · rintro ⟨_, hdescribes⟩
    cases hdescribes with
    | port hlimit => exact exists_settles_iff.mp ⟨_, hlimit⟩
    | http hlimit huri hrange => exact ⟨exists_settles_iff.mp ⟨_, hlimit⟩, ⟨_, huri⟩, hrange⟩
    | safeMode hlimit huri => exact ⟨exists_settles_iff.mp ⟨_, hlimit⟩, _, huri⟩
    | pid | listDir => trivial
  · intro hsound
    cases settings with
    | port port =>
        obtain ⟨limit, hlimit⟩ := exists_settles_iff.mpr hsound
        exact ⟨_, .port hlimit⟩
    | pid pid => exact ⟨_, .pid pid⟩
    | http http =>
        obtain ⟨hreadable, ⟨uri, huri⟩, hrange⟩ := hsound
        obtain ⟨limit, hlimit⟩ := exists_settles_iff.mpr hreadable
        exact ⟨_, .http hlimit huri hrange⟩
    | listDir listDir => exact ⟨_, .listDir listDir⟩
    | safeMode safeMode =>
        obtain ⟨hreadable, uri, huri⟩ := hsound
        obtain ⟨limit, hlimit⟩ := exists_settles_iff.mpr hreadable
        exact ⟨_, .safeMode hlimit huri⟩

/-- A section has a target or a fault. -/
theorem exists_target_iff :
    (∃ found, settings.target timing = .ok found) ↔ ∀ fault, ¬settings.Refused fault := by
  have hrefused : ∀ fault, settings.Refused fault ↔ settings.target timing = .error fault :=
    fun _ => target_eq_error_iff.symm
  simp only [hrefused]
  cases settings.target timing with
  | ok found => simp
  | error error => simp

theorem Describes.cancellable (hdescribes : settings.Describes timing found) :
    found.probe.cancellable = false ↔ ∃ listDir, settings = .listDir listDir := by
  cases hdescribes <;> simp [Target.probe, Target.cancellable]

theorem Describes.hasSafeMode (hdescribes : settings.Describes timing found) :
    found.probe.hasSafeMode = true ↔ ∃ safeMode, settings = .safeMode safeMode := by
  cases hdescribes <;> simp [Target.probe, Target.hasSafeMode]

end TargetSettings

/-! ## Lists of sections -/

section Sections

variable {timing : Timing}

theorem targetOf_eq_mapM {α : Type} (settings : Option α)
    (target : α → Except CommandError Target) :
    targetOf settings target = settings.toList.mapM target := by
  cases settings with
  | none => rfl
  | some settings =>
      rw [Option.toList_some, List.mapM_cons, targetOf]
      cases target settings <;> rfl

theorem ProbeSettings.targets_eq_mapM (settings : ProbeSettings) (timing : Timing) :
    settings.targets timing = settings.sections.mapM (TargetSettings.target timing) := by
  simp only [targets, sections, targetOf_eq_mapM, List.mapM_append, List.mapM_map, bind_assoc,
    pure_bind]
  rfl

theorem DependencySettings.targets_eq_mapM (settings : DependencySettings) (timing : Timing) :
    settings.targets timing = settings.sections.mapM (TargetSettings.target timing) := by
  rw [targets, sections, targetOf_eq_mapM, List.mapM_map]
  rfl

/-- What a list of sections comes to. -/
structure SectionsRecord (timing : Timing) (sections : List TargetSettings)
    (result : Except CommandError (List Target)) : Prop where
  sound : (∃ targets, result = .ok targets) ↔ ∀ settings ∈ sections, settings.Sound
  /-- There is one target for each section, in order. -/
  targets : ∀ targets, result = .ok targets ↔
    List.Forall₂ (TargetSettings.Describes timing) sections targets
  refused : ∀ error, result = .error error ↔ TargetSettings.FirstRefused sections error

theorem sectionsRecord (timing : Timing) (sections : List TargetSettings) :
    SectionsRecord timing sections (sections.mapM (TargetSettings.target timing)) where
  sound := by
    simp only [exists_mapM_eq_ok_iff, TargetSettings.target_eq_ok_iff,
      TargetSettings.exists_describes_iff]
  targets targets := by
    simp only [mapM_eq_ok_iff, TargetSettings.target_eq_ok_iff]
  refused error := by
    simp only [mapM_eq_error_iff, TargetSettings.exists_target_iff,
      TargetSettings.target_eq_error_iff, TargetSettings.FirstRefused]

end Sections

/-! ## All sections of settings -/

/-- What the sections of settings come to, and what the monitor is told of their
targets. -/
structure Settings.AssemblyRecord (settings : Settings) (timing : Timing) : Prop where
  probes : SectionsRecord timing settings.probes.sections (settings.probes.targets timing)
  dependencies :
    SectionsRecord timing settings.dependencies.sections (settings.dependencies.targets timing)
  loneMinimum : ∀ http bound, settings.probes.http = some http →
    http.minStatus = some bound → http.maxStatus = none → 200 < bound →
      ∃ error, settings.probes.targets timing = .error error
  loneMaximum : ∀ http bound, settings.probes.http = some http →
    http.minStatus = none → http.maxStatus = some bound → bound < 200 →
      ∃ error, settings.probes.targets timing = .error error
  uncancellable : ∀ primaries dependencies,
    settings.probes.targets timing = .ok primaries →
      settings.dependencies.targets timing = .ok dependencies →
        ∀ target ∈ primaries ++ dependencies,
          target.probe.cancellable = false ↔
            ∃ listDir, settings.probes.listDir = some listDir ∧
              target = .listDir { path := listDir.path }
  safeMode : ∀ primaries dependencies,
    settings.probes.targets timing = .ok primaries →
      settings.dependencies.targets timing = .ok dependencies →
        ∀ target ∈ primaries ++ dependencies,
          target.probe.hasSafeMode = true ↔ target ∈ dependencies

section Assembly

variable {settings : Settings} {timing : Timing} {sections : List TargetSettings}
  {result : Except CommandError (List Target)} {primaries dependencies : List Target}
  {target : Target} {error : CommandError}

theorem SectionsRecord.exists_error (hrecord : SectionsRecord timing sections result)
    {unsound : TargetSettings} (hmem : unsound ∈ sections) (hunsound : ¬unsound.Sound) :
    ∃ error, result = .error error := by
  cases result with
  | ok targets => exact absurd (hrecord.sound.mp ⟨targets, rfl⟩ unsound hmem) hunsound
  | error error => exact ⟨error, rfl⟩

theorem http_mem_sections {http : HttpSettings} (hhttp : settings.probes.http = some http) :
    TargetSettings.http http ∈ settings.probes.sections := by
  simp [ProbeSettings.sections, hhttp]

theorem listDir_mem_sections {listDir : ListDirSettings}
    (hmem : .listDir listDir ∈ settings.probes.sections ++ settings.dependencies.sections) :
    settings.probes.listDir = some listDir := by
  simpa [ProbeSettings.sections, DependencySettings.sections] using hmem

theorem safeMode_notMem_sections (safeMode : SafeModeSettings) :
    .safeMode safeMode ∉ settings.probes.sections := by
  simp [ProbeSettings.sections]

theorem eq_safeMode_of_mem_sections {found : TargetSettings}
    (hmem : found ∈ settings.dependencies.sections) : ∃ safeMode, found = .safeMode safeMode := by
  obtain ⟨safeMode, -, rfl⟩ := List.mem_map.mp hmem
  exact ⟨safeMode, rfl⟩

end Assembly

/-- The targets of settings, and of their dependencies, for any timing. -/
theorem assembly_record (settings : Settings) (timing : Timing) :
    settings.AssemblyRecord timing := by
  have hprobes :
      SectionsRecord timing settings.probes.sections (settings.probes.targets timing) := by
    rw [settings.probes.targets_eq_mapM]
    exact sectionsRecord timing _
  have hdependencies :
      SectionsRecord timing settings.dependencies.sections
        (settings.dependencies.targets timing) := by
    rw [settings.dependencies.targets_eq_mapM]
    exact sectionsRecord timing _
  constructor
  case probes => exact hprobes
  case dependencies => exact hdependencies
  case loneMinimum =>
    intro http bound hhttp hmin hmax hbound
    refine hprobes.exists_error (http_mem_sections hhttp) ?_
    rintro ⟨-, -, hrange⟩
    rw [hmin, hmax] at hrange
    exact Nat.not_lt.mpr hrange hbound
  case loneMaximum =>
    intro http bound hhttp hmin hmax hbound
    refine hprobes.exists_error (http_mem_sections hhttp) ?_
    rintro ⟨-, -, hrange⟩
    rw [hmin, hmax] at hrange
    exact Nat.not_lt.mpr hrange hbound
  case uncancellable =>
    intro primaries dependencies hprimaries hfound target htarget
    -- Dependencies are asked as well, so that the two lists are taken as one.
    have hall := List.rel_append ((hprobes.targets _).mp hprimaries)
      ((hdependencies.targets _).mp hfound)
    obtain ⟨described, hmem, hdescribes⟩ := exists_of_mem_forall₂ hall htarget
    constructor
    · intro hkept
      obtain ⟨listDir, rfl⟩ := hdescribes.cancellable.mp hkept
      cases hdescribes
      exact ⟨listDir, listDir_mem_sections hmem, rfl⟩
    · rintro ⟨listDir, -, rfl⟩
      rfl
  case safeMode =>
    intro primaries dependencies hprimaries hfound target htarget
    constructor
    · intro hsafeMode
      rcases List.mem_append.mp htarget with htarget | htarget
      · obtain ⟨described, hmem, hdescribes⟩ :=
          exists_of_mem_forall₂ ((hprobes.targets _).mp hprimaries) htarget
        obtain ⟨safeMode, rfl⟩ := hdescribes.hasSafeMode.mp hsafeMode
        exact absurd hmem (safeMode_notMem_sections safeMode)
      · exact htarget
    · intro htarget
      obtain ⟨described, hmem, hdescribes⟩ :=
        exists_of_mem_forall₂ ((hdependencies.targets _).mp hfound) htarget
      exact hdescribes.hasSafeMode.mpr (eq_safeMode_of_mem_sections hmem)

end HealthMonitor
