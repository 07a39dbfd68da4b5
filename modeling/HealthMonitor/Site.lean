import HealthMonitor.Target

/-!
# Where a monitor runs

What the machine and its network show to the probes: files, directories,
processes, connections.  A site together with the targets of a monitor is a
world: it says how preparing each probe goes and what every call comes to.
-/

namespace HealthMonitor

/-- Something that is there after a while, or never. -/
structure Delayed (α : Type) where
  takes : Option Nat := some 0
  value : α

/-- What the machine shows to one call. -/
structure View where
  fileContent : String → Delayed (Except FileError String)
  listing : String → Delayed (Except FileError Nat)
  /-- What sending a process a signal comes to. -/
  kill : Int → Int → SignalReply
  connect : Net.Endpoint → Delayed Connection
  exchange : Uri → Exchange

structure Site where
  names : Net.Names := fun _ => none
  /-- What is shown to each call of each position, counted from zero. -/
  view : Position → Nat → View

namespace PortProbe

/-- A ping within the probe's own limit. -/
def call (probe : PortProbe) (names : Net.Names) (view : View) : Call :=
  let endpoint := (probe.resolve names).toOption
  match endpoint with
  | none => { ending := .status (probe.ping none .unanswered) }
  | some target =>
      let attempt := view.connect target
      let late : Call :=
        { takes := some probe.connectTimeout
          ending := .status (probe.ping endpoint .unanswered) }
      match attempt.takes, attempt.value with
      | _, .unanswered | none, _ => late
      | some takes, connection =>
          if takes ≤ probe.connectTimeout then
            { takes := some takes, ending := .status (probe.ping endpoint connection) }
          else late

end PortProbe

namespace Target

/-- The `count`-th call of a target, when a call is cancelled that takes
`patience` or longer. -/
def call (target : Target) (names : Net.Names) (patience : Nat) (views : Nat → View)
    (count : Nat) : Call :=
  match target with
  | port probe => probe.call names (views count)
  | pid probe =>
      let content := (views count).fileContent probe.file
      { takes := content.takes
        ending := .status (probe.ping (views count).kill content.value) }
  | http probe =>
      let exchange := (views count).exchange probe.uri
      { takes := some (fetchTime probe.uri probe.timeout exchange)
        ending := .status (probe.ping exchange) }
  | listDir probe =>
      let entries := (views count).listing probe.path
      { takes := entries.takes, ending := .status (probe.ping entries.value) }
  | safeMode probe =>
      let exchanges := fun number => (views number).exchange probe.uri
      let known := probe.knownBefore patience exchanges count
      let (status, inSafeMode) := probe.ping known (exchanges count)
      { takes := some (fetchTime probe.uri probe.timeout (exchanges count))
        ending := .status status
        safeMode := inSafeMode }

end Target

namespace Site

/-- The target at a position of two lists. -/
def target? (dependencies primaries : List Target) : Position → Option Target
  | .dependency index => dependencies[index]?
  | .primary index => primaries[index]?

/-- Why the target at a position cannot be prepared, if it cannot. -/
def fault? (names : Net.Names) (dependencies primaries : List Target) (position : Position) :
    Option ProbeError :=
  match target? dependencies primaries position with
  | some target =>
      match target.prepare names with
      | .ok _ => none
      | .error error => some error
  | none => none

/-- The world of a monitor of these targets. -/
def world (site : Site) (patience : Nat) (dependencies primaries : List Target) : World where
  init := fault? site.names dependencies primaries
  call position count :=
    match target? dependencies primaries position with
    | some target => target.call site.names patience (site.view position) count
    | none => { ending := .status default }

end Site

end HealthMonitor
