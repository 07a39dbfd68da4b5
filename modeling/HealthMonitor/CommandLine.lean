import HealthMonitor.CommandLine.Options

/-!
# The command line

The program has two commands: one monitors a service as a settings file
describes it, the other checks a service once.
-/

namespace HealthMonitor

/-- What a status check is asked to do, as it was written. -/
structure StatusCheckArgs where
  pid : Option String := none
  path : Option String := none
  url : Option String := none
  /-- How long a call of a probe may take, in milliseconds. -/
  timeout : Nat := 60000
  /-- How long the service may take to come up; zero and less for ever. -/
  bootTimeout : Int := -1
  waitSafeMode : Option String := none
  deriving DecidableEq, Repr, Inhabited

inductive Command where
  | monitor (config : String) (name : Option String)
  | statusCheck (args : StatusCheckArgs)
  deriving DecidableEq, Repr

namespace CommandLine

/-! ## Values of options -/

/-- A path must not be empty. -/
def pathFault? (value : String) : Option UsageError :=
  if value.isEmpty then some .missingValue else none

def unsignedNumber? (value : String) : Option Nat :=
  Text.unsigned? Text.maxWord64 value.toList

def signedNumber? (value : String) : Option Int :=
  Text.signed? Text.maxInt64 value.toList

def unsignedFault? (value : String) : Option UsageError :=
  if (unsignedNumber? value).isSome then none else some .invalidValue

def signedFault? (value : String) : Option UsageError :=
  if (signedNumber? value).isSome then none else some .invalidValue

/-! ## The two commands -/

def monitorOptions : List OptionSpec :=
  [{ name := "config", letter := some 'c', fault? := pathFault? },
    { name := "name" }]

def statusCheckOptions : List OptionSpec :=
  [{ name := "pid", letter := some 'i' },
    { name := "path", aliases := ["file"], letter := some 'f' },
    { name := "url", letter := some 'r' },
    { name := "timeout", letter := some 't', fault? := unsignedFault? },
    { name := "boot-timeout", letter := some 'b', negative := true, fault? := signedFault? },
    { name := "wait-safe-mode", letter := some 'w' }]

def monitorCommand (words : List String) : Except UsageError Command := do
  let given ← readOptions monitorOptions words
  match given.lookup "config" with
  | some config => return .monitor config (given.lookup "name")
  | none => .error .missingOption

def statusCheckCommand (words : List String) : Except UsageError Command := do
  let given ← readOptions statusCheckOptions words
  let defaults : StatusCheckArgs := {}
  return .statusCheck {
    pid := given.lookup "pid"
    path := given.lookup "path"
    url := given.lookup "url"
    timeout := ((given.lookup "timeout").bind unsignedNumber?).getD defaults.timeout
    bootTimeout := ((given.lookup "boot-timeout").bind signedNumber?).getD defaults.bootTimeout
    waitSafeMode := given.lookup "wait-safe-mode" }

/-- The names of the commands. -/
def commandNames : List String :=
  ["monitor", "status-check"]

/-- What comes of asking for help on commands: there is none on unknown ones, and
no command has commands of its own. -/
def helpOn : List String → UsageError
  | [] | ["help"] => .help
  | [name] => if name ∈ commandNames then .help else .unknownCommand
  | ["help", name] => if name ∈ commandNames then .help else .unknownCommand
  | _ => .unknownCommand

/-- The command that the words of a command line give.  After two dashes the
name of a command does not count as one. -/
def ofWords (escaped : Bool) : List String → Except UsageError Command
  | [] => .error .missingCommand
  | word :: rest =>
      if escaped then
        .error (if word ∈ "help" :: commandNames then .unknownArgument else .unknownCommand)
      else if word = "monitor" then monitorCommand rest
      else if word = "status-check" then statusCheckCommand rest
      else if word = "help" then .error (helpOn rest)
      else
        match Word.ofText word with
        | .escape => ofWords true rest
        | .long "help" none => .error .help
        | .long "help" (some _) => .error .unneededValue
        | .short 'h' _ => .error .help
        | .long .. | .short .. => .error .unknownArgument
        | .plain => .error .unknownCommand

/-- The command that a program is called with; its own name comes first. -/
def ofArguments (arguments : List String) : Except UsageError Command :=
  ofWords false (arguments.drop 1)

/-! ## Help -/

/-- The commands and their options, line by line. -/
def usageLines : List String :=
  ["Usage: healthmonitor <COMMAND>",
    "",
    "Commands:",
    "  monitor       Monitor a service continuously, as described by a settings file",
    "  status-check  One-shot check; exits once every probe is live or one fails",
    "",
    "Options of monitor:",
    "  -c, --config <PATH>  Path to the settings file",
    "      --name <NAME>    Override the monitor name from the settings file",
    "",
    "Options of status-check:",
    "  -i, --pid <PATH>            A pid file",
    "  -f, --path <PATH>           A directory to list",
    "  -r, --url <URL>             A web page to fetch",
    "  -t, --timeout <MS>          How long a call may take",
    "  -b, --boot-timeout <MS>     How long the service may take to come up",
    "  -w, --wait-safe-mode <URL>  A service to wait for until it leaves safe mode",
    ""]

def usage : String :=
  "\n".intercalate usageLines

/-- The exit code of a command line that is not accepted. -/
def usageCode : UInt32 :=
  2

end CommandLine

end HealthMonitor
