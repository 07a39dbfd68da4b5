import HealthMonitor.Http.Fetch
import HealthMonitor.Json.Reader
import HealthMonitor.Json.Writer
import HealthMonitor.Probe

/-!
# The safe mode probe

Asks a file system master for its attributes.  The master is up when it
answers with a text under `/beans/0/Safemode`; it is in safe mode when that
text is not empty.  The probe remembers the last answer it could read.
-/

namespace HealthMonitor

structure SafeModeProbe where
  uri : Uri
  timeout : Nat
  deriving DecidableEq, Repr

namespace SafeModeProbe

def ofUrl (url : String) (timeout : Nat) : Except ProbeError SafeModeProbe :=
  (Uri.ofProbeUrl url).map fun uri => { uri, timeout }

def name (probe : SafeModeProbe) : String :=
  "safe mode " ++ probe.uri.text

/-- Where the answer is found in the attributes. -/
def attributePath : List String :=
  ["beans", "0", "Safemode"]

/-- Whether the attributes in a body say that the master is in safe mode. -/
def readBody (body : ByteArray) : Except String Bool :=
  match Json.ofBytes? body with
  | none => .error "bad JMX JSON"
  | some attributes =>
      match attributes.at? attributePath with
      | some (.string state) => .ok !state.isEmpty
      | some other => .error ("unexpected Safemode value " ++ other.text)
      | none => .error "no Safemode attribute in JMX response"

/-- Whether a reply says that the master is in safe mode. -/
def readReply (reply : Reply) : Except String Bool :=
  if reply.isSuccess then readBody reply.body
  else .error ("JMX query returned " ++ Reply.codeText reply.code)

/-- The safe mode that a fetch reports, if it reports one. -/
def reported? : Except FetchError Reply → Option Bool
  | .error _ => none
  | .ok reply => (readReply reply).toOption

/-- What a fetch says about the target. -/
def status (probe : SafeModeProbe) : Except FetchError Reply → Status
  | .error error => .downBecause probe.name "master unreachable" error.chain
  | .ok reply =>
      match readReply reply with
      | .error reason => .down probe.name reason
      | .ok inSafeMode =>
          .up probe.name ("up, safe mode " ++ if inSafeMode then "true" else "false")

/-- One ping of a probe that knew its master to be in safe mode or not. -/
def ping (probe : SafeModeProbe) (inSafeMode : Bool) (exchange : Exchange) : Status × Bool :=
  let outcome := fetch probe.uri probe.timeout exchange
  (probe.status outcome, (reported? outcome).getD inSafeMode)

/-- What the probe knows before its `count`-th ping, when a ping is cancelled
that takes `patience` or longer. -/
def knownBefore (probe : SafeModeProbe) (patience : Nat) (exchanges : Nat → Exchange) :
    Nat → Bool
  | 0 => false
  | count + 1 =>
      let known := knownBefore probe patience exchanges count
      if fetchTime probe.uri probe.timeout (exchanges count) < patience then
        (probe.ping known (exchanges count)).2
      else known

end SafeModeProbe

end HealthMonitor
