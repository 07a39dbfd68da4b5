import HealthMonitor.Host.Clock
import HealthMonitor.Http.Message
import HealthMonitor.Target
import Std.Async.DNS
import Std.Async.TCP

/-!
# Observing targets on this machine

What the probes ask of the machine and its network: the content of files, the
entries of directories, whether processes run, and what comes of connections
and requests.  What an observation means is decided elsewhere.
-/

namespace HealthMonitor.Host

open Std.Async
open Std.Net (SocketAddress)

/-- The text of an error with its number, which may come with a sign. -/
def withCode (details : String) (code : UInt32) : String :=
  details.capitalize ++ " (os error " ++ toString code.toInt32.toInt.natAbs ++ ")"

/-- The text of an error of the system. -/
def errorText : IO.Error → String
  | .otherError code details | .resourceBusy code details | .resourceVanished code details
  | .timeExpired code details | .protocolError code details
  | .unsupportedOperation code details | .permissionDenied _ code details
  | .invalidArgument _ code details | .noSuchThing _ code details
  | .inappropriateType _ code details | .resourceExhausted _ code details =>
      withCode details code
  | error => toString error

def fileError : IO.Error → FileError
  | .noFileOrDirectory .. => .notFound
  | .inappropriateType _ 20 _ => .notDirectory
  | .inappropriateType _ 21 _ => .isDirectory
  | error => .other (errorText error)

def fileContent (path : String) : IO (Except FileError String) := do
  try
    return textOfBytes (← IO.FS.readBinFile path)
  catch error =>
    return .error (fileError error)

/-- The number of entries in a directory. -/
def entryCount (path : String) : IO (Except FileError Nat) := do
  let place : IO.FS.DirEntry := { root := path, fileName := "." }
  try
    return .ok (← place.path.readDir).size
  catch error =>
    return .error (fileError error)

/-- The reply to a signal for a process that does not exist. -/
def noSuchProcess : SignalReply := { returned := -1, lastError := 3 }

/-- The reply to the signal zero, as the table of processes tells it. -/
def signalZero (pid : Int) : IO SignalReply := do
  match ← entryCount ("/proc/" ++ toString pid) with
  | .ok _ => return { returned := 0, lastError := 0 }
  | .error .notFound => return noSuchProcess
  | .error _ => return { returned := -1, lastError := SignalReply.notPermitted }

def socketAddress (endpoint : Net.Endpoint) : SocketAddress :=
  let port := UInt16.ofNat endpoint.port
  match endpoint.address with
  | .v4 address => .v4 ⟨⟨address.octets⟩, port⟩
  | .v6 address => .v6 ⟨⟨address.groups⟩, port⟩

def endpointAt (address : SocketAddress) : Net.Endpoint :=
  match address with
  | .v4 place => ⟨.v4 ⟨place.addr.octets⟩, place.port.toNat⟩
  | .v6 place => ⟨.v6 ⟨place.addr.segments⟩, place.port.toNat⟩

def addressOf : Std.Net.IPAddr → Net.Address
  | .v4 address => .v4 ⟨address.octets⟩
  | .v6 address => .v6 ⟨address.segments⟩

/-- The address of a name, as far as the machine knows it. -/
def lookUp (name : String) : IO (Option Net.Address) := do
  try
    let found ← Async.block (DNS.getAddrInfo name "")
    return found.toList.head?.map addressOf
  catch _ => return none

/-- The addresses of some hosts. -/
def namesOfHosts (hosts : List String) : IO Net.Names := do
  let known ← hosts.mapM fun host => do return (host, ← lookUp host)
  return fun name => (known.lookup name).join

/-- The host in a text `host:port`. -/
def hostOfEndpoint (s : String) : String :=
  match Text.splitAtLast? ':' s.toList with
  | some (host, _) => String.ofList host
  | none => s

/-- The host that a target has to resolve, if it has one. -/
def hostOf? : Target → Option String
  | .port probe => some probe.host
  | .http probe => some (String.ofList (Uri.hostOf probe.uri.authority))
  | .safeMode probe => some (String.ofList (Uri.hostOf probe.uri.authority))
  | .pid _ | .listDir _ => none

/-- The addresses of the hosts of some targets. -/
def namesOf (targets : List Target) : IO Net.Names :=
  namesOfHosts (targets.filterMap hostOf?)

/-- The result of an action, if there is one within a limit. -/
def within {α : Type} (limit : Nat) (action : Async α) : IO (Option α) := do
  let answer : AsyncTask α ← action.toIO
  let timer ← Async.block (Sleep.mk (offset limit))
  let alarm : AsyncTask Unit ← timer.wait.toIO
  let first ← IO.waitAny [AsyncTask.map some answer, AsyncTask.map (fun _ => none) alarm]
  timer.stop
  IO.ofExcept first

/-- A connection to an endpoint, or why there is none. -/
def open_ (endpoint : Net.Endpoint) : Async (Except String TCP.Socket.Client) := do
  try
    let client ← TCP.Socket.Client.mk
    client.connect (socketAddress endpoint)
    return .ok client
  catch error => return .error (errorText error)

def connection (endpoint : Net.Endpoint) (limit : Nat) : IO Connection := do
  match ← within limit (open_ endpoint) with
  | some (.ok client) =>
      Async.block client.shutdown
      return .made
  | some (.error cause) => return .failed cause
  | none => return .unanswered

/-- Receives until an answer is there. -/
partial def receive (client : TCP.Socket.Client) (bytes : Http.Bytes) : Async Answer := do
  let more ← client.recv? 65536
  let bytes := bytes ++ (more.map (·.toList)).getD []
  match Http.answer? more.isNone bytes with
  | some answer => return answer
  | none => receive client bytes

/-- Sends the request for an identifier and receives the answer. -/
def request (uri : Uri) (client : TCP.Socket.Client) : Async Answer := do
  match uri.requestTarget with
  | .error _ => return .silent
  | .ok target =>
      try
        client.send (uri.requestHead target).toUTF8
        receive client []
      catch error => return .broken (errorText error)

/-- The exchange with the server of an identifier, whose answer is given up
past a limit. -/
def exchange (names : Net.Names) (uri : Uri) (limit : Nat) : IO Exchange := do
  match Net.endpointOf names uri.target with
  | .error error => return { connection := .failed error.text, answer := .silent }
  | .ok endpoint =>
      let found ← within limit (α := Exchange) do
        match ← open_ endpoint with
        | .error cause => return { connection := .failed cause, answer := .silent }
        | .ok client => return { answer := ← request uri client }
      return found.getD { connection := .unanswered, answer := .silent }

/-- One ping of a target that knew its service to be in safe mode or not. -/
def ping (names : Net.Names) (inSafeMode : Bool) : Target → IO (Status × Bool)
  | .port probe => do
      match probe.resolve names with
      | .error _ => return (probe.ping none .unanswered, false)
      | .ok endpoint =>
          return (probe.ping (some endpoint) (← connection endpoint probe.connectTimeout), false)
  | .pid probe => do
      let content ← fileContent probe.file
      let reply ← match content.toOption.bind fun text => (PidProbe.readPid text).toOption with
        | some pid => signalZero pid
        | none => pure noSuchProcess
      return (probe.ping (fun _ _ => reply) content, false)
  | .http probe => do
      return (probe.ping (← exchange names probe.uri probe.timeout), false)
  | .listDir probe => do
      return (probe.ping (← entryCount probe.path), false)
  | .safeMode probe => do
      return probe.ping inSafeMode (← exchange names probe.uri probe.timeout)

end HealthMonitor.Host
