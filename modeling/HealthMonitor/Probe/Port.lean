import HealthMonitor.Http.Fetch
import HealthMonitor.Probe

/-!
# The port probe

Opens a connection to a host and port; its target is up when that succeeds.
The host is resolved once, before the first ping.
-/

namespace HealthMonitor

structure PortProbe where
  host : String
  port : Nat
  connectTimeout : Nat
  deriving DecidableEq, Repr

namespace PortProbe

/-- The host and port as they were given. -/
def place (probe : PortProbe) : String :=
  probe.host ++ ":" ++ toString probe.port

def name (probe : PortProbe) : String :=
  "port " ++ probe.place

/-- The endpoint to connect to. -/
def resolve (probe : PortProbe) (names : Net.Names) : Except ProbeError Net.Endpoint :=
  match Net.addressOf? names probe.host with
  | some address => .ok ⟨address, probe.port⟩
  | none => .error (.unresolved probe.place Net.EndpointError.unknownHost.text)

/-- What an attempt to connect says about the target.  Without an endpoint
there is none to be made. -/
def ping (probe : PortProbe) (endpoint : Option Net.Endpoint) (connection : Connection) :
    Status :=
  match endpoint with
  | none => .down probe.name "target not resolved"
  | some endpoint =>
      match connection with
      | .made => .up probe.name ("connected to " ++ endpoint.text)
      | .failed cause =>
          .downBecause probe.name ("cannot connect to " ++ endpoint.text) [cause]
      | .unanswered =>
          .down probe.name
            ("connect to " ++ endpoint.text ++ " timed out after " ++
              toString probe.connectTimeout ++ "ms")

end PortProbe

end HealthMonitor
