import HealthMonitor.Http.Fetch
import HealthMonitor.Probe

/-!
# The HTTP probe

Fetches an identifier; its target is up when the status code of the reply is
in the accepted range.
-/

namespace HealthMonitor

/-- A range of status codes, both ends included. -/
structure StatusRange where
  min : Nat := 200
  max : Nat := 200
  deriving DecidableEq, Repr, Inhabited

namespace StatusRange

def contains (range : StatusRange) (code : Nat) : Bool :=
  decide (range.min ≤ code) && decide (code ≤ range.max)

def text (range : StatusRange) : String :=
  toString range.min ++ "..=" ++ toString range.max

end StatusRange

structure HttpProbe where
  uri : Uri
  accept : StatusRange
  timeout : Nat
  deriving DecidableEq, Repr

namespace HttpProbe

/-- The probe of a URL, which has to be one that can be fetched; then the range
must not be empty. -/
def ofUrl (url : String) (accept : StatusRange) (timeout : Nat) :
    Except ProbeError HttpProbe := do
  let uri ← Uri.ofProbeUrl url
  if accept.max < accept.min then
    .error (.config (url ++ ": status range " ++ accept.text ++ " is empty"))
  else return { uri, accept, timeout }

def name (probe : HttpProbe) : String :=
  "http " ++ probe.uri.text

/-- What a fetch says about the target. -/
def status (probe : HttpProbe) : Except FetchError Reply → Status
  | .error error => .downBecause probe.name "request failed" error.chain
  | .ok reply =>
      let shown := "status " ++ Reply.codeText reply.code
      if probe.accept.contains reply.code then .up probe.name shown
      else .down probe.name (shown ++ " outside " ++ probe.accept.text)

def ping (probe : HttpProbe) (exchange : Exchange) : Status :=
  probe.status (fetch probe.uri probe.timeout exchange)

end HttpProbe

end HealthMonitor
