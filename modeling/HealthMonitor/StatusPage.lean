import HealthMonitor.Board
import HealthMonitor.Status.Json

/-!
# The status page

What is served over HTTP: the latest result under `/status` and the recent
ones under `/events`.
-/

namespace HealthMonitor

namespace Status

/-- The view of a status under `/status`. -/
def pageView (status : Status) : Json :=
  let phase := match status.phase with
    | some phase => [("phase", .string phase.text)]
    | none => []
  let exception := match status.thrown with
    | some cause => [("exception", .object [("message", .string cause)])]
    | none => []
  .object
    ([("live", .bool status.success), ("timestamp", .number (.whole status.timestamp))] ++
      phase ++ [("message", .string status.message), ("probe", .string status.probe)] ++
      exception)

/-- The status that a view under `/status` shows. -/
def ofPageView? (value : Json) : Option Status := do
  let .bool success ← value.child? "live" | none
  let .number (.whole timestamp) ← value.child? "timestamp" | none
  let phase ← match ← optionalText? value "phase" with
    | none => some none
    | some name => (Phase.ofText? name).map some
  let .string message ← value.child? "message" | none
  let .string probe ← value.child? "probe" | none
  let thrown ← match value.child? "exception" with
    | none => some none
    | some exception =>
        match exception.child? "message" with
        | some (.string cause) => some (some cause)
        | _ => none
  if timestamp < 0 then none
  else return { probe, success, message, thrown, timestamp := timestamp.toNat, phase }

end Status

/-- An answer of the status server. -/
structure PageReply where
  code : Nat
  contentType : Option String := none
  body : String := ""
  deriving DecidableEq, Repr

namespace PageReply

def json (code : Nat) (value : Json) : PageReply :=
  { code, contentType := some "application/json", body := value.text }

def notFound : PageReply :=
  { code := 404 }

def methodNotAllowed : PageReply :=
  { code := 405 }

def withoutBody (reply : PageReply) : PageReply :=
  { reply with body := "" }

end PageReply

namespace Board

/-- The latest result; before the first one the service is not live. -/
def statusReply (board : Board) : PageReply :=
  match board.last with
  | some status => .json 200 status.pageView
  | none => .json 500 (.object [("live", .bool false)])

/-- The recent results, oldest first. -/
def eventsReply (board : Board) : PageReply :=
  .json 200 (.array (board.events.map Status.toJson))

/-- The path of a request target, without its query and fragment. -/
def pathOf (target : String) : String :=
  String.ofList (target.toList.takeWhile fun c => c ≠ '?' ∧ c ≠ '#')

/-- The answer to a request.  A HEAD request gets what a GET would, without the
body; other methods are not allowed on the two paths there are. -/
def serve (board : Board) (method target : String) : PageReply :=
  let page? := match pathOf target with
    | "/status" => some board.statusReply
    | "/events" => some board.eventsReply
    | _ => none
  match page? with
  | none => .notFound
  | some reply =>
      if method = "GET" then reply
      else if method = "HEAD" then reply.withoutBody
      else .methodNotAllowed

end Board

end HealthMonitor
