import HealthMonitor.Duration
import HealthMonitor.Error
import HealthMonitor.Http.Reply
import HealthMonitor.Net.Address
import HealthMonitor.Uri

/-!
# Fetching over HTTP

One GET request over a connection of its own, within a time limit.  What the
network makes of it is an exchange; what the caller learns is a reply or the
reason why there is none.
-/

namespace HealthMonitor

namespace Uri

/-- The identifier of something that can be fetched: a plain one over HTTP. -/
def ofProbeUrl (url : String) : Except ProbeError Uri :=
  match ofText? url with
  | none => .error (.config ("invalid URL " ++ Text.quoted url))
  | some uri =>
      if uri.scheme = some .http then .ok uri
      else .error (.config (url ++ ": only http:// URLs are supported"))

/-- The path and query that a request names.  A query cannot go without a
path before it. -/
def requestTarget (uri : Uri) : Except String String :=
  match uri.path, uri.query with
  | [], none => .ok "/"
  | [], some [] => .error "invalid uri character"
  | [], some _ => .error "invalid format"
  | path, query => .ok (String.ofList (path ++ queryChars query))

/-- The head of the request for an identifier. -/
def requestHead (uri : Uri) (requestTarget : String) : String :=
  "GET " ++ requestTarget ++ " HTTP/1.1\r\nhost: " ++ uri.target ++
    "\r\nuser-agent: svcmon/0.1\r\n\r\n"

/-- Whether the host of an identifier has an address. -/
def resolve (names : Net.Names) (uri : Uri) : Except ProbeError Unit :=
  match Net.endpointOf names uri.target with
  | .ok _ => .ok ()
  | .error error => .error (.unresolved uri.target error.text)

end Uri

/-- What comes of opening a connection. -/
inductive Connection where
  | made
  | failed (cause : String)
  /-- Nothing answers the attempt. -/
  | unanswered
  deriving DecidableEq, Repr

/-- What a server answers on a connection that was made. -/
inductive Answer where
  | replied (reply : Reply)
  | broken (cause : String)
  | silent

/-- What the network makes of a request, and how long that takes. -/
structure Exchange where
  takes : Nat := 0
  connection : Connection := .made
  answer : Answer

/-- Why a fetch has no reply. -/
inductive FetchError where
  | connect (target cause : String)
  | request (target reason : String)
  | exchange (target cause : String)
  | timedOut (target : String) (limit : Nat)
  deriving DecidableEq, Repr

def FetchError.chain : FetchError → List String
  | connect target cause => ["cannot connect to " ++ target, cause]
  | request target reason => ["cannot build request for " ++ target, reason]
  | exchange target cause => ["HTTP exchange with " ++ target ++ " failed", cause]
  | timedOut target limit =>
      ["no response from " ++ target ++ " within " ++ Duration.text limit]

/-- The cause of an exchange whose server goes away before it answers. -/
def closedEarly : String :=
  "connection closed before message completed"

/-- What an exchange comes to without a limit on its time; `none` if it never
comes to anything. -/
def Exchange.outcome? (uri : Uri) (exchange : Exchange) : Option (Except FetchError Reply) :=
  match exchange.connection with
  | .unanswered => none
  | .failed cause => some (.error (.connect uri.target cause))
  | .made =>
      match uri.requestTarget with
      | .error reason => some (.error (.request uri.target reason))
      | .ok _ =>
          match exchange.answer with
          | .silent => none
          | .broken cause => some (.error (.exchange uri.target cause))
          | .replied reply => some (.ok reply)

/-- Fetches within `limit`.  An outcome exactly at the limit still counts. -/
def fetch (uri : Uri) (limit : Nat) (exchange : Exchange) : Except FetchError Reply :=
  let late : Except FetchError Reply := .error (.timedOut uri.target limit)
  if exchange.takes ≤ limit then (exchange.outcome? uri).getD late else late

/-- How long the fetch takes. -/
def fetchTime (uri : Uri) (limit : Nat) (exchange : Exchange) : Nat :=
  if exchange.takes ≤ limit ∧ (exchange.outcome? uri).isSome then exchange.takes else limit

end HealthMonitor
