import HealthMonitor.Http.Fetch
import HealthMonitor.Text.Blank
import HealthMonitor.Text.Split

/-!
# HTTP messages on a connection

How a reply is recognised in the bytes that a server has sent so far, and the
text of the replies that the status server sends.  A head ends with an empty
line; the body is as long as the head says, or goes on to the end of the
connection.
-/

namespace HealthMonitor

namespace Http

abbrev Bytes := List UInt8

def bytesOf (s : String) : Bytes :=
  s.toUTF8.toList

/-- The characters of bytes that are read one by one. -/
def charsOf (bytes : Bytes) : List Char :=
  bytes.map fun byte => Char.ofNat byte.toNat

/-- What stands before and after the first occurrence of a mark. -/
def splitAtMark? (mark : Bytes) : Bytes → Option (Bytes × Bytes)
  | [] => if mark.isEmpty then some ([], []) else none
  | byte :: rest =>
      if mark.isPrefixOf (byte :: rest) then some ([], (byte :: rest).drop mark.length)
      else (splitAtMark? mark rest).map fun (before, after) => (byte :: before, after)

/-- The head of a message and what follows the empty line after it. -/
def splitHead? (bytes : Bytes) : Option (Bytes × Bytes) :=
  splitAtMark? (bytesOf "\r\n\r\n") bytes

/-- The lines of a head. -/
def lines (head : Bytes) : List (List Char) :=
  (Text.splitAt '\n' (charsOf head)).map fun line => line.filter (· ≠ '\r')

/-- The words of a line. -/
def words (line : List Char) : List (List Char) :=
  (Text.splitAt ' ' line).filter (!·.isEmpty)

def lowerCase (cs : List Char) : List Char :=
  cs.map Char.toLower

/-- The value of a header, whose name may be in any case. -/
def header? (name : String) (headers : List (List Char)) : Option (List Char) :=
  headers.findSome? fun line =>
    match line.dropWhile (· ≠ ':') with
    | _ :: value =>
        if lowerCase (line.takeWhile (· ≠ ':')) = name.toList then some (Text.trimmed value)
        else none
    | [] => none

/-- How the end of a body is told. -/
inductive Framing where
  | length (count : Nat)
  | chunks
  | close
  deriving DecidableEq, Repr

/-- The framing of the reply with a status code and these headers. -/
def framing? (code : Nat) (headers : List (List Char)) : Option Framing :=
  if code = 204 ∨ code = 304 then some (.length 0)
  else if (header? "transfer-encoding" headers).any (lowerCase · = "chunked".toList) then
    some .chunks
  else
    match header? "content-length" headers with
    | some text => (Text.digits? text).map .length
    | none => some .close

/-- What bytes on a connection amount to. -/
inductive Received (α : Type) where
  /-- More bytes are needed. -/
  | partway
  | whole (value : α)
  | malformed
  deriving DecidableEq, Repr

/-- The size of a chunk, which stands before it in base sixteen. -/
def chunkSize? (line : Bytes) : Option Nat := do
  let digits ← ((charsOf line).takeWhile (· ≠ ';')).mapM Text.hexDigit?
  if digits.isEmpty then none
  else return digits.foldl (fun value digit => 16 * value + digit) 0

/-- The body in a list of chunks, after `done`; an empty chunk ends it. -/
def joinChunks : Nat → Bytes → Bytes → Received Bytes
  | 0, _, _ => .malformed
  | fuel + 1, done, bytes =>
      match splitAtMark? (bytesOf "\r\n") bytes with
      | none => .partway
      | some (line, rest) =>
          match chunkSize? line with
          | none => .malformed
          | some 0 => .whole done
          | some size =>
              if rest.length < size + 2 then .partway
              else joinChunks fuel (done ++ rest.take size) (rest.drop (size + 2))

/-- The body in the bytes after a head; `closed` if no more will come. -/
def body (framing : Framing) (closed : Bool) (bytes : Bytes) : Received Bytes :=
  match framing with
  | .length count => if bytes.length < count then .partway else .whole (bytes.take count)
  | .chunks => joinChunks (bytes.length + 1) [] bytes
  | .close => if closed then .whole bytes else .partway

/-- The status code in the first line of a reply. -/
def statusCode? (line : List Char) : Option Nat :=
  match words line with
  | version :: code :: _ =>
      if "HTTP/1.".toList.isPrefixOf version ∧ code.length = 3 then Text.digits? code else none
  | _ => none

/-- The reply in the bytes received so far.  Interim replies are passed over. -/
def reply : Nat → Bool → Bytes → Received Reply
  | 0, _, _ => .malformed
  | fuel + 1, closed, bytes =>
      match splitHead? bytes with
      | none => .partway
      | some (head, rest) =>
          match lines head with
          | [] => .malformed
          | first :: headers =>
              match statusCode? first with
              | none => .malformed
              | some code =>
                  if code < 200 then reply fuel closed rest
                  else
                    match framing? code headers with
                    | none => .malformed
                    | some framing =>
                        match body framing closed rest with
                        | .partway => .partway
                        | .malformed => .malformed
                        | .whole content => .whole { code, body := ⟨content.toArray⟩ }

/-- The answer in the bytes received so far, once there is one. -/
def answer? (closed : Bool) (bytes : Bytes) : Option Answer :=
  match reply (bytes.length + 1) closed bytes with
  | .whole found => some (.replied found)
  | .malformed => some (.broken "invalid HTTP response")
  | .partway => if closed then some (.broken closedEarly) else none

/-- The method and the target of the request in the bytes received so far. -/
def request? (bytes : Bytes) : Option (String × String) := do
  let (head, _) ← splitHead? bytes
  match words ((lines head).headD []) with
  | method :: target :: _ => return (String.ofList method, String.ofList target)
  | _ => none

/-- A reply with a body of some type, as it is sent. -/
def replyText (code : Nat) (contentType : Option String) (body : String) : String :=
  let type := match contentType with
    | some name => "content-type: " ++ name ++ "\r\n"
    | none => ""
  "HTTP/1.1 " ++ Reply.codeText code ++ "\r\n" ++ type ++ "content-length: " ++
    toString body.utf8ByteSize ++ "\r\nconnection: close\r\n\r\n" ++ body

end Http

end HealthMonitor
