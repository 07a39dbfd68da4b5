import HealthMonitor.Host.Observe
import HealthMonitor.StatusPage

/-!
# The status server on this machine

Listens on an address and answers each request from the board as it is then.
-/

namespace HealthMonitor.Host

open Std.Async

structure StatusServer where
  socket : TCP.Socket.Server
  board : IO.Ref Board

namespace StatusServer

/-- How many connections may wait to be accepted. -/
def backlog : UInt32 := 128

/-- A server that listens on an address, with the address it got, or why it
cannot listen there. -/
def listen (bind : String) : IO (Except String (StatusServer × String)) := do
  let names ← namesOfHosts [hostOfEndpoint bind]
  match Net.endpointOf names bind with
  | .error error => return .error error.text
  | .ok endpoint =>
      try
        let socket ← TCP.Socket.Server.mk
        socket.bind (socketAddress endpoint)
        socket.listen backlog
        let address := (endpointAt (← socket.getSockName)).text
        return .ok ({ socket, board := ← IO.mkRef {} }, address)
      catch error => return .error (errorText error)

/-- Receives until a request is there, or no more comes. -/
partial def receive (client : TCP.Socket.Client) (bytes : Http.Bytes) :
    Async (Option (String × String)) := do
  match ← client.recv? 65536 with
  | none => return none
  | some more =>
      let bytes := bytes ++ more.toList
      match Http.request? bytes with
      | some request => return some request
      | none => receive client bytes

/-- Answers one request. -/
def answer (board : IO.Ref Board) (client : TCP.Socket.Client) : Async Unit := do
  try
    match ← receive client [] with
    | none => return ()
    | some (method, target) =>
        let reply := (← board.get).serve method target
        client.send (Http.replyText reply.code reply.contentType reply.body).toUTF8
        client.shutdown
  catch _ => return ()

/-- Answers every request there will be. -/
partial def serve (server : StatusServer) : Async Unit := do
  let client ← server.socket.accept
  background (answer server.board client)
  serve server

end StatusServer

end HealthMonitor.Host
