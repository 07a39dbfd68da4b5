import HealthMonitor.Files
import HealthMonitor.Probe
import HealthMonitor.Text.Blank
import HealthMonitor.Text.Numeral

/-!
# The pid file probe

Reads the number of a process from a file; its target is up while that process
runs.  Only a positive number names a process: zero and negative ones address
groups, so they are never asked for.  Whether a process runs is found out by
the signal zero, which is checked like any other signal and never delivered.
-/

namespace HealthMonitor

structure PidProbe where
  file : String
  deriving DecidableEq, Repr

/-- Why a pid file names no process. -/
inductive PidError where
  | empty
  /-- The text in the file is not a process id. -/
  | notPid (text : String)
  deriving DecidableEq, Repr

def PidError.text : PidError → String
  | empty => "pid file is empty"
  | notPid text => "pid file holds " ++ Text.quoted text ++ ", not a process id"

/-- What the attempt to send a signal comes to. -/
structure SignalReply where
  /-- Zero, if the signal could be sent. -/
  returned : Int
  /-- The number of the last error. -/
  lastError : Int
  deriving DecidableEq, Repr

namespace SignalReply

/-- The number of the error of one who may not signal a process. -/
def notPermitted : Int := 1

/-- Whether there is a process to signal, be it someone else's. -/
def isAlive (reply : SignalReply) : Bool :=
  if reply.returned = 0 then true else reply.lastError == notPermitted

end SignalReply

namespace PidProbe

def name (probe : PidProbe) : String :=
  "pid file " ++ probe.file

/-- The process that the content of a pid file names. -/
def readPid (content : String) : Except PidError Int :=
  let body := Text.trimmed content.toList
  if body.isEmpty then .error .empty
  else
    match Text.signed? Text.maxInt32 body with
    | some pid => if 0 < pid then .ok pid else .error (.notPid (String.ofList body))
    | none => .error (.notPid (String.ofList body))

/-- Whether a process exists, where `kill` sends a process a signal. -/
def isRunning (kill : Int → Int → SignalReply) (pid : Int) : Bool :=
  (kill pid 0).isAlive

/-- What the content of the file, or the failure to read it, says about the
process. -/
def ping (probe : PidProbe) (kill : Int → Int → SignalReply) :
    Except FileError String → Status
  | .error .notFound =>
      .downBecause probe.name "pid file is missing" [FileError.notFound.text]
  | .error error => .downBecause probe.name "cannot read pid file" [error.text]
  | .ok content =>
      match readPid content with
      | .error error => .down probe.name error.text
      | .ok pid =>
          if isRunning kill pid then .up probe.name ("process " ++ toString pid ++ " is running")
          else .down probe.name ("process " ++ toString pid ++ " is not running")

end PidProbe

end HealthMonitor
