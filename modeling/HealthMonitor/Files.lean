/-!
# Files and directories

What reading a file or listing a directory can come to.
-/

namespace HealthMonitor

inductive FileError where
  | notFound
  | isDirectory
  | notDirectory
  /-- The bytes of a file are no text. -/
  | notText
  | other (cause : String)
  deriving DecidableEq, Repr

def FileError.text : FileError → String
  | notFound => "No such file or directory (os error 2)"
  | isDirectory => "Is a directory (os error 21)"
  | notDirectory => "Not a directory (os error 20)"
  | notText => "stream did not contain valid UTF-8"
  | other cause => cause

/-- The text in a file's bytes. -/
def textOfBytes (bytes : ByteArray) : Except FileError String :=
  match String.fromUTF8? bytes with
  | some text => .ok text
  | none => .error .notText

end HealthMonitor
