/-!
# Faults of the operating system

Why a call to the operating system failed. A fault of the system has a fixed text and a number; a
fault that a script stages has the text it was given.
-/

namespace DebugBridge

inductive Fault where
  | notFound
  | permissionDenied
  | fileExists
  | notDirectory
  | isDirectory
  | invalidArgument
  | tooManyFiles
  | brokenPipe
  | addressInUse
  | networkUnreachable
  | connectionReset
  | notConnected
  /-- Bytes that should have been text. -/
  | invalidText
  | staged (text : String)
  deriving DecidableEq, Repr

def Fault.message : Fault → String
  | .notFound => "No such file or directory (os error 2)"
  | .permissionDenied => "Permission denied (os error 13)"
  | .fileExists => "File exists (os error 17)"
  | .notDirectory => "Not a directory (os error 20)"
  | .isDirectory => "Is a directory (os error 21)"
  | .invalidArgument => "Invalid argument (os error 22)"
  | .tooManyFiles => "Too many open files (os error 24)"
  | .brokenPipe => "Broken pipe (os error 32)"
  | .addressInUse => "Address already in use (os error 98)"
  | .networkUnreachable => "Network is unreachable (os error 101)"
  | .connectionReset => "Connection reset by peer (os error 104)"
  | .notConnected => "Transport endpoint is not connected (os error 107)"
  | .invalidText => "stream did not contain valid UTF-8"
  | .staged text => text

end DebugBridge
