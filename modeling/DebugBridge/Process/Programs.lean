import DebugBridge.Process.Handle
import DebugBridge.Process.Reply
import DebugBridge.Process.Shell

/-!
# Programs of the system

What the programs that every system has do with their arguments. A name without a slash is looked up
among them; a path must lead to a program. A path that leads to something else is refused.
-/

namespace DebugBridge.Programs

structure Execution where
  output : Output := {}
  /-- The status to which the program comes by itself; some come to none. -/
  status? : Option Status := some (.exited 0)
  /-- It takes time before it ends. -/
  slow : Bool := false

/-- The text that `echo` prints: an option `-n` keeps it from ending the line. -/
def echo (args : List String) : List UInt8 :=
  match args with
  | "-n" :: rest => Utf8.encode (String.intercalate " " rest)
  | args => Utf8.encode (String.intercalate " " args ++ "\n")

def execute? (name : String) (args : List String) : Option Execution :=
  match name, args with
  | "true", _ => some {}
  | "false", _ => some { status? := some (.exited 1) }
  | "echo", args => some { output := { bytes := echo args } }
  | "printf", f :: args =>
    some { output := { bytes := Shell.format (args.map (·.toList)) f.toList } }
  | "cat", [] => some {}
  | "sleep", args => some { slow := args.any (·.toList.any (· ∈ "123456789".toList)) }
  | "yes", args =>
    let line := if args.isEmpty then "y" else String.intercalate " " args
    some { output := { bytes := Utf8.encode (line ++ "\n"), ending := .endless }, status? := none }
  | "sh", "-c" :: script :: _ =>
    let r := Shell.run script
    some { output := { bytes := r.output }, status? := r.ended?, slow := r.slow }
  | _, _ => none

def directories : List String := ["/bin/", "/usr/bin/"]

/-- The name of a program among the system's, given by name or by path. -/
def name? (program : String) : Option String :=
  if '/' ∈ program.toList then
    directories.findSome? fun d =>
      if d.toList.isPrefixOf program.toList then
        some (String.ofList (program.toList.drop d.length))
      else none
  else some program

def places : List String :=
  ["/", "/bin", "/dev", "/dev/null", "/etc", "/etc/hostname", "/etc/hosts", "/etc/passwd", "/home",
   "/root", "/tmp", "/usr", "/usr/bin", "/var"]

def files : List String := ["/etc/hostname/", "/etc/hosts/", "/etc/passwd/", "/dev/null/"]

/-- A program with its arguments, or why it cannot be started. -/
def launch (argv : List String) : Except SpawnError Execution :=
  match argv with
  | [] => .error .emptyCommand
  | program :: args =>
    match (name? program).bind (execute? · args) with
    | some e => .ok e
    | none =>
      if program ∈ places then .error (.failed program .permissionDenied)
      else if files.any (·.toList.isPrefixOf program.toList) then
        .error (.failed program .notDirectory)
      else .error (.missing program)

def fate : Except SpawnError Execution → Fate
  | .ok e => (e.status?.map (.exits ·.outcome)).getD .hangs
  | .error (.failed _ cause) => .refused cause
  | .error _ => .missing

def backend : Backend := fun _ argv =>
  let launched := launch argv
  { fate := fate launched, output := (launched.toOption.map (·.output)).getD {} }

end DebugBridge.Programs
