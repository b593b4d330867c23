import DebugBridge.CommandLine.Program
import DebugBridge.Process.Programs
import DebugBridge.Process.Script
import DebugBridge.Toml.Codec

/-!
# The program in a working directory

A working directory in which the program runs with a scripted bridge. The bridge is a file of the
directory's search path; beside it lies a file that is no program. A name is looked up on the search
path, a path is followed from the working directory, and a rooted path leads to the programs of the
system. The bridge may be gone after a number of commands.
-/

namespace DebugBridge.Scenario

open CommandLine

structure WorkingDirectory where
  files : Files
  script : Script := {}
  /-- After how many commands the bridge is gone. -/
  lasts? : Option Nat := none
  /-- A command that hangs leaves somebody behind who keeps its output open. -/
  holdsOutput : Bool := false

namespace WorkingDirectory

def searchPath : String := "bin"

def bridgePlace : Place := { names := [searchPath, "adb"] }

def plainPlace : Place := { names := [searchPath, "plain.txt"] }

def initialFiles : Files :=
  ⟨[({ names := [searchPath] }, .directory), (bridgePlace, .file []), (plainPlace, .file []),
    ({ fromRoot := true, names := ["dev"] }, .directory),
    ({ fromRoot := true, names := ["dev", "null"] }, .file []),
    ({ fromRoot := true, names := ["tmp"] }, .directory)]⟩

def addFile (fs : Files) (path : String) (bytes : List UInt8) : Except Fault Files :=
  match fs.makeWay path with
  | (.error cause, _) => .error cause
  | (.ok (), fs) => fs.write path bytes

inductive Target where
  | bridge
  | system
  | nothing
  | refused (cause : Fault)
  deriving DecidableEq, Repr

def target (fs : Files) (program : String) : Target :=
  match program.toList with
  | [] => .nothing
  | '/' :: _ => .system
  | _ =>
    let path := if '/' ∈ program.toList then program else Files.join searchPath program
    match fs.resolve path with
    | .ok (.present place (.file _)) =>
      if place = bridgePlace then .bridge else .refused .permissionDenied
    | .ok (.present _ .directory) => .refused .permissionDenied
    | .ok (.free _) | .error .notFound => .nothing
    | .error .notDirectory => .refused .notDirectory

def concernsBridge (d : WorkingDirectory) (argv : List String) : Bool :=
  argv.head?.any fun program => target d.files program = .bridge

/-- Of some commands, latest first, those that the bridge carried out. -/
def carriedOut (d : WorkingDirectory) (commands : List (List String)) : List (List String) :=
  let wanted := commands.filter d.concernsBridge
  match d.lasts? with
  | none => wanted
  | some n => wanted.drop (wanted.length - n)

def hasBridge (d : WorkingDirectory) (earlier : List (List String)) : Bool :=
  d.lasts?.all ((d.carriedOut earlier).length < ·)

/-- The reply as a process of the system gives it: an exit code is a byte. -/
def ofProcess (d : WorkingDirectory) (r : Reply) : Reply :=
  match r.fate with
  | .exits (.code n) => { r with fate := .exits (.code (n % 256)) }
  | .hangs => if d.holdsOutput then { r with output := { r.output with ending := .held } } else r
  | _ => r

def backend (d : WorkingDirectory) : Backend := fun earlier argv =>
  match target d.files (argv.headD "") with
  | .system => Programs.backend earlier argv
  | .nothing => { fate := .missing }
  | .refused cause => { fate := .refused cause }
  | .bridge =>
    if d.hasBridge earlier then d.ofProcess (d.script.reply (d.carriedOut earlier) argv)
    else { fate := .missing }

end WorkingDirectory

structure ProgramReport where
  exitCode : Nat
  stdout : List UInt8
  stderr : List String
  /-- The commands that the bridge carried out, in order. -/
  commands : List (List String)
  files : Files

namespace WorkingDirectory

def report (d : WorkingDirectory) (h : Host) (exitCode : Nat) (files : Files) : ProgramReport :=
  { exitCode := exitCode, stdout := h.printed, stderr := h.stderr.reverse,
    commands := (d.carriedOut (h.commands.map (·.argv))).reverse, files := files }

/-- Run the program, which the user asks to stop at every cue; nothing when it never ends. -/
def run? (d : WorkingDirectory) (env : Environment) (cues : List Host.Cue)
    (arguments : List String) : Option ProgramReport :=
  let h : Host := { backend := d.backend, cues := cues }
  match CommandLine.run readArguments Toml.codec env d.files arguments h with
  | .ok (code, files) h => some (d.report h code files)
  | .error (.exit code) h => some (d.report h code d.files)
  | .error .panicked h => some (d.report h 101 d.files)
  | .error .forever _ => none

end WorkingDirectory
end DebugBridge.Scenario
