import DebugBridge.CommandLine.Program
import DebugBridge.Process.Programs
import DebugBridge.Toml.Codec

/-!
# The command line

The configuration is on disk, everything printed goes to the standard streams, and the exit code is
the program's. Commands are answered by the programs that `Programs` describes.
-/

namespace DebugBridge

open CommandLine

def snapshot (path : String) : IO Files := do
  let entry? ← try
      pure (some (FileEntry.file (← IO.FS.readBinFile path).toList))
    catch
      | .noFileOrDirectory .. => pure none
      | _ => pure (some .directory)
  let place : Place := { fromRoot := path.startsWith "/", names := Files.parts path }
  match entry? with
  | none => return {}
  | some entry =>
    let above := (List.range place.names.length).map fun n =>
      ({ place with names := place.names.take n }, FileEntry.directory)
    return ⟨above ++ [(place, entry)]⟩

def writeOut (path : String) (bytes : List UInt8) : IO Unit := do
  if let some directory := Files.parent? path then
    if !directory.isEmpty then IO.FS.createDirAll directory
  IO.FS.writeBinFile path ⟨bytes.toArray⟩

/-- Bring the content of a path to disk when the program has changed it. -/
def writeBack (path : String) (old new : Files) : IO Unit := do
  if let .ok (some bytes) := new.read path then
    if (old.read path).toOption ≠ some (some bytes) then writeOut path bytes

def execute (env : Environment) (path : String) (arguments : List String) : IO UInt32 := do
  let files ← snapshot path
  let h : Host := { backend := Programs.backend }
  let ran := CommandLine.run readArguments Toml.codec env files arguments h
  let (code, h, changed) := match ran with
    | .ok (code, changed) h => (code, h, changed)
    | .error (.exit code) h => (code, h, files)
    | .error .forever h => (1, h, files)
    | .error .panicked h => (101, h, files)
  writeBack path files changed
  let out ← IO.getStdout
  out.write ⟨h.printed.toArray⟩
  out.flush
  h.stderr.reverse.forM fun line => IO.eprintln line
  return UInt32.ofNat code

end DebugBridge

def main (arguments : List String) : IO UInt32 := do
  let env : DebugBridge.CommandLine.Environment :=
    { config? := ← IO.getEnv DebugBridge.CommandLine.configVariable,
      executable? := ← IO.getEnv DebugBridge.executableVariable,
      configHome? := ← IO.getEnv "XDG_CONFIG_HOME", home? := ← IO.getEnv "HOME" }
  let named? := match DebugBridge.CommandLine.Invocation.ofArguments
      DebugBridge.CommandLine.readArguments env.config? arguments with
    | .ok i => i.config?
    | .error _ => none
  DebugBridge.execute env ((env.configPath named?).toOption.getD "") arguments
