import DebugBridge.CommandLine.Help
import DebugBridge.CommandLine.Report
import DebugBridge.CommandLine.Run
import DebugBridge.Config.Store

/-!
# The program

The program reads its arguments, loads the configuration and runs the command. Arguments that are no
invocation end it with the code two. Being asked to stop is no failure. Any other failure is
reported and ends it with the code one; a missing bridge executable is reported with a hint. How
arguments are read and how documents are read and written is given to the program.
-/

namespace DebugBridge.CommandLine

structure Environment where
  config? : Option String := none
  executable? : Option String := none
  configHome? : Option String := none
  home? : Option String := none
  deriving DecidableEq, Repr

namespace Environment

def configPath (env : Environment) (named? : Option String) : Except ConfigError String :=
  match named? with
  | some path => .ok path
  | none => Config.path env.configHome? env.home?

end Environment

/-- Write a configuration with standard values: the path it was written to, and the files then. -/
def initConfig (codec : Toml.Codec) (env : Environment) (files : Files) (i : Invocation)
    (force : Bool) : Except Failure String × Files :=
  match env.configPath i.config? with
  | .error e => (.error (.config e), files)
  | .ok path =>
    if files.contains path && !force then
      (.error (.refused s!"{path} already exists; use --force to overwrite it"), files)
    else
      match Config.store codec files path { bridge := { executable? := i.executable? } } with
      | (.ok (), files) => (.ok path, files)
      | (.error e, files) => (.error (.during s!"could not write {path}" (.config e)), files)

/-- The bridge that is used: the command line's, or the one that the configuration resolves to. -/
def bridgeInForce (env : Environment) (i : Invocation) (c : Config) : Bridge :=
  match i.executable? with
  | some executable => { executable := executable }
  | none => c.resolveBridge env.executable?

/-- Add a hint to a failure for want of the bridge executable. -/
def withHint (b : Bridge) (f : Failure) : Failure :=
  if f.isMissingBinary then
    .during (s!"adb executable '{b.executable}' not found; " ++
      s!"pass --adb PATH or set ${executableVariable}") f
  else f

def announce (b : Bridge) : Act Unit := note .debug s!"using adb executable: {b.executable}"

/-- What becomes of the result of a command: being asked to stop is no failure. -/
def settle (b : Bridge) : Except Failure Unit → Act (Except Failure Unit)
  | .ok () => return .ok ()
  | .error f => do
    if f.isInterrupted then
      note .info "interrupted"
      return .ok ()
    return .error (withHint b f)

def runConfigured (codec : Toml.Codec) (env : Environment) (files : Files) (i : Invocation)
    (command : Command) : Act (Except Failure Unit) := do
  match (env.configPath i.config?).bind (Config.load codec files) with
  | .error e => return .error (.during "could not load configuration" (.config e))
  | .ok c =>
    let b := bridgeInForce env i c
    announce b
    settle b (← command.run c b)

def conclude : Except Failure Unit → Act Nat
  | .ok () => return 0
  | .error f => do
    f.report.forM complain
    return 1

def Invocation.run (codec : Toml.Codec) (env : Environment) (files : Files) (i : Invocation) :
    Act (Nat × Files) := do
  match i.task with
  | .initConfig force =>
    let (result, files) := initConfig codec env files i force
    match result with
    | .ok path =>
      printLine path
      return (0, files)
    | .error f => return (← conclude (.error f), files)
  | .command command => return (← conclude (← runConfigured codec env files i command), files)

def Stop.answer (env : Environment) : Stop → Act Nat
  | .usage => do
    complain s!"Usage: {Topic.program.usage}"
    return 2
  | .help topic => do
    (topic.page env.config?).forM printLine
    return 0
  | .version => do
    printLine versionLine
    return 0

def run (reader : Reader) (codec : Toml.Codec) (env : Environment) (files : Files)
    (arguments : List String) : Act (Nat × Files) := do
  match Invocation.ofArguments reader env.config? arguments with
  | .ok i => i.run codec env files
  | .error stop => return (← stop.answer env, files)

end DebugBridge.CommandLine
