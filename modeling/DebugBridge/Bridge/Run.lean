import DebugBridge.Bridge.Command
import DebugBridge.Bridge.Error
import DebugBridge.Host.Process
import DebugBridge.Process.Rendering
import DebugBridge.Text.Utf8

/-!
# Running bridge commands

While a child runs it is armed in the caller's token, so that somebody else can kill it. It is
waited for without being released while it is armed, then disarmed, then released: a child is never
killed after its number may have passed to another process. With an interrupted token nothing is
started.
-/

namespace DebugBridge

structure Bridge where
  executable : String := "adb"
  deriving DecidableEq, Repr

def executableVariable : String := "ADB"

def commandCapacity : Nat := 512

def judge (command : String) : Outcome → Act (Except BridgeError Unit)
  | .code n =>
    if n = 0 then return .ok ()
    else do
      note .debug s!"adb {command} returned with value {n}"
      return .error (.nonZeroExit command n)
  | .unknown => do
    note .debug s!"adb {command} terminated abnormally"
    return .error (.abnormalExit command)

def reportUnstarted (command : String) (argv : List String) (cause : SpawnError) :
    Act BridgeError := do
  match cause with
  | .missing program =>
    note .error <| s!"command not found: {program}; install the Android platform tools, " ++
      s!"or set {executableVariable} to the full path of adb"
  | _ => note .error s!"failed to execute: {Rendering.render argv commandCapacity}"
  return .spawn command cause

/-- Kill and release a child that will not be waited for. -/
def abandon (child : Nat) : Act Unit := do
  if let some cause ← kill child then
    note .debug s!"could not terminate process {((← get).children child).pid}: {cause.message}"
  let _ ← wait child true

/-- Wait for a child, disarm the token and release the child. -/
def conclude (token : String) (child : Nat) : Act Outcome := do
  let outcome ← wait child false
  disarm token
  let _ ← wait child true
  return outcome

def wasCancelled (token : String) (outcome : Outcome) : Act Bool := do
  return !outcome.isSuccess && (← isInterrupted token)

/-- Read the output that a query wants, and let the child finish when only the head counts. -/
def readAnswer (q : Query) (child : Nat) (output : Output) : Act (Except Fault Capture) := do
  match ← readOutput child output q.limit with
  | .ok (.overflow head) =>
    match q.excess with
    | .refuse => return .ok (.overflow head)
    | .cut =>
      note .debug s!"adb {q.name} output truncated to {q.limit} bytes"
      return (← drainOutput child output).map fun _ => .complete head
  | result => return result

def isUnfinished : Except Fault Capture → Bool
  | .ok capture => !capture.isComplete
  | .error _ => true

/-- Read the output that a query wants, and kill a child that would write on for nobody. -/
def readAll (q : Query) (child : Nat) (output : Output) : Act (Except Fault Capture) := do
  let result ← readAnswer q child output
  if isUnfinished result then
    if let some cause ← kill child then
      note .debug s!"could not terminate adb {q.name}: {cause.message}"
  return result

namespace Bridge

def argv (b : Bridge) (arguments : List String) : List String := b.executable :: arguments

/-- Issue a command unless the token is interrupted, and go on with what became of it. -/
def issue {α : Type} (b : Bridge) (token : String) (arguments : List String) (mode : Mode)
    (proceed : Except SpawnError (Nat × Output) → Act (Except BridgeError α)) :
    Act (Except BridgeError α) := do
  if ← isInterrupted token then return .error .interrupted
  note .debug s!"execute: {Rendering.render (b.argv arguments) commandCapacity}"
  proceed (← spawn (b.argv arguments) mode)

/-- Look after a child: do something with it while it runs, wait for it, and finish unless it was
cancelled. -/
def supervise {α β : Type} (token : String) (child : Nat) (meanwhile : Act β)
    (finish : Outcome → β → Act (Except BridgeError α)) : Act (Except BridgeError α) := do
  if ← arm token (.process child) then
    let result ← meanwhile
    let outcome ← conclude token child
    if ← wasCancelled token outcome then return .error .interrupted
    finish outcome result
  else
    abandon child
    return .error .interrupted

def act (b : Bridge) (token : String) (a : Action) : Act (Except BridgeError Unit) :=
  b.issue token a.arguments a.mode fun
    | .error cause => return .error (← reportUnstarted a.name (b.argv a.arguments) cause)
    | .ok (child, _) => supervise token child (return ()) fun outcome _ => judge a.name outcome

/-- The text of a query's output, once the child has come to an outcome. -/
def answer (q : Query) (outcome : Outcome) : Except Fault Capture → Act (Except BridgeError String)
  | .ok (.complete bytes) => do
    return (← judge q.name outcome).map fun _ => Utf8.decode bytes
  | .ok (.overflow _) => do
    note .error s!"adb {q.name} output is larger than {q.limit} bytes"
    return .error (.captureOverflow q.name q.limit)
  | .error cause => return .error (.io q.name cause)

def ask (b : Bridge) (token : String) (q : Query) : Act (Except BridgeError String) :=
  b.issue token q.arguments .capture fun
    | .error cause => return .error (← reportUnstarted q.name (b.argv q.arguments) cause)
    | .ok (child, output) => supervise token child (readAll q child output) (answer q)

end Bridge
end DebugBridge
