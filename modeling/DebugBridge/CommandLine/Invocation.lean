import DebugBridge.CommandLine.Reading
import DebugBridge.Device.Selection

/-!
# Invocations

What a user asks for: a command, and the options of the program, which hold for the command wherever
they were given. Of two places the one after the command counts, and an option of the command line
counts before the environment. A variable of the environment is judged on every level on which the
option is not given. How the arguments of one level are read is left to a reader.
-/

namespace DebugBridge.CommandLine

/-- A command that uses the bridge. Without a selector it leaves the device to the configuration. -/
inductive Command where
  | devices
  | select (selector? : Option Selector)
  | ip (selector? : Option Selector)
  | tunnel (selector? : Option Selector) (range? : Option PortRange) (forceForward : Bool)
  | tcpip (selector? : Option Selector) (port : Nat)
  | serialno
  | shell (selector? : Option Selector) (words : List String)
  deriving DecidableEq, Repr

inductive Task where
  /-- Write a configuration with standard values. -/
  | initConfig (force : Bool)
  | command (c : Command)
  deriving DecidableEq, Repr

structure Invocation where
  config? : Option String := none
  executable? : Option String := none
  task : Task
  deriving DecidableEq, Repr

/-- The port on which a device is told to listen when the command line names none. -/
def standardPort : Nat := 5555

namespace Reading

/-- The device that the options mean. They may say it in one way only. -/
def selector? (r : Reading) : Except Stop (Option Selector) :=
  match r.value? .serial, r.has .usb, r.has .tcpip with
  | none, false, false => .ok none
  | some serial, false, false => .ok (some (.serial serial))
  | none, true, false => .ok (some .usb)
  | none, false, true => .ok (some .tcpip)
  | _, _, _ => .error .usage

def range? (r : Reading) : Option PortRange :=
  (r.value? .portRange).bind fun text => (PortRange.ofText text).toOption

def port (r : Reading) : Nat := ((r.value? .port).bind portValue?).getD standardPort

def checkVariable (r : Reading) (o : Opt) (configured? : Option String) : Except Stop Unit :=
  if r.has o || configured?.all o.accepts then .ok () else .error .usage

end Reading

/-- The task that a command makes of its options and literal words. Only a shell command has such
words, and it has at least one. -/
def Verb.task (v : Verb) (r : Reading) (literal : List String) : Except Stop Task := do
  let selector? ← r.selector?
  match v, literal with
  | .shell, word :: words => return .command (.shell selector? (word :: words))
  | .shell, [] | _, _ :: _ => throw .usage
  | .devices, [] => return .command .devices
  | .select, [] => return .command (.select selector?)
  | .ip, [] => return .command (.ip selector?)
  | .tunnel, [] => return .command (.tunnel selector? r.range? (r.has .forceForward))
  | .tcpip, [] => return .command (.tcpip selector? r.port)
  | .serialno, [] => return .command .serialno
  | .initConfig, [] => return .initConfig (r.has .force)

/-- Read an invocation; a variable of the environment may name the configuration. -/
def Invocation.ofArguments (reader : Reader) (configured? : Option String)
    (arguments : List String) : Except Stop Invocation := do
  let before ← reader none arguments
  match before.command? with
  | none => throw .usage
  | some (v, rest) =>
    let after ← reader (some v) rest
    let own ← after.options.settle
    own.checkVariable .config configured?
    let task ← v.task own after.literal
    let outer ← before.options.settle
    outer.checkVariable .config configured?
    return {
      config? := (own.value? .config).or ((outer.value? .config).or configured?),
      executable? := (own.value? .executable).or (outer.value? .executable),
      task := task }

end DebugBridge.CommandLine
