import DebugBridge.PortRange

/-!
# The grammar of the command line

The program has options and commands, and each command has options of its own. The options of the
program may also be given after the command. An option is flagged by its presence or carries a
value, and the texts that are values differ from option to option.
-/

namespace DebugBridge.CommandLine

inductive Opt where
  | config
  | executable
  | serial
  | usb
  | tcpip
  | portRange
  | forceForward
  | port
  | force
  | help
  | version
  deriving DecidableEq, Repr

inductive Verb where
  | devices
  | select
  | ip
  | tunnel
  | tcpip
  | serialno
  | shell
  | initConfig
  deriving DecidableEq, Repr

/-- The port that a text names: an optional sign and digits, nothing around them. -/
def portValue? (text : String) : Option Nat :=
  match Text.signed? text.toList with
  | some n => if 0 ≤ n ∧ n ≤ maxPort then some n.toNat else none
  | none => none

namespace Opt

def long : Opt → String
  | .config => "config"
  | .executable => "adb"
  | .serial => "serial"
  | .usb => "select-usb"
  | .tcpip => "select-tcpip"
  | .portRange => "port-range"
  | .forceForward => "force-forward"
  | .port => "port"
  | .force => "force"
  | .help => "help"
  | .version => "version"

def short? : Opt → Option Char
  | .serial => some 's'
  | .usb => some 'd'
  | .tcpip => some 'e'
  | .help => some 'h'
  | .version => some 'V'
  | _ => none

def placeholder? : Opt → Option String
  | .config => some "CONFIG"
  | .executable => some "ADB"
  | .serial => some "SERIAL"
  | .portRange => some "PORT_RANGE"
  | .port => some "PORT"
  | _ => none

def carriesValue (o : Opt) : Bool := o.placeholder?.isSome

def accepts : Opt → String → Bool
  | .config, text => text ≠ ""
  | .portRange, text => (PortRange.ofText text).isOk
  | .port, text => (portValue? text).isSome
  | _, _ => true

end Opt

namespace Verb

def all : List Verb := [.devices, .select, .ip, .tunnel, .tcpip, .serialno, .shell, .initConfig]

def name : Verb → String
  | .devices => "devices"
  | .select => "select"
  | .ip => "ip"
  | .tunnel => "tunnel"
  | .tcpip => "tcpip"
  | .serialno => "serialno"
  | .shell => "shell"
  | .initConfig => "init-config"

def ofName? (name : String) : Option Verb := all.find? (·.name = name)

def concernsDevice : Verb → Bool
  | .select | .ip | .tunnel | .tcpip | .shell => true
  | _ => false

def options (v : Verb) : List Opt :=
  (if v.concernsDevice then [.serial, .usb, .tcpip] else []) ++
  match v with
  | .tunnel => [.portRange, .forceForward]
  | .tcpip => [.port]
  | .initConfig => [.force]
  | _ => []

end Verb

def globalOptions : List Opt := [.config, .executable]

def optionsAt : Option Verb → List Opt
  | none => globalOptions ++ [.help, .version]
  | some v => v.options ++ globalOptions ++ [.help]

theorem Verb.ofName?_name (v : Verb) : Verb.ofName? v.name = some v := by cases v <;> rfl

end DebugBridge.CommandLine
