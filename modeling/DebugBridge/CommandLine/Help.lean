import DebugBridge.CommandLine.Invocation
import DebugBridge.Text.Padding

/-!
# Help

A page of help says what a topic is for, how it is written, and what each of its parts means, in
columns.
-/

namespace DebugBridge.CommandLine

def programName : String := "adbtun"

def versionLine : String := s!"{programName} 0.1.0"

def configVariable : String := "ADBTUN_CONFIG"

namespace Opt

def spelling (o : Opt) : String :=
  match o.placeholder? with
  | none => s!"--{o.long}"
  | some placeholder => s!"--{o.long} <{placeholder}>"

def about : Opt → String
  | .config => "Config file to use instead of the platform default"
  | .executable => "Path to the adb executable.  Overrides the config file and `$ADB`"
  | .serial => "Serial of the device; an IP alone matches any port"
  | .usb => "Only consider USB devices"
  | .tcpip => "Only consider TCP/IP devices (and emulators)"
  | .portRange => "Local ports to try, `first:last` or a single port"
  | .forceForward => "Use `adb forward` without trying `adb reverse` first"
  | .port => "Port adbd should listen on"
  | .force => "Overwrite an existing file"
  | .help => "Print help"
  | .version => "Print version"

def remark (configured? : Option String) : Opt → String
  | .config => " [env: " ++ configVariable ++ "=" ++ configured?.getD "" ++ "]"
  | .port => s!" [default: {standardPort}]"
  | _ => ""

end Opt

namespace Verb

def about : Verb → String
  | .devices => "List attached devices"
  | .select => "Resolve one device and print its serial"
  | .ip => "Print the WLAN address of the selected device"
  | .tunnel => "Open the tunnel, wait for one device connection, then close it"
  | .tcpip => "Switch the selected USB device to TCP/IP mode and connect to it"
  | .serialno => "Print the serial of the only attached device (`adb get-serialno`)"
  | .shell => "Run a shell command on the selected device"
  | .initConfig => "Write a config file with default values"

end Verb

def Topic.about : Topic → String
  | .program => "Device discovery and tunnel negotiation over the Android debug bridge"
  | .command v => v.about
  | .help => "Print this message or the help of the given subcommand(s)"

def Topic.usage : Topic → String
  | .program => s!"{programName} [OPTIONS] <COMMAND>"
  | .command .shell => s!"{programName} shell [OPTIONS] -- <ARGS>..."
  | .command v => s!"{programName} {v.name} [OPTIONS]"
  | .help => s!"{programName} help [COMMAND]..."

/-- The options of a topic in the order of its page: each of the program's stands before the option
of the command that has the same rank. -/
def Topic.options : Topic → List Opt
  | .program => [.config, .executable, .help, .version]
  | .command v => [.config] ++ v.options.take 1 ++ [.executable] ++ v.options.drop 1 ++ [.help]
  | .help => []

def columns (rows : List (String × String)) : List String :=
  let width := rows.foldl (fun w row => max w row.1.length) 0
  rows.map fun (left, right) =>
    "  " ++ String.ofList (Text.padRight width left.toList) ++ "  " ++ right

def optionRow (configured? : Option String) (o : Opt) : String × String :=
  let short := match o.short? with
    | some c => s!"-{c}, "
    | none => "    "
  (short ++ o.spelling, o.about ++ o.remark configured?)

def Topic.sections (configured? : Option String) (t : Topic) :
    List (String × List (String × String)) :=
  let commands := match t with
    | .program => Verb.all.map (fun v => (v.name, v.about)) ++ [("help", Topic.help.about)]
    | _ => []
  let words := match t with
    | .command .shell => [("<ARGS>...", "Command and arguments, after `--`")]
    | .help => [("[COMMAND]...", "Print help for the subcommand(s)")]
    | _ => []
  [("Commands:", commands), ("Arguments:", words),
    ("Options:", t.options.map (optionRow configured?))].filter (!·.2.isEmpty)

def Topic.page (configured? : Option String) (t : Topic) : List String :=
  [t.about, "", "Usage: " ++ t.usage] ++
    (t.sections configured?).flatMap fun (heading, rows) => "" :: heading :: columns rows

end DebugBridge.CommandLine
