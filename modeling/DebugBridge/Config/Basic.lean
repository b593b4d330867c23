import DebugBridge.Bridge.Run
import DebugBridge.Device.Selection
import DebugBridge.PortRange

/-!
# The configuration

The settings of the program, each with the value it has when nothing else is said. Which device is
meant may be said in one way only, and the port range has to be one. The bridge executable is the
first candidate that is not empty: the configured one, the environment's, and then a name to look
up.
-/

namespace DebugBridge

namespace Config

structure General where
  logLevel : String := "info"
  deriving DecidableEq, Repr

structure BridgeSettings where
  executable? : Option String := none
  deriving DecidableEq, Repr

structure TunnelSettings where
  portRange : String := "27183:27199"
  forceForward : Bool := false
  socketName : String := "adbtun"
  connectAttempts : UInt32 := 100
  /-- Milliseconds. -/
  retryDelay : UInt64 := 100
  deriving DecidableEq, Repr

/-- Which device is meant when the command line does not say. -/
structure DeviceSettings where
  serial? : Option String := none
  usb : Bool := false
  tcpip : Bool := false
  deriving DecidableEq, Repr

end Config

structure Config where
  general : Config.General := {}
  bridge : Config.BridgeSettings := {}
  tunnel : Config.TunnelSettings := {}
  device : Config.DeviceSettings := {}
  deriving DecidableEq, Repr

inductive ConfigError where
  /-- It is not known where the configuration is kept. -/
  | noDirectory
  | io (path : String) (cause : Fault)
  | malformed
  /-- A value is too large to be written. -/
  | unwritable
  | invalid (reason : String)
  deriving DecidableEq, Repr

/-- The failure in words. What is wrong with a malformed document is not said. -/
def ConfigError.message : ConfigError → String
  | .noDirectory => "could not determine platform config directory"
  | .io path cause => s!"I/O error accessing config at {path}: {cause.message}"
  | .malformed => "failed to parse config TOML"
  | .unwritable => "failed to serialize config"
  | .invalid reason => s!"invalid configuration: {reason}"

namespace Config

def portRange (c : Config) : Except ConfigError PortRange :=
  (PortRange.ofText c.tunnel.portRange).mapError fun e =>
    .invalid s!"tunnel.port_range: {e.message}"

def selector (c : Config) : Except ConfigError Selector :=
  match c.device.serial?, c.device.usb, c.device.tcpip with
  | none, false, false => .ok .any
  | some serial, false, false => .ok (.serial serial)
  | none, true, false => .ok .usb
  | none, false, true => .ok .tcpip
  | _, _, _ => .error <| .invalid <|
    "device.serial, device.select_usb and device.select_tcpip are mutually exclusive"

/-- The name of the bridge executable when nothing names another. -/
def standardExecutable : String := "adb"

def resolveExecutable (configured? environment? : Option String) : String :=
  (([configured?, environment?].filterMap id).find? (· ≠ "")).getD standardExecutable

def resolveBridge (c : Config) (environment? : Option String) : Bridge :=
  { executable := resolveExecutable c.bridge.executable? environment? }

end Config
end DebugBridge
